import Mathlib.Data.List.Forall2
import StaticSemantics.Proofs.TypeCycles

namespace StaticSemantics

/-!
# What the members of a group of types stand for

The right-hand sides of a group are read one after another, while the numbers of
other members have nothing behind them yet.  That cannot be seen afterwards.  A
name is read as it is bound after the whole group, so it stands for the last
member of that name, or else for what it stood for before the group; and a number
is final from the moment in which it is taken.

Here both are told without the passes that a group goes through: what a name
stands for by positions in the list of members, and what a right-hand side stands
for by a relation with one rule for each of its forms.
-/

/-- The position of the last member of a group with a name. -/
structure TypeDeclaration.IsLast (members : List TypeDeclaration) (name : String) (index : Nat) :
    Prop where
  named : ∃ member, members[index]? = some member ∧ member.name.name = name
  last : ∀ later other, index < later → members[later]? = some other → other.name.name ≠ name

/-- What a name stands for in a group of types.  It makes no difference where in
the group it is used. -/
inductive State.Refers (state : State) (members : List TypeDeclaration) (name : String) :
    Option TypeId → Prop
  | member {index : Nat} (last : TypeDeclaration.IsLast members name index) :
      Refers state members name (some ⟨state.types.size + index⟩)
  | outer {id : TypeId} (foreign : ∀ member ∈ members, member.name.name ≠ name)
      (bound : state.typeNames.lookUpType name = .ok id) : Refers state members name (some id)
  | unknown (foreign : ∀ member ∈ members, member.name.name ≠ name)
      (unbound : state.typeNames.lookUp name = .error (.notFound name)) :
      Refers state members name none

namespace TypeExpression

/-- The type of a field or of the elements of an array.  A name that stands for
nothing is read as the error type. -/
def Reads (refers : String → Option TypeId → Prop) (name : Ident) (id : TypeId) : Prop :=
  refers name.name (some id) ∨ refers name.name none ∧ id = .error

/-- The type that a right-hand side stands for, where `refers` tells what names
stand for.  An alias of a name that stands for nothing is the error type itself. -/
inductive Translates (refers : String → Option TypeId → Prop) (declared : String) :
    TypeExpression → Ty → Prop
  | name {target : Ident} {span : Span} {id : TypeId} (known : refers target.name (some id)) :
      Translates refers declared (.name target span) (.alias declared (some id))
  | unknown {target : Ident} {span : Span} (unknown : refers target.name none) :
      Translates refers declared (.name target span) .error
  | record {written : List TypedName} {fields : List Field} {span : Span}
      (each : written.Forall₂ (fun typed field =>
        field.name = typed.name.name ∧ Reads refers typed.type field.type) fields) :
      Translates refers declared (.record written span) (.record fields)
  | array {element : Ident} {span : Span} {id : TypeId} (reads : Reads refers element id) :
      Translates refers declared (.array element span) (.array id)

variable {refers : String → Option TypeId → Prop} {env : Environment}

theorem reads_of_refers (answers : ∀ name, refers name (env.typeOf? name)) (name : Ident) :
    Reads refers name ((env.typeOf? name.name).getD .error) := by
  have answer := answers name.name
  cases known : env.typeOf? name.name with
  | none =>
      rw [known] at answer
      exact .inr ⟨answer, rfl⟩
  | some id =>
      rw [known] at answer
      exact .inl answer

theorem translates_meaning (answers : ∀ name, refers name (env.typeOf? name))
    (declared : String) (body : TypeExpression) :
    body.Translates refers declared (body.meaning env declared) := by
  cases body with
  | name target span =>
      have answer := answers target.name
      cases known : env.typeOf? target.name with
      | none =>
          rw [known] at answer
          simp only [meaning, known]
          exact .unknown answer
      | some id =>
          rw [known] at answer
          simp only [meaning, known]
          exact .name answer
  | record fields span =>
      refine .record (List.forall₂_map_right_iff.mpr (List.forall₂_same.mpr fun field _ => ?_))
      exact ⟨rfl, reads_of_refers answers field.type⟩
  | array element span => exact .array (reads_of_refers answers element)

end TypeExpression

/-!
## Names
-/

namespace TypeDeclaration.IsLast

variable {members : List TypeDeclaration} {name : String} {index : Nat}

theorem unique {other : Nat} (one : IsLast members name index)
    (two : IsLast members name other) : index = other := by
  rcases one.named with ⟨member, found, named⟩
  rcases two.named with ⟨otherMember, otherFound, otherNamed⟩
  rcases Nat.lt_trichotomy index other with before | same | behind
  · exact absurd otherNamed (one.last other otherMember before otherFound)
  · exact same
  · exact absurd named (two.last index member behind found)

theorem exists_mem (last : IsLast members name index) :
    ∃ member ∈ members, member.name.name = name := by
  rcases last.named with ⟨member, found, named⟩
  exact ⟨member, List.mem_of_getElem? found, named⟩

/-- The last one of the rest is the last one. -/
theorem cons (first : TypeDeclaration) (last : IsLast members name index) :
    IsLast (first :: members) name (index + 1) where
  named := last.named
  last := by
    intro later other behind found
    cases later with
    | zero => exact absurd behind (Nat.not_lt_zero _)
    | succ later => exact last.last later other (Nat.lt_of_succ_lt_succ behind) found

theorem head {first : TypeDeclaration} (named : first.name.name = name)
    (foreign : ∀ member ∈ members, member.name.name ≠ name) :
    IsLast (first :: members) name 0 where
  named := ⟨first, rfl, named⟩
  last := by
    intro later other behind found
    cases later with
    | zero => exact absurd behind (Nat.lt_irrefl _)
    | succ later => exact foreign other (List.mem_of_getElem? found)

end TypeDeclaration.IsLast

/-- Of the bindings of a group the last one of a name counts, and names that are
none of its members' keep their meaning. -/
theorem Environment.newest?_bindAll_groupBindings (env : Environment) (size : Nat)
    (members : List TypeDeclaration) (name : String) :
    (∃ index, TypeDeclaration.IsLast members name index ∧
      (env.bindAll (groupBindings size members)).newest? name = some (.type ⟨size + index⟩)) ∨
    (∀ member ∈ members, member.name.name ≠ name) ∧
      (env.bindAll (groupBindings size members)).newest? name = env.newest? name := by
  induction members generalizing env size with
  | nil => exact .inr ⟨nofun, rfl⟩
  | cons first rest inductionHypothesis =>
      rw [groupBindings_cons, bindAll_cons]
      rcases inductionHypothesis (env.bind first.name.name (.type ⟨size⟩)) (size + 1) with
        ⟨index, last, found⟩ | ⟨foreign, found⟩
      · refine .inl ⟨index + 1, last.cons first, found.trans ?_⟩
        rw [Nat.add_right_comm, Nat.add_assoc]
      · by_cases same : first.name.name = name
        · exact .inl ⟨0, .head same foreign, found.trans (by rw [newest?_bind, if_pos same]; rfl)⟩
        · exact .inr ⟨List.forall_mem_cons.mpr ⟨same, foreign⟩,
            found.trans (by rw [newest?_bind, if_neg same])⟩

namespace State

variable {state : State} {members : List TypeDeclaration} {allowed : TypeId → Prop}

theorem refers_typeOf? (fits : state.typeNames.Fits (· = .type) allowed) (name : String) :
    state.Refers members name ((state.groupNames members).typeOf? name) := by
  unfold Environment.typeOf? Environment.lookUpType groupNames
  rcases state.typeNames.newest?_bindAll_groupBindings state.types.size members name with
    ⟨index, last, found⟩ | ⟨foreign, found⟩
  · rw [found]
    exact .member last
  · rw [found]
    rcases fits.lookUpType_eq name with ⟨id, bound, stands⟩ | ⟨unbound, _⟩
    · rw [bound]
      exact .outer foreign stands
    · rw [unbound]
      exact .unknown foreign (by rw [Environment.lookUp, unbound])

/-- A name stands for one thing. -/
theorem Refers.unique {name : String} {one two : Option TypeId}
    (first : state.Refers members name one) (second : state.Refers members name two) :
    one = two := by
  have known : ∀ {id}, state.typeNames.lookUpType name = .ok id →
      state.typeNames.lookUp name ≠ .error (.notFound name) := by
    intro id bound unbound
    rw [Environment.lookUp, Environment.lookUpType_eq_ok_iff.mp bound] at unbound
    cases unbound
  cases first with
  | member last =>
      cases second with
      | member other => rw [last.unique other]
      | outer foreign | unknown foreign =>
          rcases last.exists_mem with ⟨member, listed, named⟩
          exact absurd named (foreign member listed)
  | outer foreign bound =>
      cases second with
      | member last =>
          rcases last.exists_mem with ⟨member, listed, named⟩
          exact absurd named (foreign member listed)
      | outer _ otherBound => exact congrArg Except.toOption (bound.symm.trans otherBound)
      | unknown _ unbound => exact absurd unbound (known bound)
  | unknown foreign unbound =>
      cases second with
      | member last =>
          rcases last.exists_mem with ⟨member, listed, named⟩
          exact absurd named (foreign member listed)
      | outer _ bound => exact absurd unbound (known bound)
      | unknown => rfl

/-- So this relation is the lookup after the group. -/
theorem refers_iff (fits : state.typeNames.Fits (· = .type) allowed) {name : String}
    {answer : Option TypeId} :
    state.Refers members name answer ↔ (state.groupNames members).typeOf? name = answer := by
  constructor
  · exact fun refers => (refers_typeOf? fits name).unique refers
  · rintro rfl
    exact refers_typeOf? fits name

end State

/-!
## The group
-/

/-- What a group of types leaves, member by member. -/
structure Run.TiesTogether (state : State) (members : List TypeDeclaration) (run : Run Unit) :
    Prop where
  ends : run.outcome = .ok ()
  size_eq : run.state.types.size = state.types.size + members.length
  /-- The numbers that were taken before keep their types. -/
  older : ∀ id, state.types.Holds id → run.state.types.get id = state.types.get id ∧
    run.state.types.site? id = state.types.site? id
  /-- The numbers that come next belong to the members, in order. -/
  site_eq : ∀ (index : Nat) (member : TypeDeclaration), members[index]? = some member →
    run.state.types.site? ⟨state.types.size + index⟩ = some member.site
  translates : ∀ (index : Nat) (member : TypeDeclaration), members[index]? = some member →
    member.body.Translates (state.Refers members) member.name.name
      (run.state.types.get ⟨state.types.size + index⟩)
  /-- Everything refers to types of the finished table. -/
  parts : ∀ id, ∀ part ∈ (run.state.types.get id).parts, run.state.types.Holds part
  bindings : run.state.typeNames.bindings =
    ((members.zipIdx state.types.size).map fun (member, number) =>
      ⟨member.name.name, .type ⟨number⟩⟩).reverse ++ state.typeNames.bindings
  marks : run.state.typeNames.marks = state.typeNames.marks
  /-- What a name refers to in the group is what it is bound to after it. -/
  refers : ∀ name answer,
    state.Refers members name answer ↔ run.state.typeNames.typeOf? name = answer
  /-- Each use of an unknown name is reported once; all else that is reported are
  circles of aliases. -/
  reports : ∃ circles, diagnosticsOf run.events =
      ((members.flatMap (·.body.used)).filter fun name =>
        (run.state.typeNames.typeOf? name.name).isNone).map Ident.unknownType ++ circles ∧
    ∀ diagnostic ∈ circles, diagnostic.kind = .typeCycle
  valueNames_eq : run.state.valueNames = state.valueNames
  frame_eq : run.state.frame = state.frame
  storage_eq : run.state.storage = state.storage
  calls : callsOf run.events = []

/-- In every history, the members of a group of types take the next numbers in
their order.  Behind each number stands what the right-hand side of its member
says, where a name stands for the last member of that name, or if there is none,
for what it was bound to before; where it stands for nothing, this is reported
once at the name.  Nothing changes but the types that are added and the names that
are bound. -/
theorem History.types_tied_together (outermost : Frame) (requests : List Request)
    (members : List TypeDeclaration) :
    let state := (ofRequests outermost requests).state
    ((Check.makeTypes members).run state).TiesTogether state members := by
  intro state
  have wellFormed : state.WellFormed :=
    (Discipline.wellFormed_ofRequests outermost requests).wellFormed
  have after := wellFormed.types.groupTypes members wellFormed.typeNames
  have names : (state.groupNames members).Fits (· = .type) (fun _ => True) :=
    (wellFormed.typeNames.mono fun _ _ => trivial).groupNames fun _ _ => trivial
  have reports : diagnosticsOf (members.flatMap fun member =>
      member.body.reports (state.groupNames members)) =
      ((members.flatMap (·.body.used)).filter fun name =>
        ((state.groupNames members).typeOf? name.name).isNone).map Ident.unknownType := by
    rw [← names.diagnosticsOf_reports, List.flatMap_assoc]
    rfl
  rw [Check.run_makeTypes]
  refine ⟨rfl, State.size_groupTypes, fun id held => ?_, fun index member found => ?_,
    fun index member found => ?_, after.parts, ?_, rfl, fun name answer => ?_, ?_, rfl, rfl, rfl,
    state.callsOf_groupEvents members⟩
  · exact ⟨State.get_groupTypes held, Types.site?_extend held _⟩
  · exact (State.of_mem_zip (mem_zip_groupIds.mpr ⟨index, found, rfl⟩)).2
  · change member.body.Translates _ _ ((state.groupTypes members).get _)
    rw [(State.of_mem_zip (mem_zip_groupIds.mpr ⟨index, found, rfl⟩)).1]
    exact TypeExpression.translates_meaning (State.refers_typeOf? wellFormed.typeNames) _ _
  · rw [← groupBindings_eq_map]
    rfl
  · exact State.refers_iff wellFormed.typeNames
  · refine ⟨(state.circularMembers members).map fun entry => entry.1.site.cycleReport, ?_,
      fun diagnostic said => ?_⟩
    · exact (state.diagnosticsOf_groupEvents members).trans (by rw [reports])
    · rcases List.mem_map.mp said with ⟨entry, _, rfl⟩
      rfl

end StaticSemantics
