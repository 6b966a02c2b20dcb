namespace StaticSemantics

/-!
# The kinds of diagnostics

Every diagnostic belongs to one of seven kinds.  A kind has two written forms:
the words shown to a reader, and the tag under which it is stored.
-/

/-- The category of a diagnostic. -/
inductive DiagnosticKind where
  /-- A name is not bound where it is used. -/
  | undefinedName
  /-- A name or a value is used as something that it is not. -/
  | kindMismatch
  /-- Two types that have to agree do not. -/
  | typeMismatch
  /-- The numbers of declared and of supplied arguments or fields differ. -/
  | arityMismatch
  /-- A variable is initialised with a value from which it gets no type. -/
  | invalidInitializer
  /-- A chain of type aliases never reaches a concrete type. -/
  | typeCycle
  /-- The tree itself is malformed. -/
  | unexpectedNode
  deriving DecidableEq, Repr

namespace DiagnosticKind

/-- All kinds, each once. -/
def all : List DiagnosticKind :=
  [undefinedName, kindMismatch, typeMismatch, arityMismatch, invalidInitializer, typeCycle,
    unexpectedNode]

/-- The words shown to a reader. -/
def text : DiagnosticKind → String
  | undefinedName => "undefined name"
  | kindMismatch => "kind mismatch"
  | typeMismatch => "type mismatch"
  | arityMismatch => "arity mismatch"
  | invalidInitializer => "invalid initializer"
  | typeCycle => "type cycle"
  | unexpectedNode => "unexpected node"

/-- The tag under which a kind is stored. -/
def tag : DiagnosticKind → String
  | undefinedName => "undefined_name"
  | kindMismatch => "kind_mismatch"
  | typeMismatch => "type_mismatch"
  | arityMismatch => "arity_mismatch"
  | invalidInitializer => "invalid_initializer"
  | typeCycle => "type_cycle"
  | unexpectedNode => "unexpected_node_kind"

/-- The kind that a tag stands for. -/
def ofTag? (tag : String) : Option DiagnosticKind :=
  all.find? fun kind => kind.tag == tag

theorem mem_all (kind : DiagnosticKind) : kind ∈ all := by
  cases kind <;> decide

theorem ofTag?_tag (kind : DiagnosticKind) : ofTag? kind.tag = some kind := by
  cases kind <;> decide

theorem tag_injective {first second : DiagnosticKind} (same : first.tag = second.tag) :
    first = second :=
  Option.some.inj ((ofTag?_tag first).symm.trans (same ▸ ofTag?_tag second))

/-- A tag is read as a kind only if it is that kind's own tag. -/
theorem tag_of_ofTag? {tag : String} {kind : DiagnosticKind} (read : ofTag? tag = some kind) :
    kind.tag = tag := by
  have found := List.find?_some read
  simpa using found

end DiagnosticKind
end StaticSemantics
