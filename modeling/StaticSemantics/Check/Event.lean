import StaticSemantics.Diagnostic.Basic
import StaticSemantics.Scope.Operation
import StaticSemantics.Types.Alias

namespace StaticSemantics

/-!
# What happens during a check

A check is watched through the events that it leaves behind, in the order in
which they happen.  The diagnostics, the requests to the allocator and the log
are three views of this one list, so no view can disagree with another about
what came first.

Events carry values and not texts.  The words are chosen where a view is made.
-/

/-- Something that happens during a check. -/
inductive Event where
  /-- A problem is reported. -/
  | reported (span : Span) (problem : Problem)
  /-- The allocator is asked for a handle. -/
  | requested (call : Storage.Call)
  /-- A name is bound, at a depth of scopes. -/
  | bound (name : String) (kind : EntryKind) (depth : Nat)
  /-- All bindings of an environment are shown. -/
  | listed (env : Environment)
  /-- The scopes of a block have been opened. -/
  | blockOpened (span : Span) (declarations : Nat)
  | functionsGrouped (names : List String)
  | typesGrouped (names : List String)
  /-- A new alias leads to a circle that is none of its own group's doing. -/
  | aliasBroken (name : String) (error : AliasError)
  /-- A whole program has been checked. -/
  | finished (description : String)
  deriving DecidableEq, Repr

/-- How much of the log is wanted: `trace` wants everything. -/
inductive LogLevel where
  | debug
  | trace
  deriving DecidableEq, Repr

/-- A line of the log. -/
structure LogLine where
  level : LogLevel
  text : String
  deriving DecidableEq, Repr

namespace Event

/-- The problem that an event reports, with its place. -/
def problem? : Event → Option (Span × Problem)
  | reported span problem => some (span, problem)
  | _ => none

/-- The diagnostic that an event reports. -/
def diagnostic? (event : Event) : Option Diagnostic :=
  event.problem?.map fun (span, problem) => .ofProblem span problem

/-- The request that an event makes of the allocator. -/
def call? : Event → Option Storage.Call
  | requested call => some call
  | _ => none

/-- The lines that an event writes into the log. -/
def log : Event → List LogLine
  | reported span problem => [⟨.debug, s!"{span.text}: {problem.message}"⟩]
  | requested _ => []
  | bound name kind depth =>
    [⟨.trace, "enter '" ++ name ++ s!"' as {kind.text} at depth {depth}"⟩]
  | listed env => env.listing.map (⟨.trace, ·⟩)
  | blockOpened span declarations =>
    [⟨.debug, s!"let at {span.text}: {declarations} declaration(s)"⟩]
  | functionsGrouped names => [⟨.debug, "function group: " ++ ", ".intercalate names⟩]
  | typesGrouped names => [⟨.debug, "type group: " ++ ", ".intercalate names⟩]
  | aliasBroken name error =>
    [⟨.debug, "'" ++ name ++ s!"' resolves through broken alias: {error.message}"⟩]
  | finished description => [⟨.debug, s!"program type: {description}"⟩]

end Event

/-- The diagnostics among some events. -/
def diagnosticsOf (events : List Event) : List Diagnostic :=
  events.filterMap Event.diagnostic?

/-- The requests to the allocator among some events. -/
def callsOf (events : List Event) : List Storage.Call :=
  events.filterMap Event.call?

/-- The log of some events, as far as it is wanted. -/
def logOf (wanted : LogLevel) (events : List Event) : List LogLine :=
  (events.flatMap Event.log).filter fun line => wanted == .trace || line.level == .debug

/-- What happens when an environment is changed on its own. -/
def Environment.events (env : Environment) : Environment.Operation → List Event
  | .bind name entry => [.bound name entry.kind env.depth]
  | .openScope | .closeScope => []

theorem diagnosticsOf_append (first second : List Event) :
    diagnosticsOf (first ++ second) = diagnosticsOf first ++ diagnosticsOf second :=
  List.filterMap_append

theorem callsOf_append (first second : List Event) :
    callsOf (first ++ second) = callsOf first ++ callsOf second :=
  List.filterMap_append

theorem logOf_append (wanted : LogLevel) (first second : List Event) :
    logOf wanted (first ++ second) = logOf wanted first ++ logOf wanted second := by
  simp [logOf]

end StaticSemantics
