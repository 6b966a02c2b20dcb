import StaticSemantics.Diagnostic.Stored

namespace StaticSemantics

/-!
# Settings

The settings of a run are read from JSON.  There is one so far.
-/

/-- What can be chosen for a run. -/
structure Settings where
  /-- How many diagnostics are stored; later ones are only counted. -/
  maxErrors : Nat
  deriving DecidableEq, Repr

namespace Settings

/-- The settings of a run for which nothing is chosen. -/
def standard : Settings :=
  ⟨Diagnostics.usualLimit⟩

/-- A collector as the settings want it. -/
def collector (settings : Settings) : Diagnostics :=
  .storing settings.maxErrors

/-- The number of diagnostics is a machine word. -/
def ofMaxErrors? (value : Json) : Option Settings :=
  (value.naturalBelow? UInt64.size).map Settings.mk

/-- Settings are an object or an array of their values.  What is missing is
standard. -/
def ofJson? : Json → Option Settings
  | .object members => do
    let members ← Json.keyed? members
    match ← Json.optional? "max_errors" members with
    | some value => ofMaxErrors? value
    | none => some standard
  | .array [] => some standard
  | .array [value] => ofMaxErrors? value
  | _ => none

/-- The settings that a text holds. -/
def read? (text : String) : Option Settings :=
  (Json.read? text).bind ofJson?

end Settings
end StaticSemantics
