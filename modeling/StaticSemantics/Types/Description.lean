import StaticSemantics.Types.Basic

namespace StaticSemantics
namespace Types

/-!
# What messages call a type

A declared type is called by its declared name, whatever stands behind it.
The others are described by their structure, one level deep: a field may lead
back to the record that holds it, and a text has to end.

Two types may have been declared under one name in different scopes.  Where a
message sets two types against each other and they would read the same, the
place of its declaration is added to each that has one.
-/

/-- What a field or an element is called inside the description of the type
that holds it. -/
def briefName (types : Types) (id : TypeId) : String :=
  match types.site? id with
  | some site => site.name
  | none =>
    match types.get id with
    | .int => "int"
    | .string => "string"
    | .void => "void"
    | .nil => "nil"
    | .error => "<error>"
    | .alias name _ => name
    | .record _ => "\x7b...\x7d"
    | .array _ => "array of ..."

/-- What a message calls a type. -/
def describe (types : Types) (id : TypeId) : String :=
  match types.site? id with
  | some site => site.name
  | none =>
    match types.get id with
    | .record fields =>
      let members := fields.map fun field => s!"{field.name}: {types.briefName field.type}"
      "\x7b" ++ ", ".intercalate members ++ "\x7d"
    | .array element => s!"array of {types.briefName element}"
    | _ => types.briefName id

/-- A description with the place of the declaration, if there is one. -/
def withPlace (types : Types) (id : TypeId) (description : String) : String :=
  match types.site? id with
  | some site => s!"{description} (declared at {site.span.text})"
  | none => description

/-- What a message calls the two sides of a disagreement. -/
def describeApart (types : Types) (expected found : TypeId) : String × String :=
  if types.describe expected = types.describe found then
    (types.withPlace expected (types.describe expected),
      types.withPlace found (types.describe found))
  else (types.describe expected, types.describe found)

theorem describe_of_site {types : Types} {id : TypeId} {site : TypeSite}
    (known : types.site? id = some site) : types.describe id = site.name := by
  simp [describe, known]

/-- Names that already differ are left alone. -/
theorem describeApart_of_ne {types : Types} {expected found : TypeId}
    (different : types.describe expected ≠ types.describe found) :
    types.describeApart expected found = (types.describe expected, types.describe found) :=
  if_neg different

end Types
end StaticSemantics
