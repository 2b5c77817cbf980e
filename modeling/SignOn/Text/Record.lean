/-!
# Records as text

Values are shown for diagnosis as the name of their type with named fields between braces; two dots
stand for fields that are kept back.

## Main definitions

* `Text.record` - a record with all its fields
* `Text.partialRecord` - a record that keeps some fields back
* `Text.present` - an optional value
-/

namespace SignOn.Text

/-- Field names with the texts of their values. -/
def fieldList (fields : List (String × String)) : String :=
  String.intercalate ", " (fields.map fun field => field.1 ++ ": " ++ field.2)

/-- A record with all its fields. -/
def record (name : String) (fields : List (String × String)) : String :=
  if fields.isEmpty then name else name ++ " \x7b " ++ fieldList fields ++ " \x7d"

/-- A record that keeps some of its fields back. -/
def partialRecord (name : String) (fields : List (String × String)) : String :=
  let shown := String.join (fields.map fun field => field.1 ++ ": " ++ field.2 ++ ", ")
  name ++ " \x7b " ++ shown ++ ".. \x7d"

/-- The text of an optional value. -/
def present : Option String → String
  | some text => "Some(" ++ text ++ ")"
  | none => "None"

end SignOn.Text
