/-!
# Records as text

The long text of a value for people who look into a running program: the name of its type, and
its fields by name or by place.
-/

namespace Multiplex.Text

/-- A record with named fields; its name alone if it has none. -/
def recordText (name : String) (fields : List (String × String)) : String :=
  if fields.isEmpty then name
  else name ++ " \x7b " ++
    String.intercalate ", " (fields.map fun (field, value) => field ++ ": " ++ value) ++ " \x7d"

/-- A value wrapped in a name. -/
def wrappedText (name value : String) : String := name ++ "(" ++ value ++ ")"

/-- Items in brackets. -/
def listText (items : List String) : String := "[" ++ String.intercalate ", " items ++ "]"

/-- A truth value. -/
def boolText (b : Bool) : String := if b then "true" else "false"

end Multiplex.Text
