/-!
# Structured data

The data model in which values are written and read: null, truth values, numbers, texts, lists and
records.
-/
namespace NameScope

inductive Data where
  | null
  | bool (value : Bool)
  | integer (value : Int)
  /-- A number that is not written as an integer, as its literal. -/
  | decimal (literal : String)
  | text (value : String)
  | list (items : List Data)
  /-- Named members, no name twice. -/
  | record (members : List (String × Data))
  deriving Repr, BEq, Inhabited

namespace Data

/-- The member of a record with this name. -/
def member? (name : String) : List (String × Data) → Option Data
  | [] => none
  | (n, d) :: members => if n = name then some d else member? name members

/-- The values of the named fields, from a record by their names or from a list by their places.
A record may lack some of them and have others; a list must have all of them and no more. -/
def fields? (names : List String) : Data → Option (List (Option Data))
  | .record members => some (names.map fun name => member? name members)
  | .list items => if items.length = names.length then some (items.map some) else none
  | _ => none

/-- Like `fields?`, but a list may end early. -/
def fieldsUpTo? (names : List String) : Data → Option (List (Option Data))
  | .record members => some (names.map fun name => member? name members)
  | .list items =>
    if items.length ≤ names.length then
      some (items.map some ++ List.replicate (names.length - items.length) none)
    else none
  | _ => none

/-- The name of a case without content, which stands alone or in a record with a null. -/
def caseName? : Data → Option String
  | .text name => some name
  | .record [(name, .null)] => some name
  | _ => none

end Data

end NameScope
