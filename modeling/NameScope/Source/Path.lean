/-!
# Paths, up to spelling

Two paths name the same file when their parts agree. Repeated and trailing slashes do not count,
nor does a part `.` other than one that opens a relative path; `..` is a part like any other.
-/
namespace NameScope

/-- A part of a path. -/
inductive PathPart where
  /-- The slash that opens an absolute path. -/
  | root
  /-- The `.` that opens a relative path. -/
  | here
  | name (text : String)
  deriving DecidableEq, Repr

namespace PathPart

/-- The pieces between slashes. -/
def pieces : List Char → List (List Char)
  | [] => [[]]
  | c :: cs =>
    if c = '/' then [] :: pieces cs
    else
      match pieces cs with
      | [] => [[c]]
      | p :: ps => (c :: p) :: ps

/-- A piece that is neither empty nor `.`. -/
def named? (piece : List Char) : Option PathPart :=
  if piece = [] ∨ piece = ['.'] then none else some (.name (String.ofList piece))

/-- The parts of a path. -/
def ofPath (path : String) : List PathPart :=
  match path.toList with
  | '/' :: cs => .root :: (pieces cs).filterMap named?
  | cs =>
    match pieces cs with
    | ['.'] :: ps => .here :: ps.filterMap named?
    | ps => ps.filterMap named?

end PathPart

end NameScope
