import NameScope.Name.Package

/-!
# What can be wrong with a script's names

Each error is its cause; `message` and `code` say how it is reported.
-/
namespace NameScope

/-- What a reference was looked up as. -/
inductive ReferenceKind where
  | func
  | struct
  /-- The declared type of a field, a parameter or a return value. -/
  | typeOf
  | field
  deriving DecidableEq, Repr, Inhabited

def ReferenceKind.text : ReferenceKind → String
  | .func => "func"
  | .struct => "struct"
  | .typeOf => "type of"
  | .field => "field"

inductive MemberKind where
  | field | parameter
  deriving DecidableEq, Repr, Inhabited

def MemberKind.text : MemberKind → String
  | .field => "field"
  | .parameter => "parameter"

inductive DeclKind where
  | struct | func
  deriving DecidableEq, Repr, Inhabited

def DeclKind.text : DeclKind → String
  | .struct => "struct"
  | .func => "func"

inductive SemanticError where
  /-- No package has a matching declaration. -/
  | unresolved (kind : ReferenceKind) (name : String)
  /-- Only packages that are not imported have one. For each candidate that is shown,
  `suggestions` lists the packages whose import would make it visible. -/
  | outOfScope (kind : ReferenceKind) (name : String) (suggestions : List (List PackageId))
      (omitted : Nat)
  /-- Several imported declarations match. -/
  | ambiguous (kind : ReferenceKind) (name : String) (candidates : List String)
  | ambiguousType (member : String) (candidates : List String)
  /-- A field or parameter repeats the name of an earlier one. -/
  | duplicateMember (kind : MemberKind) (name : String)
  /-- A struct or func repeats a name of its package. -/
  | duplicateDeclaration (kind : DeclKind) (name : String) (package : QualifiedName)
  /-- A struct has no such field. -/
  | unknownField (field : String) (owner : QualifiedName)
  deriving DecidableEq, Repr

namespace SemanticError

/-- One line per candidate that is shown, and one for the number of the others. -/
def suggestionLines (suggestions : List (List PackageId)) (omitted : Nat) : String :=
  String.join (suggestions.map fun packages =>
    "\n• import " ++ String.intercalate ", " (packages.map PackageId.text)) ++
  if omitted > 0 then "\n• ... and " ++ toString omitted ++ " more" else ""

def message : SemanticError → String
  | .unresolved kind name => "could not resolve " ++ kind.text ++ " " ++ name
  | .outOfScope kind name suggestions omitted =>
    "could not resolve " ++ kind.text ++ " " ++ name ++ "; try one of the following:" ++
      suggestionLines suggestions omitted
  | .ambiguous kind name candidates =>
    "reference to " ++ kind.text ++ " " ++ name ++ " was ambiguous, possibilities were: " ++
      String.intercalate ", " candidates
  | .ambiguousType member candidates =>
    "type of " ++ member ++ " was ambiguous, possibilities were: " ++
      String.intercalate ", " candidates
  | .duplicateMember kind name => kind.text ++ " " ++ name ++ " was already defined"
  | .duplicateDeclaration kind name package =>
    kind.text ++ " " ++ name ++ " was already declared in package " ++ package.text
  | .unknownField field owner => "could not resolve field " ++ field ++ " of struct " ++ owner.text

def code : SemanticError → String
  | .unresolved _ _ | .unknownField _ _ => "E0001"
  | .ambiguous _ _ _ | .ambiguousType _ _ => "E0002"
  | .outOfScope _ _ _ _ => "E0003"
  | .duplicateMember _ _ => "E0004"
  | .duplicateDeclaration _ _ _ => "E0005"

end SemanticError

end NameScope
