import NameScope.Declared.Definition
import NameScope.Diagnostic.SemanticError

/-!
# Queries and what one package answers

A query asks for declarations of one kind that a name may mean. A package index answers queries for
structs and funcs, the type names of a package those for types; either answers nothing to the rest.
-/
namespace NameScope

structure FuncMatch where
  package : QualifiedName
  name : String
  definition : FuncDef
  deriving DecidableEq, Repr

structure StructMatch where
  package : QualifiedName
  name : String
  definition : StructDef
  deriving DecidableEq, Repr

/-- A type; only a struct has a place where it is declared. -/
structure TypeMatch where
  type : VarType
  target : Option Target
  deriving DecidableEq, Repr

def FuncMatch.qualified (m : FuncMatch) : QualifiedName := m.package.append m.name

def StructMatch.qualified (m : StructMatch) : QualifiedName := m.package.append m.name

/-- What reports and links need of a match. -/
class Matched (α : Type u) where
  qualifiedText : α → String
  target : α → Option Target

instance : Matched FuncMatch := ⟨fun m => m.qualified.text, fun m => some m.definition.toTarget⟩

instance : Matched StructMatch := ⟨fun m => m.qualified.text, fun m => some m.definition.toTarget⟩

instance : Matched TypeMatch := ⟨fun m => m.type.text, fun m => m.target⟩

/-- What is looked for. -/
inductive QueryKind where
  | func
  | struct
  /-- A struct, where a type is written. -/
  | type
  deriving DecidableEq, Repr, Inhabited

def QueryKind.reference : QueryKind → ReferenceKind
  | .func => .func
  | .struct => .struct
  | .type => .typeOf

/-- Declarations of a kind that a written name may mean. -/
structure Query where
  kind : QueryKind
  name : QualifiedName
  deriving DecidableEq, Repr

/-- Whether a declaration with this qualified name is meant. -/
def Query.accepts (q : Query) (full : QualifiedName) : Bool := q.name.isSuffixOf full

inductive Candidate where
  | func (found : FuncMatch)
  | struct (found : StructMatch)
  | type (found : TypeMatch)
  deriving DecidableEq, Repr

namespace Candidate

def func? : Candidate → Option FuncMatch
  | .func found => some found
  | _ => none

def struct? : Candidate → Option StructMatch
  | .struct found => some found
  | _ => none

def type? : Candidate → Option TypeMatch
  | .type found => some found
  | _ => none

end Candidate

/-- A table of one package that can be asked. -/
class Searchable (τ : Type u) where
  /-- What a query finds in the table of a package. -/
  candidates : (package : QualifiedName) → Query → τ → List Candidate

/-- The entries whose name closes the query and which it accepts. -/
def Query.select (q : Query) (package : QualifiedName) (entries : List (String × δ)) :
    List (String × δ) :=
  entries.filter fun e => e.1 == q.name.last && q.accepts (package.append e.1)

def PackageIndex.candidates (package : QualifiedName) (q : Query) (index : PackageIndex) :
    List Candidate :=
  match q.kind with
  | .func => (q.select package index.funcs.entries).map fun e => .func ⟨package, e.1, e.2⟩
  | .struct => (q.select package index.structs.entries).map fun e => .struct ⟨package, e.1, e.2⟩
  | .type => []

def TypeNames.candidates (package : QualifiedName) (q : Query) (names : TypeNames) :
    List Candidate :=
  match q.kind with
  | .type =>
    match names.targets.get? q.name.last with
    | none => []
    | some target =>
      let full := package.append q.name.last
      if q.accepts full then [.type ⟨.struct full, some target⟩] else []
  | _ => []

instance : Searchable PackageIndex := ⟨PackageIndex.candidates⟩

instance : Searchable TypeNames := ⟨TypeNames.candidates⟩

end NameScope
