import NameScope.Name.Package
import NameScope.Script.VarType
import NameScope.Script.WrittenName

/-!
# Scripts

The part of a parsed script that declares names or refers to them: its imports, its structs and
funcs with their annotations, and the expressions in the bodies of its funcs.
-/
namespace NameScope

/-- A declared name: any text. -/
structure Ident where
  text : String
  range : Range := {}
  deriving DecidableEq, Repr, Inhabited

structure Import where
  name : QualifiedName
  range : Range := {}
  deriving DecidableEq, Repr, Inhabited

/-- A type annotation. -/
inductive TypeRef where
  | primitive (kind : Primitive) (range : Range)
  /-- A struct, named as the script writes it. -/
  | named (name : WrittenName)
  deriving DecidableEq, Repr

namespace TypeRef

def range : TypeRef → Range
  | .primitive _ range => range
  | .named name => name.range

def target : TypeRef → Option Target
  | .primitive _ _ => none
  | .named name => name.target

end TypeRef

/-- A use of a parameter or of a func. -/
structure Identifier where
  name : WrittenName
  /-- The name is a parameter of the func around it. -/
  isLocal : Bool := false
  /-- The type of the parameter, when it is known. -/
  type : Option VarType := none
  deriving DecidableEq, Repr, Inhabited

/-- An expression, down to the names in it. -/
inductive Expr where
  | identifier (ident : Identifier)
  | call (callee : Identifier) (args : List Expr) (range : Range)
  /-- `value.field`. -/
  | field (value : Expr) (name : WrittenName)
  /-- `Name { field: value, … }`. -/
  | structLit (name : WrittenName) (inits : List (WrittenName × Expr)) (range : Range)
  /-- A literal in which no name occurs. -/
  | constant (range : Range)
  deriving Repr

instance : Inhabited Expr := ⟨.constant {}⟩

/-- The range of the whole expression. -/
def Expr.range : Expr → Range
  | .identifier ident => ident.name.range
  | .call _ _ range => range
  | .field value name => Range.combine value.range name.range
  | .structLit _ _ range => range
  | .constant range => range

/-- A parameter, or a field without its documentation. -/
structure MemberDecl where
  name : Ident
  type : TypeRef
  range : Range := {}
  deriving DecidableEq, Repr

structure FieldDecl extends MemberDecl where
  documentation : Option String := none
  deriving DecidableEq, Repr

structure StructDecl where
  name : Ident
  range : Range := {}
  documentation : Option String := none
  fields : List FieldDecl := []
  deriving DecidableEq, Repr

structure FuncDecl where
  name : Ident
  range : Range := {}
  documentation : Option String := none
  params : List MemberDecl := []
  returns : Option TypeRef := none
  body : List Expr := []
  deriving Repr

/-- A script of a package. -/
structure Script where
  file : FileId
  package : QualifiedName
  imports : List Import := []
  structs : List StructDecl := []
  funcs : List FuncDecl := []
  deriving Repr

namespace Script

/-- A range of the script's file. -/
def location (s : Script) (range : Range) : Location := ⟨s.file, range⟩

/-- The imported packages, and the script's own one if `withOwn`. -/
def importedPackages (s : Script) (withOwn : Bool) : ImportSet :=
  ImportSet.ofList ((if withOwn then [s.package] else []) ++ s.imports.map (·.name))

theorem mem_importedPackages (s : Script) (withOwn : Bool) (p : QualifiedName) :
    p ∈ s.importedPackages withOwn ↔
      (withOwn = true ∧ p = s.package) ∨ ∃ i ∈ s.imports, i.name = p := by
  unfold importedPackages
  rw [ImportSet.mem_ofList]
  cases withOwn <;> simp

end Script

end NameScope
