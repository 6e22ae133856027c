import NameScope.Config
import NameScope.Declared.Bundles
import NameScope.Script.Basic

/-!
# What packages declare

The tables that look-up reads: the structs and funcs of a package with their members, and the type
names of a package, which are known before any member's type is.
-/
namespace NameScope

/-- A field or a parameter. -/
structure Member extends Target where
  /-- Unknown if the annotation did not resolve to exactly one type. -/
  type : Option VarType
  deriving DecidableEq, Repr

structure StructDef extends Target where
  fields : OrderedMap String Member
  deriving DecidableEq, Repr

structure FuncDef extends Target where
  params : OrderedMap String Member
  returns : Option VarType
  deriving DecidableEq, Repr

/-- The structs and funcs of one package by their names. -/
structure PackageIndex where
  package : QualifiedName
  structs : OrderedMap String StructDef
  funcs : OrderedMap String FuncDef
  deriving DecidableEq, Repr

def PackageIndex.empty (package : QualifiedName) : PackageIndex := ⟨package, .empty, .empty⟩

/-- The structs of one package as type names. -/
structure TypeNames where
  targets : OrderedMap String Target
  deriving DecidableEq, Repr

def TypeNames.empty : TypeNames := ⟨.empty⟩

/-- The structs and funcs of all packages. -/
abbrev Registry := Bundles PackageIndex

/-- The type names of all packages. -/
abbrev TypeIndex := Bundles TypeNames

/-- The first struct with this qualified name, in any bundle and whatever is imported. -/
def Registry.findStruct? (r : Registry) (name : QualifiedName) : Option StructDef :=
  r.toList.findSome? fun (id, index) =>
    if id.package.append name.last = name then index.structs.get? name.last else none

/-- Writes a declaration under its name; an earlier one is replaced only if duplicates are
allowed. -/
def OrderedMap.declare (policy : DuplicatePolicy) (table : OrderedMap String δ) (name : String)
    (definition : δ) : OrderedMap String δ :=
  match table.get? name, policy.severity? with
  | some _, some _ => table
  | _, _ => table.insert name definition

/-- Records the structs of a script as type names. -/
def TypeNames.declare (policy : DuplicatePolicy) (names : TypeNames) (script : Script) :
    TypeNames :=
  ⟨script.structs.foldl (fun targets decl =>
    targets.declare policy decl.name.text ⟨script.location decl.range, decl.documentation⟩)
    names.targets⟩

end NameScope
