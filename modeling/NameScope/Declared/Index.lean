import NameScope.Lookup.Resolve

/-!
# Indexing a script

The structs and funcs of a script are added to the index of its package. Of several members with
one name the first counts; of several declarations with one name the policy for duplicates says
which. Indexing always completes: what is wrong becomes a diagnostic, and a type that does not
resolve is unknown.
-/
namespace NameScope

/-- All that the indexing of one script reads. -/
structure IndexScope where
  config : Config
  types : TypeIndex
  imports : ImportSet
  file : FileId

namespace IndexScope

/-- The scope of a script. -/
def ofScript (config : Config) (types : TypeIndex) (script : Script) : IndexScope :=
  { config, types, imports := script.importedPackages config.selfImport, file := script.file }

/-- The type of a member's annotation, and what is reported of it. -/
def memberType (s : IndexScope) (member : String) (type : TypeRef) :
    Option VarType × List Diagnostic :=
  (s.types.typeOf s.imports type,
    (s.types.report? s.config s.imports s.file member type).toList)

/-- The report of a member whose name is taken. -/
def duplicateMember (s : IndexScope) (kind : MemberKind) (name : Ident) (first : Member) :
    Diagnostic :=
  .ofError s.file name.range .error (.duplicateMember kind name.text)
    [⟨first.location, "previously defined here"⟩]

/-- Adds members, each with its documentation, to those accepted so far. -/
def addMembers (s : IndexScope) (kind : MemberKind) (accepted : OrderedMap String Member) :
    List (Option String × MemberDecl) → OrderedMap String Member × List Diagnostic
  | [] => (accepted, [])
  | (documentation, decl) :: decls =>
    match accepted.get? decl.name.text with
    | some first =>
      let (members, reports) := s.addMembers kind accepted decls
      (members, s.duplicateMember kind decl.name first :: reports)
    | none =>
      let (type, typeReports) := s.memberType decl.name.text decl.type
      let member : Member := { location := ⟨s.file, decl.range⟩, documentation, type }
      let (members, reports) := s.addMembers kind (accepted.insert decl.name.text member) decls
      (members, typeReports ++ reports)

/-- The definition of a struct, and what is reported of its fields. -/
def structDef (s : IndexScope) (decl : StructDecl) : StructDef × List Diagnostic :=
  let (fields, reports) :=
    s.addMembers .field .empty (decl.fields.map fun f => (f.documentation, f.toMemberDecl))
  ({ location := ⟨s.file, decl.range⟩, documentation := decl.documentation, fields }, reports)

/-- What the return value of a func is called in reports. -/
def returnValue (decl : FuncDecl) : String := "return value of " ++ decl.name.text

/-- The type of a func's return value, and what is reported of it. -/
def returnType (s : IndexScope) (decl : FuncDecl) : Option VarType × List Diagnostic :=
  match decl.returns with
  | none => (none, [])
  | some type => s.memberType (returnValue decl) type

/-- The definition of a func, and what is reported of its parameters and return value. -/
def funcDef (s : IndexScope) (decl : FuncDecl) : FuncDef × List Diagnostic :=
  let (params, reports) :=
    s.addMembers .parameter .empty (decl.params.map fun p => (none, p))
  let (returns, returnReports) := s.returnType decl
  ({ location := ⟨s.file, decl.range⟩, documentation := decl.documentation, params, returns },
    reports ++ returnReports)

/-- The report of a declaration whose name is taken, unless duplicates are allowed. -/
def duplicateDecl? (s : IndexScope) (kind : DeclKind) (package : QualifiedName) (name : Ident)
    (first : Option Target) : Option Diagnostic := do
  let first ← first
  let severity ← s.config.duplicates.severity?
  some <| .ofError s.file name.range severity (.duplicateDeclaration kind name.text package)
    [⟨first.location, "first declared here"⟩]

/-- Adds the structs of a script. -/
def addStructs (s : IndexScope) (package : QualifiedName) (table : OrderedMap String StructDef) :
    List StructDecl → OrderedMap String StructDef × List Diagnostic
  | [] => (table, [])
  | decl :: decls =>
    let (definition, reports) := s.structDef decl
    let first := (table.get? decl.name.text).map (·.toTarget)
    let duplicate := s.duplicateDecl? .struct package decl.name first
    let (table, rest) := s.addStructs package
      (table.declare s.config.duplicates decl.name.text definition) decls
    (table, reports ++ duplicate.toList ++ rest)

/-- Adds the funcs of a script. -/
def addFuncs (s : IndexScope) (package : QualifiedName) (table : OrderedMap String FuncDef) :
    List FuncDecl → OrderedMap String FuncDef × List Diagnostic
  | [] => (table, [])
  | decl :: decls =>
    let (definition, reports) := s.funcDef decl
    let first := (table.get? decl.name.text).map (·.toTarget)
    let duplicate := s.duplicateDecl? .func package decl.name first
    let (table, rest) := s.addFuncs package
      (table.declare s.config.duplicates decl.name.text definition) decls
    (table, reports ++ duplicate.toList ++ rest)

end IndexScope

namespace PackageIndex

/-- Adds a script of the package: the structs, then the funcs. -/
def add (config : Config) (types : TypeIndex) (index : PackageIndex) (script : Script) :
    PackageIndex × List Diagnostic :=
  let scope := IndexScope.ofScript config types script
  let (structs, structReports) := scope.addStructs index.package index.structs script.structs
  let (funcs, funcReports) := scope.addFuncs index.package index.funcs script.funcs
  ({ index with structs, funcs }, structReports ++ funcReports)

/-- Adds a script, which must be of the package. -/
def add? (config : Config) (types : TypeIndex) (index : PackageIndex) (script : Script) :
    Option (PackageIndex × List Diagnostic) :=
  if script.package = index.package then some (index.add config types script) else none

end PackageIndex

end NameScope
