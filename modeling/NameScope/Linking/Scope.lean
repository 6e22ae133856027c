import NameScope.Linking.Walk
import NameScope.Lookup.Resolve

/-!
# Linking single references

What a script sees while its names are linked: the registry, the types, its imports, and in the
body of a func the parameters of that func. Each function here links one reference and gives the
type that flows on from it.
-/
namespace NameScope

/-- A parameter that the body of a func sees. -/
structure Local where
  name : String
  location : Location
  type : Option VarType
  deriving DecidableEq, Repr

/-- All that linking reads. -/
structure LinkScope where
  registry : Registry
  types : TypeIndex
  config : Config
  imports : ImportSet
  file : FileId
  /-- The parameters of the func around, the first one of each name. -/
  locals : List Local := []

namespace LinkScope

/-- The scope of a script outside of its funcs. -/
def ofScript (registry : Registry) (types : TypeIndex) (config : Config) (script : Script) :
    LinkScope :=
  { registry, types, config, imports := script.importedPackages config.selfImport,
    file := script.file }

/-- The parameter of this name. -/
def local? (s : LinkScope) (name : QualifiedName) : Option Local :=
  name.simple?.bind fun text => s.locals.find? (·.name == text)

/-- Links a name to a target. -/
def linkTo (name : WrittenName) (target : Target) (value : α) : Walk WrittenName α :=
  match name.link target with
  | .ok linked => .done linked value
  | .error e => { node := name, outcome := .error e }

/-- The walk that an attempt to resolve a name amounts to. -/
def ofAttempt (a : Attempt α) : Walk WrittenName (Lookup α) :=
  ⟨a.name, a.log.entries, a.outcome⟩

/-- Links a name as a func. -/
def linkFunc (s : LinkScope) (name : WrittenName) : Walk WrittenName (Lookup FuncMatch) :=
  ofAttempt (s.registry.resolveFunc s.config s.imports name ⟨s.file, []⟩)

/-- Links a name as a struct. -/
def linkStruct (s : LinkScope) (name : WrittenName) : Walk WrittenName (Lookup StructMatch) :=
  ofAttempt (s.registry.resolveStruct s.config s.imports name ⟨s.file, []⟩)

/-- Links an annotation and gives the type it names. Nothing is reported: indexing did that. -/
def linkType (s : LinkScope) (type : TypeRef) : Walk TypeRef (Option VarType) :=
  match type with
  | .primitive _ _ => .done type (s.types.typeOf s.imports type)
  | .named name =>
    match (s.types.lookupRef s.imports type).link name with
    | .ok linked => .done (.named linked) (s.types.typeOf s.imports type)
    | .error e => { node := type, outcome := .error e }

/-- Links an identifier: to a parameter if one has its name, and otherwise to a func, whose use as
a value has no type. A parameter marks the identifier before the link is made. -/
def linkIdentifier (s : LinkScope) (ident : Identifier) : Walk Identifier (Option VarType) :=
  match s.local? ident.name.name with
  | some param =>
    (linkTo ident.name ⟨param.location, none⟩ param.type).mapNode fun name =>
      { name, isLocal := true, type := param.type }
  | none =>
    ((s.linkFunc ident.name).mapNode fun name => { ident with name }).mapValue fun _ => none

/-- Links what is called, which is never a parameter, and gives the type of its return value. -/
def linkCallee (s : LinkScope) (callee : Identifier) : Walk Identifier (Option VarType) :=
  ((s.linkFunc callee.name).mapNode fun name => { callee with name }).mapValue fun found =>
    found.single?.bind (·.definition.returns)

/-- Links the name of a field of a known struct, or reports that there is no such field. -/
def linkField (s : LinkScope) (owner : QualifiedName) (definition : StructDef)
    (field : WrittenName) : Walk WrittenName (Option VarType) :=
  match field.name.simple?.bind definition.fields.get? with
  | some member => linkTo field member.toTarget member.type
  | none =>
    { node := field
      reports := [.ofError s.file field.range .error (.unknownField field.name.text owner)]
      outcome := .ok none }

/-- Links the name of a field after a value of a type. Nothing is known of the fields of a value
whose type is unknown, primitive, or not in the registry. -/
def linkAccess (s : LinkScope) (type : Option VarType) (field : WrittenName) :
    Walk WrittenName (Option VarType) :=
  match type.bind VarType.struct? with
  | none => .done field none
  | some owner =>
    match s.registry.findStruct? owner with
    | none => .done field none
    | some definition => s.linkField owner definition field

/-- Links the name of a field in a literal of a struct, if the struct is known. -/
def linkInit (s : LinkScope) (struct? : Option StructMatch) (field : WrittenName) :
    Walk WrittenName (Option VarType) :=
  match struct? with
  | none => .done field none
  | some struct => s.linkField struct.qualified struct.definition field

end LinkScope

end NameScope
