import NameScope.Linking.Scope
import NameScope.Declared.Index

/-!
# Linking a script

Every reference of a script is looked up in the order of `Script.references` and linked if exactly
one declaration matches. The type of a value decides where its fields are looked up. Linking stops
at the first name that has a target already and would get another.
-/
namespace NameScope

mutual

/-- Links an expression and gives its type, if that is known. -/
def Expr.link (s : LinkScope) : Expr → Walk Expr (Option VarType)
  | .identifier ident => (s.linkIdentifier ident).mapNode .identifier
  | .call callee args range =>
    ((s.linkCallee callee).andThen args fun returns =>
      (Expr.linkArgs s args).mapValue fun _ => returns).mapNode
      fun (callee, args) => .call callee args range
  | .field value name =>
    ((Expr.link s value).andThen name fun type => s.linkAccess type name).mapNode
      fun (value, name) => .field value name
  | .structLit name inits range =>
    ((s.linkStruct name).andThen inits fun found =>
      (Expr.linkInits s found.single? inits).mapValue fun _ =>
        found.single?.map fun struct => .struct struct.qualified).mapNode
      fun (name, inits) => .structLit name inits range
  | .constant range => .done (.constant range) none

/-- Links expressions one after the other. -/
def Expr.linkArgs (s : LinkScope) : List Expr → Walk (List Expr) PUnit
  | [] => .done [] ⟨⟩
  | e :: es =>
    ((Expr.link s e).andThen es fun _ => Expr.linkArgs s es).mapNode fun (e, es) => e :: es

/-- Links the fields of a literal of a struct, and the values given to them. -/
def Expr.linkInits (s : LinkScope) (struct? : Option StructMatch) :
    List (WrittenName × Expr) → Walk (List (WrittenName × Expr)) PUnit
  | [] => .done [] ⟨⟩
  | (name, value) :: inits =>
    ((s.linkInit struct? name).andThen (value, inits) fun _ =>
      (Expr.link s value).andThen inits fun _ => Expr.linkInits s struct? inits).mapNode
      fun (name, value, inits) => (name, value) :: inits

end

namespace LinkScope

/-- Links the annotations of parameters. The value is the scope that has them as locals. -/
def linkParams (s : LinkScope) : List MemberDecl → Walk (List MemberDecl) LinkScope
  | [] => .done [] s
  | param :: params =>
    ((s.linkType param.type).andThen params fun type =>
      let s := if s.locals.any (·.name == param.name.text) then s
        else { s with
          locals := s.locals ++ [⟨param.name.text, ⟨s.file, param.range⟩, type⟩] }
      s.linkParams params).mapNode fun (type, params) => { param with type } :: params

/-- Links the annotation of a return value, if there is one. -/
def linkReturns (s : LinkScope) : Option TypeRef → Walk (Option TypeRef) PUnit
  | none => .done none ⟨⟩
  | some type => ((s.linkType type).mapNode some).mapValue fun _ => ⟨⟩

def linkFieldDecl (s : LinkScope) (decl : FieldDecl) : Walk FieldDecl (Option VarType) :=
  (s.linkType decl.type).mapNode fun type => { decl with type }

def linkStructDecl (s : LinkScope) (decl : StructDecl) : Walk StructDecl PUnit :=
  (Walk.list s.linkFieldDecl decl.fields).mapNode fun fields => { decl with fields }

/-- Links a func: its parameters and its return value, then its body with the parameters in
scope. -/
def linkFuncDecl (s : LinkScope) (decl : FuncDecl) : Walk FuncDecl PUnit :=
  ((s.linkParams decl.params).andThen (decl.returns, decl.body) fun inner =>
    (s.linkReturns decl.returns).andThen decl.body fun _ =>
      Walk.list (Expr.link inner) decl.body).mapNode
    fun (params, returns, body) => { decl with params, returns, body }

end LinkScope

namespace Script

/-- Links every reference of the script. -/
def link (registry : Registry) (types : TypeIndex) (config : Config) (script : Script) :
    Walk Script PUnit :=
  let s := LinkScope.ofScript registry types config script
  ((Walk.list s.linkStructDecl script.structs).andThen script.funcs fun _ =>
    Walk.list s.linkFuncDecl script.funcs).mapNode
    fun (structs, funcs) => { script with structs, funcs }

/-- The linked script and the diagnostics of its bodies, unless linking stopped. -/
def linked (registry : Registry) (types : TypeIndex) (config : Config) (script : Script) :
    Except LinkError (Script × List Diagnostic) :=
  let walk := script.link registry types config
  walk.outcome.map fun _ => (walk.node, walk.reports)

end Script

/-- Links all scripts. If linking stops in several of them, any of their refusals may tell why; here
the first one in order does. -/
def linkAll (registry : Registry) (types : TypeIndex) (config : Config) :
    List Script → Except LinkError (List Script × List Diagnostic)
  | [] => .ok ([], [])
  | script :: scripts => do
    let (script, reports) ← script.linked registry types config
    let (scripts, rest) ← linkAll registry types config scripts
    return (script :: scripts, reports ++ rest)

end NameScope
