import Mathlib.Data.List.Basic
import NameScope.Linking.Script
import NameScope.Script.Reference

/-!
# The sites of a script

Linking walks over a tree with a state: links already made, parameters in scope, types that flow
from a value to the name of its field. Here the same is said reference by reference. A site is a
reference with what decides its link: the parameters of the func around it and, for the name of a
field, the struct that owns it. Both are read off the tree before anything is linked, the owner
with the help of the static types of expressions (`Expr.type`).

**Order.** `Script.sites` lists the sites in the order of `Script.references`
(`Script.references_sites`).

**Results.**
* `linkAll_append`: linking sites in a row is linking a part of them, then the rest;
* `linkAll_unlinked`: no link is refused where nothing is linked yet; then each reference becomes
  what its site says (`Site.settled`), and the reports are those of the sites, in order.
-/
namespace NameScope

/-! ## What decides a link -/

/-- A struct whose fields are asked for. -/
structure Owner where
  name : QualifiedName
  definition : StructDef

/-- The field that a name means. -/
def Owner.field? (o : Owner) (name : QualifiedName) : Option Member :=
  name.simple?.bind o.definition.fields.get?

def StructMatch.owner (m : StructMatch) : Owner := ⟨m.qualified, m.definition⟩

/-- The first parameter of this name. -/
def paramOf? (params : List MemberDecl) (name : QualifiedName) : Option MemberDecl :=
  name.simple?.bind fun text => params.find? (·.name.text == text)

namespace LinkScope

/-- The funcs that a name may mean here. -/
def funcs (s : LinkScope) (name : QualifiedName) : Lookup FuncMatch :=
  s.registry.lookupFunc s.imports name

/-- The structs that a name may mean here. -/
def structs (s : LinkScope) (name : QualifiedName) : Lookup StructMatch :=
  s.registry.lookupStruct s.imports name

/-- The struct that owns the fields of a value of a type, if the registry has it. -/
def owner? (s : LinkScope) (type : Option VarType) : Option Owner :=
  (type.bind VarType.struct?).bind fun name => (s.registry.findStruct? name).map (⟨name, ·⟩)

/-- A parameter as the body of its func sees it. -/
def asLocal (s : LinkScope) (param : MemberDecl) : Local :=
  ⟨param.name.text, ⟨s.file, param.range⟩, s.types.typeOf s.imports param.type⟩

end LinkScope

/-- The static type of an expression in the body of a func with these parameters. -/
def Expr.type (s : LinkScope) (params : List MemberDecl) : Expr → Option VarType
  | .identifier ident =>
    (paramOf? params ident.name.name).bind fun param => s.types.typeOf s.imports param.type
  | .call callee _ _ => (s.funcs callee.name.name).single?.bind (·.definition.returns)
  | .field value name =>
    ((s.owner? (Expr.type s params value)).bind (·.field? name.name)).bind (·.type)
  | .structLit name _ _ => (s.structs name.name).single?.map fun struct => .struct struct.qualified
  | .constant _ => none

/-- A reference with what decides its link. -/
structure Site where
  reference : Reference
  /-- The parameters of the func around. -/
  params : List MemberDecl := []
  /-- The struct that the name of a field belongs to, if it is known. -/
  owner : Option Owner := none

mutual

/-- The sites of an expression in the body of a func with these parameters. -/
def Expr.sites (s : LinkScope) (params : List MemberDecl) : Expr → List Site
  | .identifier ident => [{ reference := .identifier ident, params }]
  | .call callee args _ => { reference := .callee callee, params } :: Expr.argSites s params args
  | .field value name =>
    Expr.sites s params value ++
      [{ reference := .field name, params, owner := s.owner? (value.type s params) }]
  | .structLit name inits _ =>
    { reference := .structLit name, params } ::
      Expr.initSites s params ((s.structs name.name).single?.map StructMatch.owner) inits
  | .constant _ => []

def Expr.argSites (s : LinkScope) (params : List MemberDecl) : List Expr → List Site
  | [] => []
  | e :: es => Expr.sites s params e ++ Expr.argSites s params es

def Expr.initSites (s : LinkScope) (params : List MemberDecl) (owner : Option Owner) :
    List (WrittenName × Expr) → List Site
  | [] => []
  | (name, value) :: inits =>
    { reference := .init name, params, owner } ::
      (Expr.sites s params value ++ Expr.initSites s params owner inits)

end

/-- The sites in the body of a func. -/
def FuncDecl.bodySites (s : LinkScope) (d : FuncDecl) : List Site :=
  d.body.flatMap (Expr.sites s d.params)

def FuncDecl.sites (s : LinkScope) (d : FuncDecl) : List Site :=
  d.annotations.map ({ reference := · }) ++ d.bodySites s

def StructDecl.sites (d : StructDecl) : List Site := d.references.map ({ reference := · })

/-- Every site of a script. -/
def Script.sites (s : LinkScope) (script : Script) : List Site :=
  script.structs.flatMap StructDecl.sites ++ script.funcs.flatMap (FuncDecl.sites s)

/-! ## What becomes of a reference -/

/-- The reference with another name in it. -/
def Reference.withName (name : WrittenName) : Reference → Reference
  | .typeRef (.primitive kind range) => .typeRef (.primitive kind range)
  | .typeRef (.named _) => .typeRef (.named name)
  | .identifier ident => .identifier { ident with name }
  | .callee ident => .callee { ident with name }
  | .field _ => .field name
  | .structLit _ => .structLit name
  | .init _ => .init name

namespace Site

/-- The declaration that the reference means, if there is exactly one. -/
def target? (s : LinkScope) (site : Site) : Option Target :=
  match site.reference with
  | .typeRef type => (s.types.lookupRef s.imports type).target?
  | .identifier ident =>
    match paramOf? site.params ident.name.name with
    | some param => some ⟨⟨s.file, param.range⟩, none⟩
    | none => (s.funcs ident.name.name).target?
  | .callee ident => (s.funcs ident.name.name).target?
  | .structLit name => (s.structs name.name).target?
  | .field name | .init name => (site.owner.bind (·.field? name.name)).map (·.toTarget)

/-- What is reported of the reference. Annotations were reported when they were indexed. -/
def report? (s : LinkScope) (site : Site) : Option Diagnostic :=
  match site.reference with
  | .typeRef _ => none
  | .identifier ident =>
    match paramOf? site.params ident.name.name with
    | some _ => none
    | none =>
      (s.funcs ident.name.name).report? s.config s.file .func ident.name.name.text ident.name.range
  | .callee ident =>
    (s.funcs ident.name.name).report? s.config s.file .func ident.name.name.text ident.name.range
  | .structLit name =>
    (s.structs name.name).report? s.config s.file .struct name.name.text name.range
  | .field name | .init name =>
    site.owner.bind fun owner =>
      match owner.field? name.name with
      | some _ => none
      | none => some (.ofError s.file name.range .error (.unknownField name.name.text owner.name))

/-- The reference when its link is tried: an identifier that names a parameter says so. -/
def marked (s : LinkScope) (site : Site) : Reference :=
  match site.reference with
  | .identifier ident =>
    match paramOf? site.params ident.name.name with
    | some param =>
      .identifier { ident with isLocal := true, type := s.types.typeOf s.imports param.type }
    | none => .identifier ident
  | r => r

/-- The walk over one reference. -/
def link (s : LinkScope) (site : Site) : Walk Reference Unit :=
  match site.target? s, site.reference.name? with
  | some target, some name =>
    match name.link target with
    | .ok linked => ⟨(site.marked s).withName linked, (site.report? s).toList, .ok ⟨⟩⟩
    | .error e => ⟨site.marked s, (site.report? s).toList, .error e⟩
  | _, _ => ⟨site.reference, (site.report? s).toList, .ok ⟨⟩⟩

/-- The reference once it is linked, if it was not before. -/
def settled (s : LinkScope) (site : Site) : Reference :=
  match site.target? s, site.reference.name? with
  | some target, some name => (site.marked s).withName { name with target := some target }
  | _, _ => site.reference

/-- The walk over references in a row. -/
def linkAll (s : LinkScope) : List Site → Walk (List Reference) Unit
  | [] => .done [] ⟨⟩
  | site :: sites =>
    ((site.link s).andThen (sites.map (·.reference)) fun _ => linkAll s sites).mapNode
      fun (r, rs) => r :: rs

end Site

/-! ## The order of the sites -/

mutual

theorem Expr.references_sites (s : LinkScope) (params : List MemberDecl) : ∀ e : Expr,
    (e.sites s params).map (·.reference) = e.references
  | .identifier ident => rfl
  | .call callee args range => by
    simp only [Expr.sites, Expr.references, List.map_cons]
    rw [Expr.references_argSites s params args]
  | .field value name => by
    simp only [Expr.sites, Expr.references, List.map_append, List.map_cons, List.map_nil]
    rw [Expr.references_sites s params value]
  | .structLit name inits range => by
    simp only [Expr.sites, Expr.references, List.map_cons]
    rw [Expr.references_initSites s params _ inits]
  | .constant range => rfl

theorem Expr.references_argSites (s : LinkScope) (params : List MemberDecl) : ∀ es : List Expr,
    (Expr.argSites s params es).map (·.reference) = Expr.argReferences es
  | [] => rfl
  | e :: es => by
    simp only [Expr.argSites, Expr.argReferences, List.map_append]
    rw [Expr.references_sites s params e, Expr.references_argSites s params es]

theorem Expr.references_initSites (s : LinkScope) (params : List MemberDecl)
    (owner : Option Owner) : ∀ inits : List (WrittenName × Expr),
    (Expr.initSites s params owner inits).map (·.reference) = Expr.initReferences inits
  | [] => rfl
  | (name, value) :: inits => by
    simp only [Expr.initSites, Expr.initReferences, List.map_cons, List.map_append]
    rw [Expr.references_sites s params value, Expr.references_initSites s params owner inits]

end

mutual

/-- Every site of an expression has the parameters of the func around. -/
theorem Expr.params_of_mem_sites (s : LinkScope) (params : List MemberDecl) : ∀ e : Expr,
    ∀ site ∈ e.sites s params, site.params = params
  | .identifier ident => by simp [Expr.sites]
  | .call callee args range => by
    simp only [Expr.sites, List.forall_mem_cons, true_and]
    exact Expr.params_of_mem_argSites s params args
  | .field value name => by
    simp only [Expr.sites, List.forall_mem_append, List.forall_mem_singleton, and_true]
    exact Expr.params_of_mem_sites s params value
  | .structLit name inits range => by
    simp only [Expr.sites, List.forall_mem_cons, true_and]
    exact Expr.params_of_mem_initSites s params _ inits
  | .constant range => by simp [Expr.sites]

theorem Expr.params_of_mem_argSites (s : LinkScope) (params : List MemberDecl) :
    ∀ es : List Expr, ∀ site ∈ Expr.argSites s params es, site.params = params
  | [] => by simp [Expr.argSites]
  | e :: es => by
    simp only [Expr.argSites, List.forall_mem_append]
    exact ⟨Expr.params_of_mem_sites s params e, Expr.params_of_mem_argSites s params es⟩

theorem Expr.params_of_mem_initSites (s : LinkScope) (params : List MemberDecl)
    (owner : Option Owner) : ∀ inits : List (WrittenName × Expr),
    ∀ site ∈ Expr.initSites s params owner inits, site.params = params
  | [] => by simp [Expr.initSites]
  | (name, value) :: inits => by
    simp only [Expr.initSites, List.forall_mem_cons, List.forall_mem_append, true_and]
    exact ⟨Expr.params_of_mem_sites s params value,
      Expr.params_of_mem_initSites s params owner inits⟩

end

theorem StructDecl.references_sites (d : StructDecl) :
    d.sites.map (·.reference) = d.references := by
  simp [sites, Function.comp_def]

theorem FuncDecl.references_bodySites (s : LinkScope) (d : FuncDecl) :
    (d.bodySites s).map (·.reference) = d.body.flatMap Expr.references := by
  unfold bodySites
  rw [List.map_flatMap]
  exact List.flatMap_congr fun e _ => e.references_sites s d.params

theorem FuncDecl.references_sites (s : LinkScope) (d : FuncDecl) :
    (d.sites s).map (·.reference) = d.references := by
  unfold sites references
  rw [List.map_append, d.references_bodySites s]
  simp [Function.comp_def]

/-- The sites of a script stand in the order of its references. -/
theorem Script.references_sites (s : LinkScope) (script : Script) :
    (script.sites s).map (·.reference) = script.references := by
  unfold sites references
  rw [List.map_append, List.map_flatMap, List.map_flatMap]
  congr 1
  · exact List.flatMap_congr fun d _ => d.references_sites
  · exact List.flatMap_congr fun d _ => d.references_sites s

namespace Site

/-! ## Linking sites in a row -/

theorem linkAll_append (s : LinkScope) (xs ys : List Site) :
    linkAll s (xs ++ ys) =
      ((linkAll s xs).andThen (ys.map (·.reference)) fun _ => linkAll s ys).mapNode
        fun (rs, rs') => rs ++ rs' := by
  induction xs with
  | nil => simp [linkAll, Walk.andThen, Walk.done, Walk.mapNode]
  | cons x xs ih =>
    simp only [List.cons_append, linkAll, ih]
    cases hx : (x.link s).outcome with
    | error e => simp [Walk.andThen, hx, Walk.mapNode]
    | ok u =>
      cases hxs : (linkAll s xs).outcome with
      | error e => simp [Walk.andThen, hx, hxs, Walk.mapNode]
      | ok v => simp [Walk.andThen, hx, hxs, Walk.mapNode, List.append_assoc]

theorem linkAll_singleton (s : LinkScope) (site : Site) :
    linkAll s [site] = (site.link s).mapNode fun r => [r] := by
  unfold linkAll linkAll
  cases h : (site.link s).outcome with
  | error e => simp [Walk.andThen, Walk.mapNode, h]
  | ok u => simp [Walk.andThen, Walk.mapNode, Walk.done, h]

theorem link_none {s : LinkScope} {site : Site} (ht : site.target? s = none) :
    site.link s = ⟨site.reference, (site.report? s).toList, .ok ⟨⟩⟩ := by
  unfold link
  rw [ht]

theorem link_ok {s : LinkScope} {site : Site} {target : Target} {name linked : WrittenName}
    (ht : site.target? s = some target) (hn : site.reference.name? = some name)
    (hl : name.link target = .ok linked) :
    site.link s = ⟨(site.marked s).withName linked, (site.report? s).toList, .ok ⟨⟩⟩ := by
  simp [link, ht, hn, hl]

theorem link_error {s : LinkScope} {site : Site} {target : Target} {name : WrittenName}
    {e : LinkError} (ht : site.target? s = some target) (hn : site.reference.name? = some name)
    (hl : name.link target = .error e) :
    site.link s = ⟨site.marked s, (site.report? s).toList, .error e⟩ := by
  simp [link, ht, hn, hl]

/-- What is not linked is linked now, if its target is known. -/
theorem link_unlinked (s : LinkScope) (site : Site) (h : site.reference.target = none) :
    site.link s = ⟨site.settled s, (site.report? s).toList, .ok ⟨⟩⟩ := by
  unfold settled
  cases ht : site.target? s with
  | none => exact link_none ht
  | some target =>
    cases hn : site.reference.name? with
    | none => simp [link, ht, hn]
    | some name =>
      have hname : name.target = none := by simpa [Reference.target, hn] using h
      exact link_ok ht hn (WrittenName.link_of_unlinked hname target)

/-- **A script is linked in one go** where nothing is linked yet. -/
theorem linkAll_unlinked (s : LinkScope) (sites : List Site)
    (h : ∀ site ∈ sites, site.reference.target = none) :
    linkAll s sites = ⟨sites.map (·.settled s), sites.filterMap (·.report? s), .ok ⟨⟩⟩ := by
  induction sites with
  | nil => rfl
  | cons site sites ih =>
    have ih := ih fun site' h' => h site' (List.mem_cons_of_mem _ h')
    unfold linkAll
    rw [link_unlinked s site (h site List.mem_cons_self), ih, Walk.andThen_ok rfl]
    cases hr : site.report? s with
    | none => simp [Walk.mapNode, hr]
    | some d => simp [Walk.mapNode, hr]

end Site

end NameScope
