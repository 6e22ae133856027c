import Mathlib.Data.List.Forall2
import NameScope.Proofs.Linking.Follows

/-!
# Funcs are linked one by one

The funcs of a script share its scope, its reports and the walk that links them. Yet each one comes
out as if it were alone in the script, and only its own parameters are in scope in its body.

A walk may use one scope for all funcs (`linkFuncsReusing`), if every func drops the locals that it
finds there. What an earlier func left is then of no account:

* one func: `linkFuncReusing_eq`, whatever was left before it;
* all funcs: `linkFuncsReusing_eq`.

**Results.** * `Script.linked_by_funcs`: a script is what its funcs become, with their reports in a
row; * `funcs_are_linked_independently`.
-/
namespace NameScope

/-- The script with one of its funcs, and no other declaration. -/
def Script.only (script : Script) (func : FuncDecl) : Script :=
  { script with structs := [], funcs := [func] }

/-! ## Identifiers -/

def Reference.identifier? : Reference → Option Identifier
  | .identifier ident => some ident
  | _ => none

/-- The identifiers of a func, where it stands for a value. -/
def FuncDecl.identifiers (d : FuncDecl) : List Identifier := d.references.filterMap (·.identifier?)

/-- An identifier once it is linked, if these parameters and the funcs that the script sees are all
that it may mean. -/
def Identifier.among (s : LinkScope) (params : List MemberDecl) (i : Identifier) : Identifier :=
  match paramOf? params i.name.name with
  | some param =>
    { name := { i.name with target := some ⟨⟨s.file, param.range⟩, none⟩ }
      isLocal := true
      type := s.types.typeOf s.imports param.type }
  | none => { i with name := { i.name with target := (s.funcs i.name.name).target? } }

theorem Site.identifier?_settled (s : LinkScope) (site : Site)
    (h : site.reference.target = none) :
    (site.settled s).identifier? =
      site.reference.identifier?.map (Identifier.among s site.params) := by
  obtain ⟨r, params, owner⟩ := site
  cases r with
  | identifier ident =>
    have hname : ident.name.target = none := h
    cases hp : paramOf? params ident.name.name with
    | some param =>
      simp [settled, target?, marked, Identifier.among, Reference.name?, Reference.withName,
        Reference.identifier?, hp]
    | none =>
      cases ht : (s.funcs ident.name.name).target? with
      | some target =>
        simp [settled, target?, marked, Identifier.among, Reference.name?, Reference.withName,
          Reference.identifier?, hp, ht]
      | none =>
        have hkept : ident = { ident with name := { ident.name with target := none } } := by
          rw [← hname]
        simpa [settled, target?, Identifier.among, Reference.identifier?, hp, ht] using hkept
  | typeRef type =>
    unfold settled
    cases type <;> split <;> rfl
  | _ =>
    unfold settled
    split <;> rfl

/-- Of the identifiers of a func, linking makes what its own parameters say. -/
theorem FuncDecl.identifiers_of_settled {s : LinkScope} {d d' : FuncDecl}
    (h : ∀ r ∈ d.references, r.target = none)
    (hd' : d'.references = (d.sites s).map (·.settled s)) :
    d'.identifiers = d.identifiers.map (Identifier.among s d.params) := by
  unfold identifiers
  rw [hd', ← d.references_sites s, List.filterMap_map, List.filterMap_map, List.map_filterMap]
  refine List.filterMap_congr fun site hsite => ?_
  have hunlinked : site.reference.target = none := by
    refine h _ ?_
    rw [← d.references_sites s]
    exact List.mem_map_of_mem hsite
  show (site.settled s).identifier? = site.reference.identifier?.map _
  rw [site.identifier?_settled s hunlinked]
  rcases List.mem_append.1 hsite with hsite | hsite
  · -- an annotation is no identifier
    obtain ⟨r, hr, rfl⟩ := List.mem_map.1 hsite
    obtain ⟨type, rfl⟩ : ∃ type, r = .typeRef type := by
      rcases List.mem_append.1 hr with hr | hr
      · obtain ⟨param, -, rfl⟩ := List.mem_map.1 hr
        exact ⟨param.type, rfl⟩
      · obtain ⟨type, -, rfl⟩ := Option.map_eq_some_iff.1 (Option.mem_toList.1 hr)
        exact ⟨type, rfl⟩
    rfl
  · obtain ⟨e, -, hsite⟩ := List.mem_flatMap.1 hsite
    rw [Expr.params_of_mem_sites s d.params e site hsite]

/-! ## One scope for all funcs -/

namespace LinkScope

/-- Links a func in a scope that another func has left. Its locals are dropped; with those of this
func in it, the scope is handed on. -/
def linkFuncReusing (s : LinkScope) (decl : FuncDecl) : Walk FuncDecl LinkScope :=
  (({ s with locals := [] }.linkParams decl.params).andThen (decl.returns, decl.body) fun inner =>
    ((inner.linkReturns decl.returns).andThen decl.body fun _ =>
      Walk.list (Expr.link inner) decl.body).mapValue fun _ => inner).mapNode
    fun (params, returns, body) => { decl with params, returns, body }

/-- Links funcs one after the other in the same scope. -/
def linkFuncsReusing (s : LinkScope) : List FuncDecl → Walk (List FuncDecl) LinkScope
  | [] => .done [] s
  | decl :: decls =>
    ((s.linkFuncReusing decl).andThen decls fun s => s.linkFuncsReusing decls).mapNode
      fun (decl, decls) => decl :: decls

variable {s : LinkScope} (hs : s.locals = [])

include hs

/-- What is left in the scope is of no account to the next func. -/
theorem linkFuncReusing_eq (left : List Local) (decl : FuncDecl) :
    ∃ left', ({ s with locals := left } : LinkScope).linkFuncReusing decl =
      (s.linkFuncDecl decl).mapValue fun _ => { s with locals := left' } := by
  have hdropped : ({ s with locals := [] } : LinkScope) = s := by rw [← hs]
  have hparams : ∃ left', ∀ inner, (s.linkParams decl.params).outcome = .ok inner →
      inner = { s with locals := left' } := by
    cases ho : (s.linkParams decl.params).outcome with
    | error e => exact ⟨[], nofun⟩
    | ok inner =>
      refine ⟨inner.locals, fun inner' h => ?_⟩
      cases h
      exact (linkParams_shows hs ho).rest
  obtain ⟨left', hparams⟩ := hparams
  refine ⟨left', ?_⟩
  unfold linkFuncReusing linkFuncDecl
  simp only [hdropped]
  rw [Walk.andThen_eq_mapValue _ _ fun inner hinner => ?_]
  · rfl
  · -- the annotation of the return value does not see the locals
    rw [hparams inner hinner]
    rfl

/-- **One scope serves all funcs**, whatever is left in it. -/
theorem linkFuncsReusing_eq (left : List Local) (decls : List FuncDecl) :
    (({ s with locals := left } : LinkScope).linkFuncsReusing decls).mapValue (fun _ => ⟨⟩) =
      Walk.list s.linkFuncDecl decls := by
  induction decls generalizing left with
  | nil => rfl
  | cons decl decls ih =>
    obtain ⟨left', hdecl⟩ := linkFuncReusing_eq hs left decl
    unfold linkFuncsReusing Walk.list
    rw [hdecl, Walk.mapValue_andThen]
    rw [Walk.andThen_eq_mapValue (s.linkFuncDecl decl) decls fun _ _ => (ih left').symm]
    rfl

end LinkScope

/-! ## Scripts -/

/-- **A script is what its funcs become**, with what is reported of them in a row. -/
theorem Script.linked_by_funcs (registry : Registry) (types : TypeIndex) (config : Config)
    (script : Script) (h : ∀ r ∈ script.references, r.target = none) :
    let s := LinkScope.ofScript registry types config script
    script.linked registry types config =
      .ok ({ script with
          structs := (Walk.list s.linkStructDecl script.structs).node
          funcs := script.funcs.map fun func => (s.linkFuncDecl func).node },
        script.funcs.flatMap fun func => (s.linkFuncDecl func).reports) := by
  intro s
  have hs : s.locals = [] := rfl
  obtain ⟨hstructs, hreports, -⟩ :=
    (Walk.Follows.list (linkStructDecl_follows hs) script.structs).of_unlinked
      fun r hr => h r (List.mem_append_left _ hr)
  have hsilent : (script.structs.flatMap StructDecl.sites).filterMap (·.report? s) = [] := by
    refine List.filterMap_eq_nil_iff.2 fun site hsite => ?_
    obtain ⟨decl, -, hsite⟩ := List.mem_flatMap.1 hsite
    obtain ⟨r, hr, rfl⟩ := List.mem_map.1 hsite
    obtain ⟨field, -, rfl⟩ := List.mem_map.1 hr
    rfl
  have hfuncs : Walk.list s.linkFuncDecl script.funcs = _ := Walk.list_ok fun func hfunc => by
    obtain ⟨hok, -⟩ := (linkFuncDecl_follows hs func).of_unlinked fun r hr =>
      h r (Script.func_references_subset hfunc hr)
    exact ⟨_, hok⟩
  rw [hsilent] at hreports
  unfold Script.linked Script.link
  simp only
  rw [Walk.andThen_ok hstructs, hfuncs, hreports]
  rfl

/-- A func of a script as it is linked, with what is reported of it: both are as in the script that
has no other declaration. -/
structure FuncDecl.Alone (registry : Registry) (types : TypeIndex) (config : Config)
    (script : Script) (func : FuncDecl) (part : FuncDecl × List Diagnostic) : Prop where
  linked : (script.only func).linked registry types config = .ok (script.only part.1, part.2)
  /-- In its body no parameters are seen but its own. -/
  identifiers : part.1.identifiers =
    func.identifiers.map (.among (.ofScript registry types config script) func.params)

/-- **Funcs are linked independently.** A script that is not linked yet becomes what its funcs
become, each of them alone, and is reported on as they are, in their order. One scope for all of
them, with anything left in it, does as well as a new one for each. -/
theorem funcs_are_linked_independently (registry : Registry) (types : TypeIndex) (config : Config)
    (script : Script) (h : ∀ r ∈ script.references, r.target = none) :
    let s := LinkScope.ofScript registry types config script
    (∃ structs, ∃ parts : List (FuncDecl × List Diagnostic),
      script.linked registry types config =
        .ok ({ script with structs, funcs := parts.map (·.1) }, parts.flatMap (·.2)) ∧
      List.Forall₂ (FuncDecl.Alone registry types config script) script.funcs parts) ∧
    ∀ left : List Local,
      (({ s with locals := left } : LinkScope).linkFuncsReusing script.funcs).mapValue
        (fun _ => ⟨⟩) = Walk.list s.linkFuncDecl script.funcs := by
  intro s
  have hs : s.locals = [] := rfl
  refine ⟨⟨(Walk.list s.linkStructDecl script.structs).node, script.funcs.map fun func =>
    ((s.linkFuncDecl func).node, (s.linkFuncDecl func).reports), ?_, ?_⟩, fun left =>
    LinkScope.linkFuncsReusing_eq hs left script.funcs⟩
  · rw [script.linked_by_funcs registry types config h, List.map_map, List.flatMap_map]
    rfl
  · rw [List.forall₂_map_right_iff, List.forall₂_same]
    intro func hfunc
    have hunlinked : ∀ r ∈ func.references, r.target = none := fun r hr =>
      h r (Script.func_references_subset hfunc hr)
    obtain ⟨-, -, hnode⟩ := (linkFuncDecl_follows hs func).of_unlinked hunlinked
    have honly : ∀ r ∈ (script.only func).references, r.target = none := by
      simpa [Script.only, Script.references] using hunlinked
    have halone := (script.only func).linked_by_funcs registry types config honly
    refine ⟨?_, FuncDecl.identifiers_of_settled hunlinked hnode⟩
    rw [halone]
    simp only [Script.only, List.map_cons, List.map_nil, List.flatMap_cons, List.flatMap_nil,
      List.append_nil]
    rfl

/-- `func f(p: int) { p; q }` and `func g(q: int, p: bool) { p; q }`: each has a `p` of its own, and
`f` does not see the `q` of `g`. -/
theorem q_of_g_is_not_seen_in_f :
    let ident (text : String) : Expr := .identifier { name := { name := ⟨[text]⟩ } }
    let param (text : String) (kind : Primitive) : MemberDecl :=
      { name := { text }, type := .primitive kind {} }
    let body := [ident "p", ident "q"]
    let f : FuncDecl := { name := { text := "f" }, params := [param "p" .int], body }
    let g : FuncDecl :=
      { name := { text := "g" }, params := [param "q" .int, param "p" .bool], body }
    let script : Script := { file := ⟨0⟩, package := ⟨["game"]⟩, funcs := [f, g] }
    let types (d : FuncDecl) := d.identifiers.map fun i => (i.isLocal, i.type)
    (∀ r ∈ script.references, r.target = none) ∧
    ∃ linked reportsOfF reportsOfG, script.linked .empty .empty {} =
        .ok (linked, reportsOfF ++ reportsOfG) ∧
      linked.funcs.map types = [
        [(true, some (.primitive .int)), (false, none)],
        [(true, some (.primitive .bool)), (true, some (.primitive .int))]] := by
  intro ident param body f g script types
  have h : ∀ r ∈ script.references, r.target = none := by decide
  obtain ⟨⟨structs, parts, hlinked, hparts⟩, -⟩ :=
    funcs_are_linked_independently .empty .empty {} script h
  obtain ⟨partF, others, hf, hothers, rfl⟩ := List.forall₂_cons_left_iff.1 hparts
  obtain ⟨partG, rest, hg, hrest, rfl⟩ := List.forall₂_cons_left_iff.1 hothers
  rw [List.forall₂_nil_left_iff.1 hrest] at hlinked
  refine ⟨h, _, partF.2, partG.2, by simpa using hlinked, ?_⟩
  show [types partF.1, types partG.1] = _
  simp only [types, hf.identifiers, hg.identifiers]
  decide

end NameScope
