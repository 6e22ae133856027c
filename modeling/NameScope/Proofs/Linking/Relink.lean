import Mathlib.Data.List.Basic
import NameScope.Proofs.Linking.Accounts
import NameScope.Proofs.Linking.Erased
import NameScope.Proofs.Linking.Follows

/-!
# Linking twice

A link that was made once is refused the second time, and nothing else is. Where linking stops, if
it does, can be read off the sites: at the first reference that has a target and would get one
(`Site.linkAll_outcome`, for any script).

What a site means is decided by the erased script alone (`Script.sites_erase`,
`Site.target?_erase`): no target that is there already changes a look-up, a parameter or a static
type. So the sites of a linked script mean what those of the script meant before, and each that
means something is linked to just that.

**Results.**
* `Site.linkAll_outcome`: linking sites in a row is refused by the first that refuses;
* `Script.target_of_linked`: the references that a first run links are those that a second one
  would link;
* `second_link_is_refused`: so the second run stops at the first of them, and changes nothing if
  there is none.
-/
namespace NameScope

/-! ## Where linking stops -/

/-- Why a reference that has a target is not linked again. -/
def Reference.refusal? (r : Reference) : Option LinkError :=
  r.name?.bind fun name => name.target.map fun target => ⟨name.name.text, target.location⟩

/-- Why the link that a site asks for is refused. -/
def Site.refusal? (s : LinkScope) (site : Site) : Option LinkError :=
  (site.target? s).bind fun _ => site.reference.refusal?

/-- How a walk ends that stops at this refusal, if it is one. -/
def outcomeOf : Option LinkError → Except LinkError Unit
  | some e => .error e
  | none => .ok ⟨⟩

namespace Reference

theorem refusal?_eq_none_iff (r : Reference) : r.refusal? = none ↔ r.target = none := by
  unfold refusal? target
  cases r.name? with
  | none => simp
  | some name => simp

theorem exists_of_refusal? {r : Reference} {e : LinkError} (h : r.refusal? = some e) :
    ∃ name target, r.name? = some name ∧ name.target = some target ∧
      e = ⟨name.name.text, target.location⟩ := by
  obtain ⟨name, hname, h⟩ := Option.bind_eq_some_iff.1 h
  obtain ⟨target, htarget, rfl⟩ := Option.map_eq_some_iff.1 h
  exact ⟨name, target, hname, htarget, rfl⟩

end Reference

namespace Site

theorem link_outcome (s : LinkScope) (site : Site) :
    (site.link s).outcome = outcomeOf (site.refusal? s) := by
  unfold refusal? Reference.refusal?
  cases ht : site.target? s with
  | none =>
    rw [link_none ht]
    rfl
  | some target =>
    cases hn : site.reference.name? with
    | none =>
      unfold link
      rw [ht, hn]
      rfl
    | some name =>
      cases hold : name.target with
      | none =>
        rw [link_ok ht hn (WrittenName.link_of_unlinked hold target)]
        simp [hold, outcomeOf]
      | some old =>
        have hl : name.link target = .error ⟨name.name.text, old.location⟩ :=
          (WrittenName.link_eq_error_iff name target _).2 ⟨old, hold, rfl⟩
        rw [link_error ht hn hl]
        simp [hold, outcomeOf]

/-- **Linking stops at the first site that refuses.** -/
theorem linkAll_outcome (s : LinkScope) (sites : List Site) :
    (linkAll s sites).outcome = outcomeOf (sites.findSome? (refusal? s)) := by
  induction sites with
  | nil => rfl
  | cons site sites ih =>
    have hsite := link_outcome s site
    unfold linkAll
    cases hr : site.refusal? s with
    | none =>
      rw [hr] at hsite
      rw [Walk.andThen_ok hsite, List.findSome?_cons, hr]
      exact ih
    | some e =>
      rw [hr] at hsite
      rw [Walk.andThen_error hsite, List.findSome?_cons, hr]
      rfl

/-! ## What is reported until then -/

theorem link_reports (s : LinkScope) (site : Site) :
    (site.link s).reports = (site.report? s).toList := by
  unfold link
  split
  · split <;> rfl
  · rfl

/-- Each site up to where linking stops is reported on, in order. -/
theorem linkAll_reports_prefix (s : LinkScope) (sites : List Site) :
    (linkAll s sites).reports <+: sites.filterMap (·.report? s) := by
  induction sites with
  | nil => exact List.prefix_rfl
  | cons site sites ih =>
    rw [List.filterMap_eq_flatMap_toList, List.flatMap_cons, ← List.filterMap_eq_flatMap_toList,
      ← link_reports]
    unfold linkAll
    cases hsite : (site.link s).outcome with
    | error e =>
      rw [Walk.andThen_error hsite]
      exact List.prefix_append _ _
    | ok u =>
      rw [Walk.andThen_ok hsite]
      exact (List.prefix_append_right_inj _).2 ih

end Site

/-! ## Links change no meaning -/

/-- The site as it was before any link. -/
def Site.erase (site : Site) : Site :=
  { reference := site.reference.erase
    params := site.params.map MemberDecl.erase
    owner := site.owner }

theorem TypeIndex.lookupRef_erase (types : TypeIndex) (imports : ImportSet) (type : TypeRef) :
    types.lookupRef imports type.erase = types.lookupRef imports type := by
  cases type <;> rfl

theorem TypeIndex.typeOf_erase (types : TypeIndex) (imports : ImportSet) (type : TypeRef) :
    types.typeOf imports type.erase = types.typeOf imports type := by
  unfold typeOf
  rw [lookupRef_erase]

theorem paramOf?_erase (params : List MemberDecl) (name : QualifiedName) :
    paramOf? (params.map MemberDecl.erase) name = (paramOf? params name).map MemberDecl.erase := by
  unfold paramOf?
  cases name.simple? with
  | none => rfl
  | some text =>
    simp only [Option.bind_some, List.find?_map]
    rfl

section

variable (s : LinkScope) (params : List MemberDecl)

theorem Expr.type_erase (e : Expr) :
    e.erase.type s (params.map MemberDecl.erase) = e.type s params := by
  induction e using Expr.type.induct with
  | case1 ident =>
    have hname : ident.erase.name.name = ident.name.name := rfl
    simp only [Expr.erase, Expr.type, hname, paramOf?_erase]
    cases paramOf? params ident.name.name with
    | none => rfl
    | some param => exact s.types.typeOf_erase s.imports param.type
  | case2 callee args range => rfl
  | case3 value name ih =>
    have hname : name.erase.name = name.name := rfl
    simp only [Expr.erase, Expr.type, ih, hname]
  | case4 name inits range => rfl
  | case5 range => rfl

mutual

theorem Expr.sites_erase : ∀ e : Expr,
    e.erase.sites s (params.map MemberDecl.erase) = (e.sites s params).map Site.erase
  | .identifier ident => rfl
  | .call callee args range => by
    simp only [Expr.erase, Expr.sites, List.map_cons, Expr.argSites_erase args]
    rfl
  | .field value name => by
    simp only [Expr.erase, Expr.sites, List.map_append, Expr.sites_erase value,
      Expr.type_erase s params value]
    rfl
  | .structLit name inits range => by
    simp only [Expr.erase, Expr.sites, List.map_cons, Expr.initSites_erase _ inits]
    rfl
  | .constant range => rfl

theorem Expr.argSites_erase : ∀ es : List Expr,
    Expr.argSites s (params.map MemberDecl.erase) (Expr.eraseArgs es) =
      (Expr.argSites s params es).map Site.erase
  | [] => rfl
  | e :: es => by
    simp only [Expr.eraseArgs, Expr.argSites, List.map_append, Expr.sites_erase e,
      Expr.argSites_erase es]

theorem Expr.initSites_erase (owner : Option Owner) : ∀ inits : List (WrittenName × Expr),
    Expr.initSites s (params.map MemberDecl.erase) owner (Expr.eraseInits inits) =
      (Expr.initSites s params owner inits).map Site.erase
  | [] => rfl
  | (name, value) :: inits => by
    simp only [Expr.eraseInits, Expr.initSites, List.map_cons, List.map_append,
      Expr.sites_erase value, Expr.initSites_erase owner inits]
    rfl

end

end

theorem StructDecl.sites_erase (d : StructDecl) : d.erase.sites = d.sites.map Site.erase := by
  unfold sites
  rw [d.references_erase, List.map_map, List.map_map]
  rfl

theorem FuncDecl.annotations_erase (d : FuncDecl) :
    d.erase.annotations = d.annotations.map Reference.erase := by
  unfold annotations
  simp only [erase, List.map_append, List.map_map]
  congr 1
  cases d.returns <;> rfl

theorem FuncDecl.sites_erase (s : LinkScope) (d : FuncDecl) :
    d.erase.sites s = (d.sites s).map Site.erase := by
  have hbody : d.erase.bodySites s = (d.bodySites s).map Site.erase := by
    unfold bodySites
    simp only [erase, List.flatMap_map, List.map_flatMap, Expr.sites_erase]
  unfold sites
  rw [hbody, d.annotations_erase, List.map_append, List.map_map, List.map_map]
  rfl

/-- The sites of a script without links are its sites without links: neither parameters nor owners
depend on them. -/
theorem Script.sites_erase (s : LinkScope) (script : Script) :
    script.erase.sites s = (script.sites s).map Site.erase := by
  unfold sites
  simp only [erase, List.map_append, List.flatMap_map, List.map_flatMap, StructDecl.sites_erase,
    FuncDecl.sites_erase]

/-- A link that is there does not change what the reference means. -/
theorem Site.target?_erase (s : LinkScope) (site : Site) :
    site.erase.target? s = site.target? s := by
  obtain ⟨r, params, owner⟩ := site
  cases r with
  | typeRef type =>
    exact congrArg Lookup.target? (s.types.lookupRef_erase s.imports type)
  | identifier ident =>
    have hname : ident.erase.name.name = ident.name.name := rfl
    simp only [erase, Reference.erase, target?, hname, paramOf?_erase]
    cases paramOf? params ident.name.name <;> rfl
  | callee ident | structLit name | field name | init name => rfl

/-! ## The second run -/

theorem Site.name?_of_target? {s : LinkScope} {site : Site} {target : Target}
    (h : site.target? s = some target) : ∃ name, site.reference.name? = some name := by
  obtain ⟨r, params, owner⟩ := site
  cases r with
  | typeRef type =>
    cases type with
    | primitive kind range => cases h
    | named name => exact ⟨name, rfl⟩
  | identifier ident | callee ident | structLit name | field name | init name => exact ⟨_, rfl⟩

theorem Reference.target_withName {r : Reference} {name name' : WrittenName}
    (h : r.name? = some name) : (r.withName name').target = name'.target := by
  cases r with
  | typeRef type =>
    cases type with
    | primitive kind range => cases h
    | named name => rfl
  | identifier ident | callee ident | structLit name | field name | init name => rfl

theorem Site.name?_marked (s : LinkScope) (site : Site) :
    (site.marked s).name? = site.reference.name? := by
  obtain ⟨r, params, owner⟩ := site
  cases r with
  | identifier ident =>
    unfold marked
    simp only
    cases paramOf? params ident.name.name <;> rfl
  | typeRef type | callee ident | structLit name | field name | init name => rfl

/-- What was not linked is linked to what it means, if it means something. -/
theorem Site.target_settled (s : LinkScope) (site : Site) (h : site.reference.target = none) :
    (site.settled s).target = site.target? s := by
  unfold settled
  cases ht : site.target? s with
  | none => exact h
  | some target =>
    obtain ⟨name, hname⟩ := name?_of_target? ht
    simp only [hname]
    rw [Reference.target_withName ((site.name?_marked s).trans hname)]

section

variable {registry : Registry} {types : TypeIndex} {config : Config} {script linked : Script}
  {reports : List Diagnostic}

/-- Linking a script stops at the first of its sites that refuses. -/
theorem Script.linked_eq_error_iff {s : LinkScope} {e : LinkError}
    (hs : LinkScope.ofScript registry types config script = s) :
    script.linked registry types config = .error e ↔
      (script.sites s).findSome? (Site.refusal? s) = some e := by
  have hf := (script.link_follows registry types config).outcome
  rw [hs, Site.linkAll_outcome] at hf
  unfold Script.linked
  simp only [hf]
  cases (script.sites s).findSome? (Site.refusal? s) with
  | none => simp [outcomeOf, Except.map]
  | some e' => simp [outcomeOf, Except.map]

theorem Script.eq_of_linked
    (h : script.linked registry types config = .ok (linked, reports)) :
    linked = (script.link registry types config).node ∧
      reports = (script.link registry types config).reports :=
  (Script.of_linked_ok h).2

theorem Script.erase_of_linked
    (h : script.linked registry types config = .ok (linked, reports)) :
    linked.erase = script.erase := by
  rw [(Script.eq_of_linked h).1]
  exact script.erase_link registry types config

theorem LinkScope.ofScript_erase (script : Script) :
    LinkScope.ofScript registry types config script.erase =
      LinkScope.ofScript registry types config script :=
  rfl

/-- **A second run would link what the first has linked**, and to the same targets. -/
theorem Script.target_of_linked (s : LinkScope)
    (hunlinked : ∀ r ∈ script.references, r.target = none) (herase : linked.erase = script.erase)
    (hrefs : linked.references = (script.sites s).map (·.settled s)) :
    ∀ site ∈ linked.sites s, site.reference.target = site.target? s := by
  refine List.map_inj_left.1 ?_
  have hsites : (linked.sites s).map Site.erase = (script.sites s).map Site.erase := by
    rw [← Script.sites_erase, ← Script.sites_erase, herase]
  calc (linked.sites s).map (·.reference.target)
      = linked.references.map (·.target) := by
        rw [← linked.references_sites s, List.map_map]
        rfl
    _ = (script.sites s).map fun site => (site.settled s).target := by
        rw [hrefs, List.map_map]
        rfl
    _ = (script.sites s).map (·.target? s) := by
        refine List.map_congr_left fun site hsite => site.target_settled s (hunlinked _ ?_)
        rw [← script.references_sites s]
        exact List.mem_map_of_mem hsite
    _ = ((script.sites s).map Site.erase).map (·.target? s) := by
        rw [List.map_map]
        exact List.map_congr_left fun site _ => (site.target?_erase s).symm
    _ = (linked.sites s).map (·.target? s) := by
        rw [← hsites, List.map_map]
        exact List.map_congr_left fun site _ => site.target?_erase s

end

namespace Reference

theorem find?_of_refusal? {rs : List Reference} {e : LinkError}
    (h : rs.findSome? refusal? = some e) :
    ∃ first, rs.find? (·.target.isSome) = some first ∧ first.refusal? = some e := by
  obtain ⟨before, first, after, rfl, hfirst, hbefore⟩ := List.findSome?_eq_some_iff.1 h
  refine ⟨first, List.find?_eq_some_iff_append.2 ⟨?_, before, after, rfl, fun r hr => ?_⟩, hfirst⟩
  · rw [← Option.ne_none_iff_isSome, ne_eq, ← first.refusal?_eq_none_iff, hfirst]
    exact Option.some_ne_none e
  · rw [(r.refusal?_eq_none_iff).1 (hbefore r hr)]
    rfl

theorem exists_refusal?_iff (rs : List Reference) :
    (∃ e, rs.findSome? refusal? = some e) ↔ ∃ r ∈ rs, r.target.isSome = true := by
  rw [← Option.isSome_iff_exists, List.findSome?_isSome_iff]
  refine exists_congr fun r => and_congr_right fun _ => ?_
  rw [← Option.ne_none_iff_isSome, ne_eq, refusal?_eq_none_iff, ← ne_eq,
    Option.ne_none_iff_isSome]

end Reference

/-- A run that links nothing gives the script as it was. -/
theorem Script.eq_of_none_linked (s : LinkScope) {script linked : Script}
    (hunlinked : ∀ r ∈ script.references, r.target = none) (herase : linked.erase = script.erase)
    (hrefs : linked.references = (script.sites s).map (·.settled s))
    (hnone : ∀ r ∈ linked.references, r.target = none) : linked = script := by
  refine Script.eq_of_erase_eq herase ?_
  rw [hrefs, ← script.references_sites s]
  refine List.map_congr_left fun site hsite => ?_
  have hmem : site.settled s ∈ linked.references := by
    rw [hrefs]
    exact List.mem_map_of_mem hsite
  have hsite : site.reference ∈ script.references := by
    rw [← script.references_sites s]
    exact List.mem_map_of_mem hsite
  have ht : site.target? s = none := by
    rw [← site.target_settled s (hunlinked _ hsite)]
    exact hnone _ hmem
  unfold Site.settled
  rw [ht]

/-- **Each reference is linked at most once.** In a script that is not linked yet, linking
succeeds. Linking the result again is refused exactly if the first run has linked something; the
refusal names the first reference that it has linked, and where that leads. If it has linked
nothing, the second run gives the same script and the same diagnostics. -/
theorem second_link_is_refused (registry : Registry) (types : TypeIndex) (config : Config)
    (script : Script) (h : ∀ r ∈ script.references, r.target = none) :
    ∃ linked reports, script.linked registry types config = .ok (linked, reports) ∧
      ((∃ e, linked.linked registry types config = .error e) ↔
        ∃ r ∈ linked.references, r.target.isSome = true) ∧
      (∀ e, linked.linked registry types config = .error e →
        ∃ first name target, linked.references.find? (·.target.isSome) = some first ∧
          first.name? = some name ∧ name.target = some target ∧
          e = ⟨name.name.text, target.location⟩) ∧
      ((∀ r ∈ linked.references, r.target = none) →
        linked.linked registry types config = .ok (linked, reports)) := by
  let s := LinkScope.ofScript registry types config script
  obtain ⟨linked, hok, hrefs⟩ := script.linked_of_unlinked registry types config h
  have herase : linked.erase = script.erase := Script.erase_of_linked hok
  have htarget := Script.target_of_linked s h herase hrefs
  have hscope : LinkScope.ofScript registry types config linked = s := by
    rw [← LinkScope.ofScript_erase, herase, LinkScope.ofScript_erase]
  have hsecond : ∀ e, linked.linked registry types config = .error e ↔
      linked.references.findSome? Reference.refusal? = some e := by
    intro e
    have hfirst : (linked.sites s).findSome? (Site.refusal? s) =
        linked.references.findSome? Reference.refusal? := by
      rw [← linked.references_sites s, List.findSome?_map, ← List.head?_filterMap,
        ← List.head?_filterMap]
      refine congrArg List.head? (List.filterMap_congr fun site hsite => ?_)
      unfold Site.refusal?
      cases ht : site.target? s with
      | none =>
        exact ((site.reference.refusal?_eq_none_iff).2 ((htarget site hsite).trans ht)).symm
      | some target => rfl
    rw [Script.linked_eq_error_iff hscope, hfirst]
  refine ⟨linked, _, hok, ?_, ?_, ?_⟩
  · rw [← Reference.exists_refusal?_iff]
    exact exists_congr hsecond
  · intro e he
    obtain ⟨first, hfound, hrefusal⟩ := Reference.find?_of_refusal? ((hsecond e).1 he)
    obtain ⟨name, target, hname, ht, he⟩ := Reference.exists_of_refusal? hrefusal
    exact ⟨first, name, target, hfound, hname, ht, he⟩
  · intro hnone
    rw [Script.eq_of_none_linked s h herase hrefs hnone] at hok ⊢
    exact hok

/-- In `pointScript` the first name that is linked is the callee of `origin().x`. -/
theorem second_link_of_origin_is_refused :
    (∀ r ∈ pointScript.references, r.target = none) ∧
    ∃ linked reports, pointScript.linked pointRegistry .empty {} = .ok (linked, reports) ∧
      linked.linked pointRegistry .empty {} = .error ⟨"origin", ⟨⟨0⟩, {}⟩⟩ := by
  have h : ∀ r ∈ pointScript.references, r.target = none := by decide
  obtain ⟨linked, reports, hok, herror, hfirst, -⟩ :=
    second_link_is_refused pointRegistry .empty {} pointScript h
  have hl : (pointScript.link pointRegistry .empty {}).node = linked :=
    (Prod.mk.inj (Except.ok.inj hok)).1
  let origin : Identifier :=
    { name := { name := ⟨["origin"]⟩, target := some ⟨⟨⟨0⟩, {}⟩, none⟩ } }
  have horigin : linked.references.find? (·.target.isSome) = some (.callee origin) := by
    rw [← hl]
    decide
  obtain ⟨e, he⟩ := herror.2
    ⟨.callee origin, List.mem_of_find?_eq_some horigin, rfl⟩
  obtain ⟨first, name, target, hfound, hname, ht, rfl⟩ := hfirst e he
  cases horigin.symm.trans hfound
  cases hname
  cases ht
  exact ⟨h, linked, reports, hok, he⟩

end NameScope
