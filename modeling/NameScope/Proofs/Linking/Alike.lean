import NameScope.Proofs.Declared.Alike
import NameScope.Proofs.Linking.Relink

/-!
# Linking a script in two scopes

Two runs of linking are compared site by site. If names have the same only matches in both scopes,
structs that a type leads to the same fields, and reports are related (`LinkScope.Alike`), then the
sites of a script are the same and each is linked to the same target. `D` says how a diagnostic of
the first run and the one in its place in the second are related.

The owners of fields are compared for types of expressions alone: a struct of another name may be
known in one of the scopes only.

* one step: what is left of a site is the same, linked or refused (`Site.link_alike`);
* a run: so is what is left of sites in a row (`Site.linkAll_alike`).

**Results.** * `Script.link_importing`, `Script.linked_alike`: the linked tree is the same, and the
reports are related, position by position.
-/
namespace NameScope

/-- Two scopes in which names and types lead to the same declarations, and in which what is reported
is related. What is reported in both scopes alike suggests nothing. -/
structure LinkScope.Alike (D : Diagnostic → Diagnostic → Prop) (s s' : LinkScope) : Prop where
  refl : ∀ d, d.code ≠ some "E0003" → D d d
  file : s'.file = s.file
  types : ∀ type, (s'.types.lookupRef s'.imports type).single? =
    (s.types.lookupRef s.imports type).single?
  funcs : ∀ n, (s.funcs n).Alike D s.config s'.config (s'.funcs n)
  structs : ∀ n, (s.structs n).Alike D s.config s'.config (s'.structs n)
  owner : ∀ params (e : Expr), s'.owner? (e.type s params) = s.owner? (e.type s params)

section

variable {D : Diagnostic → Diagnostic → Prop} {s s' : LinkScope}

/-! ## Types and sites -/

theorem LinkScope.Alike.typeOf (h : s.Alike D s') (type : TypeRef) :
    s'.types.typeOf s'.imports type = s.types.typeOf s.imports type := by
  rw [TypeIndex.typeOf, TypeIndex.typeOf, h.types]

theorem Expr.type_alike (h : s.Alike D s') (params : List MemberDecl) (e : Expr) :
    e.type s' params = e.type s params := by
  induction e using Expr.type.induct with
  | case1 ident => simp only [Expr.type, h.typeOf]
  | case2 callee args range => simp only [Expr.type, (h.funcs _).single]
  | case3 value name ih => simp only [Expr.type, ih, h.owner]
  | case4 name inits range => simp only [Expr.type, (h.structs _).single]
  | case5 range => rfl

mutual

theorem Expr.sites_alike (h : s.Alike D s') (params : List MemberDecl) : ∀ e : Expr,
    e.sites s' params = e.sites s params
  | .identifier ident => rfl
  | .call callee args range => by
    simp only [Expr.sites, Expr.argSites_alike h params args]
  | .field value name => by
    simp only [Expr.sites, Expr.sites_alike h params value, Expr.type_alike h params value,
      h.owner]
  | .structLit name inits range => by
    simp only [Expr.sites, (h.structs _).single, Expr.initSites_alike h params _ inits]
  | .constant range => rfl

theorem Expr.argSites_alike (h : s.Alike D s') (params : List MemberDecl) : ∀ es : List Expr,
    Expr.argSites s' params es = Expr.argSites s params es
  | [] => rfl
  | e :: es => by
    simp only [Expr.argSites, Expr.sites_alike h params e, Expr.argSites_alike h params es]

theorem Expr.initSites_alike (h : s.Alike D s') (params : List MemberDecl)
    (owner : Option Owner) : ∀ inits : List (WrittenName × Expr),
    Expr.initSites s' params owner inits = Expr.initSites s params owner inits
  | [] => rfl
  | (name, value) :: inits => by
    simp only [Expr.initSites, Expr.sites_alike h params value,
      Expr.initSites_alike h params owner inits]

end

theorem FuncDecl.sites_alike (h : s.Alike D s') (d : FuncDecl) : d.sites s' = d.sites s := by
  have hbody : Expr.sites s' d.params = Expr.sites s d.params :=
    funext fun e => e.sites_alike h d.params
  simp only [FuncDecl.sites, FuncDecl.bodySites, hbody]

theorem Script.sites_alike (h : s.Alike D s') (script : Script) :
    script.sites s' = script.sites s := by
  have hfuncs : FuncDecl.sites s' = FuncDecl.sites s := funext fun d => d.sites_alike h
  rw [Script.sites, Script.sites, hfuncs]

/-! ## What becomes of a site -/

namespace Site

theorem target?_alike (h : s.Alike D s') (site : Site) : site.target? s' = site.target? s := by
  unfold target?
  split
  · simp only [Lookup.target?, h.types]
  · simp only [Lookup.target?, h.file, (h.funcs _).single]
  · simp only [Lookup.target?, (h.funcs _).single]
  · simp only [Lookup.target?, (h.structs _).single]
  · rfl
  · rfl

theorem marked_alike (h : s.Alike D s') (site : Site) : site.marked s' = site.marked s := by
  unfold marked
  simp only [h.typeOf]

theorem report?_alike (h : s.Alike D s') (site : Site) :
    Option.Rel D (site.report? s) (site.report? s') := by
  unfold report?
  simp only [h.file]
  split
  · exact .none
  · split
    · exact .none
    · exact (h.funcs _).report _ _ _ _ (by decide)
  · exact (h.funcs _).report _ _ _ _ (by decide)
  · exact (h.structs _).report _ _ _ _ (by decide)
  -- what is left is a field that the struct does not have
  all_goals
    refine option_rel_self fun d hd => h.refl d ?_
    obtain ⟨owner, -, hd⟩ := Option.bind_eq_some_iff.1 hd
    split at hd
    · cases hd
    · cases hd
      simp [Diagnostic.ofError, SemanticError.code]

/-- One site: what is left of it is the same, linked or refused. -/
theorem link_alike (h : s.Alike D s') (site : Site) :
    (site.link s').node = (site.link s).node ∧ (site.link s').outcome = (site.link s).outcome ∧
      List.Forall₂ D (site.link s).reports (site.link s').reports := by
  have hreports := IndexScope.toList_rel (report?_alike h site)
  unfold link
  rw [target?_alike h, marked_alike h]
  split
  · split
    · exact ⟨rfl, rfl, hreports⟩
    · exact ⟨rfl, rfl, hreports⟩
  · exact ⟨rfl, rfl, hreports⟩

/-- Sites in a row. -/
theorem linkAll_alike (h : s.Alike D s') (sites : List Site) :
    (linkAll s' sites).node = (linkAll s sites).node ∧
      (linkAll s' sites).outcome = (linkAll s sites).outcome ∧
      List.Forall₂ D (linkAll s sites).reports (linkAll s' sites).reports := by
  induction sites with
  | nil => exact ⟨rfl, rfl, .nil⟩
  | cons site sites ih =>
    obtain ⟨hnode, houtcome, hreports⟩ := link_alike h site
    obtain ⟨hnodes, houtcomes, hrest⟩ := ih
    unfold linkAll
    cases ho : (site.link s).outcome with
    | error e =>
      rw [ho] at houtcome
      rw [Walk.andThen_error ho, Walk.andThen_error houtcome]
      exact ⟨congrArg (· :: _) hnode, rfl, hreports⟩
    | ok u =>
      rw [ho] at houtcome
      rw [Walk.andThen_ok ho, Walk.andThen_ok houtcome]
      exact ⟨congrArg₂ List.cons hnode hnodes, houtcomes, List.rel_append hreports hrest⟩

end Site

end

section

variable {D : Diagnostic → Diagnostic → Prop} {registry registry' : Registry}
  {types types' : TypeIndex} {config config' : Config} {script : Script}

/-- **A script is linked alike** in scopes that are alike, even if its import lines differ: the same
links are made, the same one is refused, if any, and the reports are related. -/
theorem Script.link_importing (imports : List Import)
    (h : (LinkScope.ofScript registry types config script).Alike D
      (LinkScope.ofScript registry' types' config' (script.importing imports))) :
    let w := script.link registry types config
    let w' := (script.importing imports).link registry' types' config'
    w'.node = w.node.importing imports ∧ w'.outcome = w.outcome ∧
      List.Forall₂ D w.reports w'.reports := by
  intro w w'
  let s := LinkScope.ofScript registry types config script
  let s' := LinkScope.ofScript registry' types' config' (script.importing imports)
  have hw : w.Follows s Script.references script (script.sites s) ⟨⟩ :=
    script.link_follows registry types config
  have hw' : w'.Follows s' Script.references (script.importing imports) (script.sites s) ⟨⟩ := by
    have hf := (script.importing imports).link_follows registry' types' config'
    have hsites : (script.importing imports).sites s' = script.sites s := script.sites_alike h
    exact hsites ▸ hf
  obtain ⟨hnode, houtcome, hreports⟩ := Site.linkAll_alike h (script.sites s)
  refine ⟨Script.eq_of_erase_eq ?_ ?_, ?_, ?_⟩
  · have herase := script.erase_link registry types config
    show w'.node.erase = w.node.erase.importing imports
    rw [herase]
    exact (script.importing imports).erase_link registry' types' config'
  · show w'.node.references = w.node.references
    rw [hw.node, hw'.node, hnode]
  · rw [hw.outcome, hw'.outcome, houtcome]
  · rw [hw.reports, hw'.reports]
    exact hreports

/-- A script in which nothing is linked yet is linked to the same targets. -/
theorem Script.linked_alike
    (h : (LinkScope.ofScript registry types config script).Alike D
      (LinkScope.ofScript registry' types' config' script))
    (hun : ∀ r ∈ script.references, r.target = none) :
    ∃ linked reports reports', script.linked registry types config = .ok (linked, reports) ∧
      script.linked registry' types' config' = .ok (linked, reports') ∧
      List.Forall₂ D reports reports' := by
  obtain ⟨hnode, houtcome, hreports⟩ := script.link_importing script.imports h
  obtain ⟨hok, -⟩ := (script.link_follows registry types config).of_unlinked hun
  -- a script with its own import lines is the script
  have hnode : (script.link registry' types' config').node =
      (script.link registry types config).node := hnode
  have hok' : (script.link registry' types' config').outcome = .ok ⟨⟩ := houtcome.trans hok
  refine ⟨_, _, _, Script.linked_of_ok hok, ?_, hreports⟩
  rw [← hnode]
  exact Script.linked_of_ok hok'

end

end NameScope
