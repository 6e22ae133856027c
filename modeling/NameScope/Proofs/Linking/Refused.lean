import NameScope.Proofs.Linking.Annotating

/-!
# What a refused link leaves behind

Linking stops at the first reference that has a target and would get one (`Site.Stops`). All before
it is settled, all after it is as it was. The reference itself keeps its name and its target; but an
identifier that names a parameter is marked as local, with the type of the parameter, before its
link is tried, and the mark stays when the link is refused. If the parameter had another type when
the identifier was linked, it then shows the new type beside the old target.

* one step: `Site.link_of_passed`, `Site.link_of_refused`;
* a run: `Site.linkAll_of_refused`, by induction on the sites before the one that refuses.

**Results.**
* `refused_link_leaves_all_but_a_mark`: what is left of every reference, and that the one that was
  refused is as before exactly if its mark was right already;
* `refused_parameter_takes_a_new_type`: a second run that changes the type of a refused identifier.
-/
namespace NameScope

namespace Site

variable (s : LinkScope)

/-- Linking the sites `passed` and then `site` stops at `site`: it is the first that has a target
and would get one. -/
structure Stops (passed : List Site) (site : Site) (e : LinkError) : Prop where
  passed : ∀ b ∈ passed, b.reference.target = none ∨ b.target? s = none
  meant : (site.target? s).isSome = true
  refused : ∃ name old, site.reference.name? = some name ∧ name.target = some old ∧
    e = ⟨name.name.text, old.location⟩

variable {s}

/-! ## One reference -/

theorem refusal?_eq_none_iff {site : Site} :
    site.refusal? s = none ↔ site.reference.target = none ∨ site.target? s = none := by
  unfold refusal?
  cases site.target? s with
  | none => simp
  | some target => simp [Reference.refusal?_eq_none_iff]

/-- A site that does not refuse is settled. -/
theorem link_of_passed {site : Site} (h : site.refusal? s = none) :
    site.link s = ⟨site.settled s, (site.report? s).toList, .ok ⟨⟩⟩ := by
  rcases refusal?_eq_none_iff.1 h with hnone | hmeaning
  · exact link_unlinked s site hnone
  · rw [link_none hmeaning, settled, hmeaning]

/-- A site that refuses is marked, and that is all. -/
theorem link_of_refused {site : Site} {e : LinkError} (h : site.refusal? s = some e) :
    site.link s = ⟨site.marked s, (site.report? s).toList, .error e⟩ := by
  obtain ⟨target, htarget, hrefusal⟩ := Option.bind_eq_some_iff.1 h
  obtain ⟨name, old, hname, hold, rfl⟩ := Reference.exists_of_refusal? hrefusal
  exact link_error htarget hname ((WrittenName.link_eq_error_iff _ _ _).2 ⟨old, hold, rfl⟩)

/-- The mark of a site changes nothing exactly if the reference says already what it would say. -/
theorem marked_eq_reference_iff (site : Site) :
    site.marked s = site.reference ↔ site.Tells s site.reference := by
  constructor
  · intro h
    have htells := site.tells_marked s
    rwa [h] at htells
  · intro h
    cases hparam : site.param? with
    | none => exact site.marked_of_not_param s hparam
    | some param =>
      have hmark := h param hparam
      obtain ⟨r, params, owner⟩ := site
      cases r with
      | identifier ident =>
        have hparam : paramOf? params ident.name.name = some param := hparam
        obtain ⟨name, isLocal, type⟩ := ident
        simp only [Reference.mark, Prod.mk.injEq] at hmark
        unfold marked
        simp only [hparam, hmark.1, hmark.2]
      | typeRef type | callee ident | field name | structLit name | init name => cases hparam

/-! ## References in a row -/

/-- **All before the refused site is settled, all after it is as it was.** -/
theorem linkAll_of_refused {passed rest : List Site} {site : Site} {e : LinkError}
    (hpassed : ∀ b ∈ passed, b.refusal? s = none) (h : site.refusal? s = some e) :
    linkAll s (passed ++ site :: rest) =
      ⟨passed.map (·.settled s) ++ site.marked s :: rest.map (·.reference),
        passed.filterMap (·.report? s) ++ (site.report? s).toList, .error e⟩ := by
  induction passed with
  | nil =>
    have hsite := link_of_refused h
    rw [List.nil_append]
    unfold linkAll
    rw [hsite, Walk.andThen_error rfl]
    rfl
  | cons b passed ih =>
    obtain ⟨hb, hpassed⟩ := List.forall_mem_cons.1 hpassed
    have hrest := ih hpassed
    rw [List.cons_append]
    unfold linkAll
    rw [link_of_passed hb, Walk.andThen_ok rfl, hrest]
    cases hr : b.report? s with
    | none => simp [Walk.mapNode, hr]
    | some d => simp [Walk.mapNode, hr]

/-- Sites of which one refuses are cut in two at the first that does. -/
theorem stops_of_findSome? {sites : List Site} {e : LinkError}
    (h : sites.findSome? (refusal? s) = some e) :
    ∃ passed site rest, sites = passed ++ site :: rest ∧ Stops s passed site e ∧
      linkAll s sites =
        ⟨passed.map (·.settled s) ++ site.marked s :: rest.map (·.reference),
          passed.filterMap (·.report? s) ++ (site.report? s).toList, .error e⟩ := by
  obtain ⟨passed, site, rest, rfl, hsite, hpassed⟩ := List.findSome?_eq_some_iff.1 h
  refine ⟨passed, site, rest, rfl, ?_, linkAll_of_refused hpassed hsite⟩
  obtain ⟨target, htarget, hrefusal⟩ := Option.bind_eq_some_iff.1 hsite
  obtain ⟨name, old, hname, hold, he⟩ := Reference.exists_of_refusal? hrefusal
  exact ⟨fun b hb => refusal?_eq_none_iff.1 (hpassed b hb), by rw [htarget]; rfl,
    name, old, hname, hold, he⟩

end Site

/-! ## A script -/

/-- **A refused link leaves all but a mark as it was.** If linking a script is refused, it stopped
at the first reference that has a target and would get one. This reference keeps its name with its
target, and the references after it are as before. It is as before itself exactly if it does not
name a parameter, or says already that it does, with the type that the parameter has now. -/
theorem refused_link_leaves_all_but_a_mark (registry : Registry) (types : TypeIndex)
    (config : Config) (script : Script) {e : LinkError}
    (h : script.linked registry types config = .error e) :
    let s := LinkScope.ofScript registry types config script
    let left := (script.link registry types config).node
    ∃ passed site rest after, script.sites s = passed ++ site :: rest ∧
      Site.Stops s passed site e ∧
      left.references =
        passed.map (·.settled s) ++ after :: rest.map (·.reference) ∧
      after.name? = site.reference.name? ∧ after.erase = site.reference.erase ∧
      (after = site.reference ↔ site.Tells s site.reference) := by
  intro s left
  have hfirst := (Script.linked_eq_error_iff (s := s) rfl).1 h
  obtain ⟨passed, site, rest, hsites, hstops, hall⟩ := Site.stops_of_findSome? hfirst
  have hnode : left.references = (Site.linkAll s (script.sites s)).node :=
    (script.link_follows registry types config).node
  obtain ⟨name, old, hname, -, -⟩ := hstops.refused
  have hmarked : (site.marked s).name? = site.reference.name? := site.name?_marked s
  refine ⟨passed, site, rest, site.marked s, hsites, hstops, ?_, hmarked, ?_,
    site.marked_eq_reference_iff⟩
  · rw [hnode, hall]
  · have hkept := site.erase_withName_marked s hname (rfl : name.erase = name.erase)
    rwa [Reference.withName_of_name? (hmarked.trans hname)] at hkept

/-- `func main(p: Point) { p }`, in a script that imports `geo`. -/
def mainScript : Script where
  file := ⟨1⟩
  package := ⟨["game"]⟩
  imports := [{ name := ⟨["geo"]⟩ }]
  funcs := [{
    name := { text := "main" }
    params := [{ name := { text := "p" }, type := .named { name := ⟨["Point"]⟩ } }]
    body := [.identifier { name := { name := ⟨["p"]⟩ } }] }]

/-- The types of a session in which `geo` declares `Point`. -/
def geoTypes : TypeIndex :=
  Bundles.empty.insert ⟨⟨"core"⟩, ⟨["geo"]⟩⟩
    ⟨OrderedMap.empty.insert "Point" { location := ⟨⟨0⟩, {}⟩ }⟩

/-- Where no `Point` is known, a second run leaves `p` as the first run has left it. -/
theorem refused_parameter_stays_unknown :
    let first := (mainScript.link .empty .empty {}).node
    let s := LinkScope.ofScript .empty .empty {} first
    first.linked .empty .empty {} = .error ⟨"p", ⟨⟨1⟩, {}⟩⟩ ∧
    ∃ passed site rest, first.sites s = passed ++ site :: rest ∧
      Site.Stops s passed site ⟨"p", ⟨⟨1⟩, {}⟩⟩ ∧
      (first.link .empty .empty {}).node.references =
        passed.map (·.settled s) ++ site.reference :: rest.map (·.reference) := by
  intro first s
  have h : first.linked .empty .empty {} = .error ⟨"p", ⟨⟨1⟩, {}⟩⟩ := rfl
  obtain ⟨passed, site, rest, after, hsites, hstops, hleft, -, -, hafter⟩ :=
    refused_link_leaves_all_but_a_mark .empty .empty {} first h
  have htells : site.Tells s site.reference := by
    intro param hparam
    have hall : ∀ b ∈ first.sites s, ∀ param, b.param? = some param →
        b.reference.mark = (true, s.types.typeOf s.imports param.type) := by
      decide
    exact hall site (hsites ▸ List.mem_append_right _ List.mem_cons_self) param hparam
  rw [hafter.2 htells] at hleft
  exact ⟨h, passed, site, rest, hsites, hstops, hleft⟩

/-- **A refused identifier takes a new type.** When `p` was linked no `Point` was known. A second
run that knows one links the annotation and is refused at `p`, but leaves `p` with the type
`geo::Point`, which an editor then shows. -/
theorem refused_parameter_takes_a_new_type :
    let first := (mainScript.link .empty .empty {}).node
    let s := LinkScope.ofScript .empty geoTypes {} first
    let e : LinkError := ⟨"p", ⟨⟨1⟩, {}⟩⟩
    let p (type : Option VarType) : Reference := .identifier {
      name := { name := ⟨["p"]⟩, target := some { location := ⟨⟨1⟩, {}⟩ } }
      isLocal := true
      type }
    first.linked .empty geoTypes {} = .error e ∧
    ∃ point site, first.sites s = [point, site] ∧ Site.Stops s [point] site e ∧
      site.reference = p none ∧ (p none).documentation? = some "`p: <unknown>`" ∧
      (first.link .empty geoTypes {}).node.references =
        [point.settled s, p (some (.struct ⟨["geo", "Point"]⟩))] ∧
      (p (some (.struct ⟨["geo", "Point"]⟩))).documentation? = some "`p: geo::Point`" := by
  intro first s e p
  let point : Site := { reference := .typeRef (.named { name := ⟨["Point"]⟩ }) }
  let site : Site := { reference := p none, params := mainScript.funcs.flatMap (·.params) }
  have hstops : Site.Stops s [point] site e := ⟨by decide, rfl, _, _, rfl, rfl, rfl⟩
  exact ⟨rfl, point, site, rfl, hstops, rfl, by decide, rfl, by decide⟩

end NameScope
