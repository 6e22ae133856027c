import Mathlib.Data.List.Forall2
import NameScope.Proofs.Linking.Follows

/-!
# Every reference of a body is accounted for

The bodies of a script's funcs are linked in a recursive walk that reports as it goes. Seen from
outside each reference has one of three fates (`Site.fate`), decided by the reference alone and
what it may mean: it is linked, or it is reported and stays as it is, or neither, since nothing is
known of the struct that it would be a field of.

The setting is a script that nothing was linked in before. The owner of a field is known by the
static type of the value before it (`Expr.type`), which is the type that linking computes.

**Results.**
* `report?_isSome_iff`, `exists_target?_iff`: what linking does to a reference is its fate;
* `body_references_are_accounted_for`: linking succeeds, the diagnostics are those of the reported
  references of the bodies, in their order and one for each, and no other reference stays without
  a target but the names of fields whose struct is not known.
-/
namespace NameScope

/-! ## Fates -/

/-- What becomes of a reference in the body of a func. -/
inductive Fate where
  | linked
  | reported
  /-- Neither linked nor reported. -/
  | passed
  deriving DecidableEq, Repr

/-- A name is linked if it has exactly one meaning. An identifier that names a parameter means
that, while a callee is never a parameter. The name of a field is judged only where its struct is
known. Annotations are not in a body. -/
def Site.fate (s : LinkScope) (site : Site) : Fate :=
  match site.reference with
  | .typeRef _ => .passed
  | .identifier ident =>
    if (∃ param ∈ site.params, ident.name.name.simple? = some param.name.text) ∨
      (s.funcs ident.name.name).alternatives.length = 1 then .linked else .reported
  | .callee ident =>
    if (s.funcs ident.name.name).alternatives.length = 1 then .linked else .reported
  | .structLit name =>
    if (s.structs name.name).alternatives.length = 1 then .linked else .reported
  | .field name | .init name =>
    match site.owner with
    | none => .passed
    | some owner => if (owner.field? name.name).isSome then .linked else .reported

/-- The reference stands in the body of a func. -/
def Reference.inBody : Reference → Bool
  | .typeRef _ => false
  | _ => true

/-- The references in the bodies of funcs. -/
def Script.bodyReferences (script : Script) : List Reference :=
  script.funcs.flatMap fun d => d.body.flatMap Expr.references

def Script.bodySites (s : LinkScope) (script : Script) : List Site :=
  script.funcs.flatMap (FuncDecl.bodySites s)

/-- The error at a reference. -/
structure Site.Reported (s : LinkScope) (site : Site) (d : Diagnostic) : Prop where
  report : site.report? s = some d
  file : d.file = s.file
  range : d.range = site.reference.range
  severity : d.severity = .error

/-- What linking leaves of a reference of a body. -/
structure Site.Accounted (s : LinkScope) (site : Site) (after : Reference) : Prop where
  linked : site.fate s = .linked →
    ∃ target, site.target? s = some target ∧ after.target = some target
  left : site.fate s ≠ .linked → after = site.reference

/-! ## Linking does what the fate says -/

theorem paramOf?_isSome_iff (params : List MemberDecl) (name : QualifiedName) :
    (paramOf? params name).isSome = true ↔
      ∃ param ∈ params, name.simple? = some param.name.text := by
  unfold paramOf?
  cases name.simple? with
  | none => simp
  | some text =>
    simp only [Option.bind_some, List.find?_isSome, beq_iff_eq, Option.some.injEq]
    exact ⟨fun ⟨p, hp, he⟩ => ⟨p, hp, he.symm⟩, fun ⟨p, hp, he⟩ => ⟨p, hp, he.symm⟩⟩

theorem Lookup.of_report? [Matched α] {config : Config} {file : FileId} {kind : ReferenceKind}
    {name : String} {range : Range} {l : Lookup α} {d : Diagnostic}
    (h : l.report? config file kind name range = some d) :
    d.file = file ∧ d.range = range ∧ d.severity = .error := by
  obtain ⟨error, -, rfl⟩ := Option.map_eq_some_iff.1 h
  exact ⟨rfl, rfl, rfl⟩

namespace Site

theorem report?_eq_none_iff (s : LinkScope) (site : Site) :
    site.report? s = none ↔ site.fate s ≠ .reported := by
  obtain ⟨r, params, owner⟩ := site
  cases r with
  | typeRef type => simp [report?, fate]
  | identifier ident =>
    have hparam := paramOf?_isSome_iff params ident.name.name
    unfold report? fate
    simp only [← hparam]
    cases paramOf? params ident.name.name with
    | some param => simp
    | none => simp [Lookup.report?_eq_none_iff, Lookup.isResolved_iff_length]
  | callee ident => simp [report?, fate, Lookup.report?_eq_none_iff, Lookup.isResolved_iff_length]
  | structLit name =>
    simp [report?, fate, Lookup.report?_eq_none_iff, Lookup.isResolved_iff_length]
  | field name | init name =>
    cases owner with
    | none => simp [report?, fate]
    | some owner => cases hf : owner.field? name.name <;> simp [report?, fate, hf]

theorem report?_isSome_iff (s : LinkScope) (site : Site) :
    (site.report? s).isSome = true ↔ site.fate s = .reported := by
  rw [← Option.ne_none_iff_isSome, ne_eq, report?_eq_none_iff, not_not]

/-- Only a reference in a body is reported, where it stands. -/
theorem reported_of_report? {s : LinkScope} {site : Site} {d : Diagnostic}
    (h : site.report? s = some d) : site.Reported s d := by
  obtain ⟨r, params, owner⟩ := site
  have hl : ∀ {α : Type} [Matched α] {l : Lookup α} {kind : ReferenceKind} {name : WrittenName},
      r.range = name.range →
      l.report? s.config s.file kind name.name.text name.range = some d →
      Reported s ⟨r, params, owner⟩ d := by
    intro α _ l kind name hr hd
    obtain ⟨hfile, hrange, hseverity⟩ := Lookup.of_report? hd
    exact ⟨h, hfile, hrange.trans hr.symm, hseverity⟩
  cases r with
  | typeRef type => cases h
  | identifier ident =>
    have hd := h
    unfold report? at hd
    simp only at hd
    split at hd
    · cases hd
    · exact hl rfl hd
  | callee ident => exact hl rfl h
  | structLit name => exact hl rfl h
  | field name | init name =>
    obtain ⟨owner, -, hd⟩ := Option.bind_eq_some_iff.1 h
    split at hd
    · cases hd
    · cases hd
      exact ⟨h, rfl, rfl, rfl⟩

theorem exists_target?_iff (s : LinkScope) (site : Site) (h : site.reference.inBody = true) :
    (∃ t, site.target? s = some t) ↔ site.fate s = .linked := by
  have hfunc : ∀ m : FuncMatch, ∃ t, Matched.target m = some t := fun m => ⟨_, rfl⟩
  have hstruct : ∀ m : StructMatch, ∃ t, Matched.target m = some t := fun m => ⟨_, rfl⟩
  obtain ⟨r, params, owner⟩ := site
  cases r with
  | typeRef type => cases h
  | identifier ident =>
    have hparam := paramOf?_isSome_iff params ident.name.name
    unfold target? fate
    simp only [← hparam]
    cases paramOf? params ident.name.name with
    | some param => simp
    | none => simp [Lookup.exists_target?_iff hfunc]
  | callee ident => simp [target?, fate, Lookup.exists_target?_iff hfunc]
  | structLit name => simp [target?, fate, Lookup.exists_target?_iff hstruct]
  | field name | init name =>
    cases owner with
    | none => simp [target?, fate]
    | some owner => cases hf : owner.field? name.name <;> simp [target?, fate, hf]

theorem settled_accounted (s : LinkScope) (site : Site) (h : site.reference.inBody = true) :
    site.Accounted s (site.settled s) := by
  constructor
  · intro hf
    obtain ⟨t, ht⟩ := (exists_target?_iff s site h).2 hf
    refine ⟨t, ht, ?_⟩
    obtain ⟨r, params, owner⟩ := site
    unfold settled marked
    rw [ht]
    cases r with
    | typeRef type => cases h
    | identifier ident =>
      simp only [Reference.name?]
      cases paramOf? params ident.name.name with
      | some param => rfl
      | none => rfl
    | callee ident | structLit name | field name | init name => rfl
  · intro hf
    have ht : site.target? s = none := by
      cases ht : site.target? s with
      | none => rfl
      | some t => exact absurd ((exists_target?_iff s site h).1 ⟨t, ht⟩) hf
    unfold settled
    rw [ht]

theorem inBody_settled (s : LinkScope) (site : Site) :
    (site.settled s).inBody = site.reference.inBody := by
  obtain ⟨r, params, owner⟩ := site
  unfold settled marked
  split
  · cases r with
    | typeRef type => cases type <;> rfl
    | identifier ident =>
      simp only
      cases paramOf? params ident.name.name with
      | some param => rfl
      | none => rfl
    | callee ident | structLit name | field name | init name => rfl
  · rfl

end Site

/-! ## The bodies of a script -/

mutual

theorem Expr.inBody_of_mem : ∀ e : Expr, ∀ r ∈ e.references, r.inBody = true
  | .identifier ident => by simp [Expr.references, Reference.inBody]
  | .call callee args range => by
    simp only [Expr.references, List.forall_mem_cons]
    exact ⟨rfl, Expr.inBody_of_mem_args args⟩
  | .field value name => by
    simp only [Expr.references, List.forall_mem_append, List.forall_mem_singleton]
    exact ⟨Expr.inBody_of_mem value, rfl⟩
  | .structLit name inits range => by
    simp only [Expr.references, List.forall_mem_cons]
    exact ⟨rfl, Expr.inBody_of_mem_inits inits⟩
  | .constant range => by simp [Expr.references]

theorem Expr.inBody_of_mem_args : ∀ es : List Expr, ∀ r ∈ Expr.argReferences es, r.inBody = true
  | [] => by simp [Expr.argReferences]
  | e :: es => by
    simp only [Expr.argReferences, List.forall_mem_append]
    exact ⟨Expr.inBody_of_mem e, Expr.inBody_of_mem_args es⟩

theorem Expr.inBody_of_mem_inits : ∀ inits : List (WrittenName × Expr),
    ∀ r ∈ Expr.initReferences inits, r.inBody = true
  | [] => by simp [Expr.initReferences]
  | (name, value) :: inits => by
    simp only [Expr.initReferences, List.forall_mem_cons, List.forall_mem_append]
    exact ⟨rfl, Expr.inBody_of_mem value, Expr.inBody_of_mem_inits inits⟩

end

theorem StructDecl.not_inBody (d : StructDecl) : ∀ r ∈ d.references, r.inBody = false := by
  intro r hr
  obtain ⟨f, -, rfl⟩ := List.mem_map.1 hr
  rfl

theorem FuncDecl.not_inBody (d : FuncDecl) : ∀ r ∈ d.annotations, r.inBody = false := by
  intro r hr
  rcases List.mem_append.1 hr with hr | hr
  · obtain ⟨p, -, rfl⟩ := List.mem_map.1 hr
    rfl
  · rw [Option.mem_toList, Option.map_eq_some_iff] at hr
    obtain ⟨type, -, rfl⟩ := hr
    rfl

/-- What is not an annotation stands in a body. -/
theorem Script.bodyReferences_eq_filter (script : Script) :
    script.bodyReferences = script.references.filter Reference.inBody := by
  have hnone : ∀ rs : List Reference, (∀ r ∈ rs, r.inBody = false) →
      rs.filter Reference.inBody = [] := by
    intro rs hrs
    rw [List.filter_eq_nil_iff]
    exact fun r hr => ne_true_of_eq_false (hrs r hr)
  have hstructs : (script.structs.flatMap StructDecl.references).filter Reference.inBody = [] := by
    rw [List.filter_flatMap, List.flatMap_eq_nil_iff]
    exact fun d _ => hnone d.references d.not_inBody
  unfold bodyReferences references
  rw [List.filter_append, hstructs, List.nil_append, List.filter_flatMap]
  refine List.flatMap_congr fun d _ => ?_
  have hbody : ∀ r ∈ d.body.flatMap Expr.references, r.inBody = true := by
    intro r hr
    obtain ⟨e, -, hr⟩ := List.mem_flatMap.1 hr
    exact e.inBody_of_mem r hr
  unfold FuncDecl.references
  rw [List.filter_append, hnone d.annotations d.not_inBody, List.nil_append,
    List.filter_eq_self.2 hbody]

theorem Script.references_bodySites (s : LinkScope) (script : Script) :
    (script.bodySites s).map (·.reference) = script.bodyReferences := by
  unfold bodySites bodyReferences
  rw [List.map_flatMap]
  exact List.flatMap_congr fun d _ => d.references_bodySites s

theorem Script.inBody_of_mem_bodySites {s : LinkScope} {script : Script} {site : Site}
    (h : site ∈ script.bodySites s) : site.reference.inBody = true := by
  have hr : site.reference ∈ script.bodyReferences := by
    rw [← script.references_bodySites s]
    exact List.mem_map_of_mem h
  rw [script.bodyReferences_eq_filter] at hr
  exact (List.mem_filter.1 hr).2

theorem Script.bodySites_eq_filter (s : LinkScope) (script : Script) :
    script.bodySites s = (script.sites s).filter (·.reference.inBody) := by
  have hnone : ∀ rs : List Reference, (∀ r ∈ rs, r.inBody = false) →
      (rs.map ({ reference := · } : Reference → Site)).filter (·.reference.inBody) = [] := by
    intro rs hrs
    rw [List.filter_eq_nil_iff]
    intro site hsite
    obtain ⟨r, hr, rfl⟩ := List.mem_map.1 hsite
    exact ne_true_of_eq_false (hrs r hr)
  have hstructs : (script.structs.flatMap StructDecl.sites).filter (·.reference.inBody) = [] := by
    rw [List.filter_flatMap, List.flatMap_eq_nil_iff]
    exact fun d _ => hnone d.references d.not_inBody
  unfold sites
  rw [List.filter_append, hstructs, List.nil_append, List.filter_flatMap]
  refine List.flatMap_congr fun d hd => ?_
  have hbody : ∀ site ∈ d.bodySites s, site.reference.inBody = true := fun site hsite =>
    inBody_of_mem_bodySites (List.mem_flatMap.2 ⟨d, hd, hsite⟩)
  unfold FuncDecl.sites
  rw [List.filter_append, hnone d.annotations d.not_inBody, List.nil_append,
    List.filter_eq_self.2 hbody]

/-! ## A whole script -/

/-- What a list yields, against the elements that yield something. -/
theorem forall₂_filter_filterMap {α β : Type} {p : α → Bool} {f : α → Option β}
    {R : α → β → Prop} {l : List α} (hp : ∀ a ∈ l, p a = (f a).isSome)
    (hR : ∀ a ∈ l, ∀ b, f a = some b → R a b) :
    List.Forall₂ R (l.filter p) (l.filterMap f) := by
  induction l with
  | nil => exact .nil
  | cons a l ih =>
    have ih := ih (fun a' h => hp a' (List.mem_cons_of_mem _ h))
      fun a' h => hR a' (List.mem_cons_of_mem _ h)
    have ha := hp a List.mem_cons_self
    cases hf : f a with
    | none =>
      rw [hf] at ha
      rwa [List.filter_cons_of_neg (by simp [ha]), List.filterMap_cons_none hf]
    | some b =>
      rw [hf] at ha
      rw [List.filter_cons_of_pos (by simp [ha]), List.filterMap_cons_some hf]
      exact .cons (hR a List.mem_cons_self b hf) ih

/-- Only bodies are reported. -/
theorem Script.filterMap_report? (s : LinkScope) (script : Script) :
    (script.sites s).filterMap (·.report? s) = (script.bodySites s).filterMap (·.report? s) := by
  rw [script.bodySites_eq_filter s, List.filterMap_filter]
  refine List.filterMap_congr fun site _ => ?_
  split
  · rfl
  · rename_i h
    obtain ⟨r, params, owner⟩ := site
    cases r with
    | typeRef type => rfl
    | identifier ident | callee ident | structLit name | field name | init name =>
      exact absurd rfl h

/-- **Every reference of a body is accounted for exactly once.** In a script that is not linked
yet, the diagnostics are one for each reported reference of the bodies, in the order of the
references, and a reference is linked or left alone as its fate says. The static types that the
owners of fields are known by are those that linking computes. -/
theorem body_references_are_accounted_for (registry : Registry) (types : TypeIndex)
    (config : Config) (script : Script) (h : ∀ r ∈ script.references, r.target = none) :
    let s := LinkScope.ofScript registry types config script
    (script.bodySites s).map (·.reference) = script.bodyReferences ∧
    (∀ params body e type, (s.linkParams params).outcome = .ok body →
      (Expr.link body e).outcome = .ok type → type = e.type s params) ∧
    ∃ linked reports, script.linked registry types config = .ok (linked, reports) ∧
      List.Forall₂ (Site.Reported s) ((script.bodySites s).filter (·.fate s = .reported))
        reports ∧
      List.Forall₂ (Site.Accounted s) (script.bodySites s) linked.bodyReferences := by
  intro s
  obtain ⟨linked, hok, hrefs⟩ := script.linked_of_unlinked registry types config h
  refine ⟨script.references_bodySites s, fun params body e type hbody he =>
    Expr.type_of_link (linkParams_shows rfl hbody) he, linked, _, hok, ?_, ?_⟩
  · rw [script.filterMap_report?]
    refine forall₂_filter_filterMap (fun site _ => ?_) fun _ _ _ hd => Site.reported_of_report? hd
    rw [Bool.eq_iff_iff, decide_eq_true_eq]
    exact (site.report?_isSome_iff s).symm
  · have hbody : linked.bodyReferences = (script.bodySites s).map (·.settled s) := by
      rw [Script.bodyReferences_eq_filter, hrefs, script.bodySites_eq_filter s, List.filter_map]
      refine congrArg _ (List.filter_congr fun site _ => ?_)
      exact site.inBody_settled s
    rw [hbody, List.forall₂_map_right_iff, List.forall₂_same]
    exact fun site hsite => site.settled_accounted s (Script.inBody_of_mem_bodySites hsite)

/-- A registry with `struct Point { x: int }` and `func origin(): Point` in `util`. -/
def pointRegistry : Registry :=
  let int : Member := ⟨⟨⟨⟨0⟩, {}⟩, none⟩, some (.primitive .int)⟩
  Bundles.empty.insert ⟨⟨"core"⟩, ⟨["util"]⟩⟩
    { package := ⟨["util"]⟩
      structs := OrderedMap.empty.insert "Point" ⟨⟨⟨⟨0⟩, {}⟩, none⟩, .insert .empty "x" int⟩
      funcs := OrderedMap.empty.insert "origin"
        ⟨⟨⟨⟨0⟩, {}⟩, none⟩, .empty, some (.struct ⟨["util", "Point"]⟩)⟩ }

/-- `func main() { origin().x; origin().y; Point { x: q, z: origin } }`, in a script that imports
`util`. -/
def pointScript : Script :=
  let name (text : String) : WrittenName := { name := ⟨[text]⟩ }
  { file := ⟨1⟩
    package := ⟨["game"]⟩
    imports := [{ name := ⟨["util"]⟩ }]
    funcs := [{
      name := { text := "main" }
      body := [
        .field (.call { name := name "origin" } [] {}) (name "x"),
        .field (.call { name := name "origin" } [] {}) (name "y"),
        .structLit (name "Point") [(name "x", .identifier { name := name "q" }),
          (name "z", .identifier { name := name "origin" })] {}] }] }

theorem three_of_nine_references_are_reported :
    (∀ r ∈ pointScript.references, r.target = none) ∧ pointScript.bodyReferences.length = 9 ∧
    ∃ linked reports, pointScript.linked pointRegistry .empty {} = .ok (linked, reports) ∧
      reports.length = 3 := by
  have h : ∀ r ∈ pointScript.references, r.target = none := by decide
  obtain ⟨-, -, linked, reports, hok, hreports, -⟩ :=
    body_references_are_accounted_for pointRegistry .empty {} pointScript h
  refine ⟨h, by decide, linked, reports, hok, ?_⟩
  rw [← hreports.length_eq]
  decide

end NameScope
