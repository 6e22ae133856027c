import NameScope.Proofs.Declared.Annotations
import NameScope.Proofs.Linking.Accounts
import NameScope.Proofs.Linking.Anchored
import NameScope.Proofs.Linking.Relink
import NameScope.Proofs.Lookup.Reported

/-!
# Annotations between indexing and linking

Linking looks every annotation up again and reports nothing of it, since indexing did. So each
annotation that is left without a target should have a report of indexing. It has one unless it
belongs to a repeated member: indexing passes over such a member once it has reported the name, and
linking takes its annotation like any other.

* `Script.annotated_of_linked`: the annotations of the linked tree are those of the script, each
  settled on its own (`LinkScope.settleType`); proved from the references of the tree, which give
  the types, and from the erased tree, which gives all else;
* `Annotated.isLeft_settle`: an annotation is left exactly if its look-up is reported.

**Results.**
* `left_annotations_are_reported_unless_repeated`: the look-up errors of indexing are one for each
  annotation that is left, repeated members apart;
* `repeated_annotation_is_lost`: with a repeated member an unknown type goes unnoticed.
-/
namespace NameScope

/-! ## The annotations of a tree -/

def Annotated.erase (t : Annotated) : Annotated := { t with type := t.type.erase }

theorem memberAnnotations_erase (earlier : List String) (decls : List MemberDecl) :
    memberAnnotations earlier (decls.map MemberDecl.erase) =
      (memberAnnotations earlier decls).map Annotated.erase := by
  induction decls generalizing earlier with
  | nil => rfl
  | cons decl decls ih =>
    simp only [List.map_cons, memberAnnotations]
    rw [ih]
    rfl

theorem StructDecl.annotated_erase (d : StructDecl) :
    d.erase.annotated = d.annotated.map Annotated.erase := by
  have hfields : d.erase.fields.map (·.toMemberDecl) =
      (d.fields.map (·.toMemberDecl)).map MemberDecl.erase := by
    simp only [erase, List.map_map]
    rfl
  unfold annotated
  rw [hfields, memberAnnotations_erase]

theorem FuncDecl.annotated_erase (d : FuncDecl) :
    d.erase.annotated = d.annotated.map Annotated.erase := by
  unfold annotated
  rw [List.map_append, ← memberAnnotations_erase]
  congr 1
  simp only [erase]
  cases d.returns <;> rfl

/-- Links do not show in the annotations of an erased script. -/
theorem Script.annotated_erase (script : Script) :
    script.erase.annotated = script.annotated.map Annotated.erase := by
  simp only [annotated, erase, List.map_append, List.flatMap_map, List.map_flatMap,
    StructDecl.annotated_erase, FuncDecl.annotated_erase]

/-- An annotation as a reference. -/
def Annotated.reference (t : Annotated) : Reference := .typeRef t.type

theorem reference_memberAnnotations (earlier : List String) (decls : List MemberDecl) :
    (memberAnnotations earlier decls).map Annotated.reference =
      decls.map fun decl => .typeRef decl.type := by
  induction decls generalizing earlier with
  | nil => rfl
  | cons decl decls ih =>
    simp only [memberAnnotations, List.map_cons, ih]
    rfl

theorem StructDecl.reference_annotated (d : StructDecl) :
    d.annotated.map Annotated.reference = d.references := by
  unfold annotated references
  rw [reference_memberAnnotations, List.map_map]
  rfl

theorem FuncDecl.reference_annotated (d : FuncDecl) :
    d.annotated.map Annotated.reference = d.annotations := by
  unfold annotated annotations
  rw [List.map_append, reference_memberAnnotations]
  congr 1
  cases d.returns <;> rfl

/-- The annotations are the references outside of bodies. -/
theorem Script.reference_annotated (script : Script) :
    script.annotated.map Annotated.reference = script.references.filter (!·.inBody) := by
  unfold annotated references
  rw [List.map_append, List.filter_append, List.map_flatMap, List.map_flatMap, List.filter_flatMap,
    List.filter_flatMap]
  congr 1
  · refine List.flatMap_congr fun d _ => ?_
    rw [d.reference_annotated, List.filter_eq_self.2]
    intro r hr
    simp [d.not_inBody r hr]
  · refine List.flatMap_congr fun d _ => ?_
    have hbody : (d.body.flatMap Expr.references).filter (!·.inBody) = [] := by
      refine List.filter_eq_nil_iff.2 fun r hr => ?_
      obtain ⟨e, -, hr⟩ := List.mem_flatMap.1 hr
      simp [e.inBody_of_mem r hr]
    unfold FuncDecl.references
    rw [List.filter_append, hbody, List.append_nil, d.reference_annotated, List.filter_eq_self.2]
    intro r hr
    simp [d.not_inBody r hr]

/-- A list of annotations is known by its references and the erased annotations. -/
theorem Annotated.eq_of_erase_eq {ts ts' : List Annotated}
    (h : ts.map erase = ts'.map erase) (hr : ts.map reference = ts'.map reference) : ts = ts' := by
  have heq : ∀ {t t' : Annotated}, t.erase = t'.erase → [t.reference] = [t'.reference] →
      t = t' := by
    intro t t' he hr
    obtain ⟨member, type, repeated⟩ := t
    obtain ⟨member', type', repeated'⟩ := t'
    simp only [erase, Annotated.mk.injEq] at he
    simp only [reference, List.cons.injEq, Reference.typeRef.injEq, and_true] at hr
    rw [he.1, hr, he.2.2]
  rw [← List.flatMap_pure_eq_map, ← List.flatMap_pure_eq_map] at hr
  exact eq_of_map_erase_eq (fun _ => rfl) heq h hr

/-! ## What linking leaves of an annotation -/

section

variable {s : LinkScope}

/-- An annotation once it is linked, if it was not before. -/
def LinkScope.settleType (s : LinkScope) (type : TypeRef) : TypeRef :=
  match (s.types.lookupRef s.imports type).target?, type with
  | some target, .named name => .named { name with target := some target }
  | _, type => type

def Annotated.settle (s : LinkScope) (t : Annotated) : Annotated :=
  { t with type := s.settleType t.type }

theorem LinkScope.range_settleType (s : LinkScope) (type : TypeRef) :
    (s.settleType type).range = type.range := by
  unfold settleType
  split <;> rfl

theorem LinkScope.erase_settleType (s : LinkScope) (type : TypeRef) :
    (s.settleType type).erase = type.erase := by
  unfold settleType
  split <;> rfl

theorem Site.settled_of_typeRef {site : Site} {type : TypeRef}
    (h : site.reference = .typeRef type) : site.settled s = .typeRef (s.settleType type) := by
  obtain ⟨r, params, owner⟩ := site
  subst h
  unfold settled target? LinkScope.settleType
  simp only
  cases (s.types.lookupRef s.imports type).target? with
  | none => rfl
  | some target => cases type <;> rfl

/-- **The annotations of a linked tree** are those of the script, settled one by one. -/
theorem Script.annotated_of_linked {registry : Registry} {types : TypeIndex} {config : Config}
    {script tree : Script} {reports : List Diagnostic}
    (hunlinked : ∀ r ∈ script.references, r.target = none)
    (h : script.linked registry types config = .ok (tree, reports)) :
    tree.annotated =
      script.annotated.map (Annotated.settle (.ofScript registry types config script)) := by
  let s := LinkScope.ofScript registry types config script
  obtain ⟨tree', hok, hreferences⟩ := script.linked_of_unlinked registry types config hunlinked
  rw [h] at hok
  cases hok
  refine Annotated.eq_of_erase_eq ?_ ?_
  · rw [← tree.annotated_erase, Script.erase_of_linked h, script.annotated_erase, List.map_map]
    refine List.map_congr_left fun t _ => ?_
    show t.erase = { t with type := (s.settleType t.type).erase }
    rw [s.erase_settleType]
    rfl
  · -- both sides are the settled sites outside of bodies
    have hsites : script.annotated.map Annotated.reference =
        ((script.sites s).filter fun site => !site.reference.inBody).map (·.reference) := by
      rw [script.reference_annotated, ← script.references_sites s, List.filter_map]
      rfl
    have hsettled : script.annotated.map (fun t => (t.settle s).reference) =
        ((script.sites s).filter fun site => !site.reference.inBody).map (·.settled s) := by
      rw [← List.forall₂_eq_eq_eq, List.forall₂_map_left_iff, List.forall₂_map_right_iff]
        at hsites ⊢
      exact hsites.imp fun t site h => (Site.settled_of_typeRef h.symm).symm
    rw [tree.reference_annotated, hreferences, List.filter_map, List.map_map]
    refine Eq.trans ?_ hsettled.symm
    refine congrArg _ (List.filter_congr fun site _ => ?_)
    rw [Function.comp_apply, site.inBody_settled s]

/-- It is left without a target, though it names a type. -/
def Annotated.isLeft (t : Annotated) : Bool :=
  match t.type with
  | .primitive _ _ => false
  | .named name => !name.isLinked

theorem Lookup.Presentable.isSome_target? [Matched α] {l : Lookup α} (h : l.Presentable) :
    l.target?.isSome = l.isResolved := by
  unfold target?
  cases hs : l.single? with
  | none =>
    have hnot : l.isResolved = false := by
      rw [← Bool.not_eq_true, l.isResolved_iff, hs]
      exact Bool.false_ne_true
    rw [hnot]
    rfl
  | some m =>
    obtain ⟨imports, hl⟩ := Lookup.eq_singleton_of_single? hs
    obtain ⟨target, htarget⟩ := h.placed ⟨m, imports⟩ (by simp [hl])
    have hyes : l.isResolved = true := by rw [l.isResolved_iff, hs, Option.isSome_some]
    rw [hyes, Option.bind_some, htarget, Option.isSome_some]

/-- An annotation without a target is left exactly if its look-up is reported. -/
theorem Annotated.isLeft_settle {t : Annotated} (h : t.type.target = none) (config : Config)
    (file : FileId) (member : String) :
    (t.settle s).isLeft = (s.types.report? config s.imports file member t.type).isSome := by
  obtain ⟨_, type, _⟩ := t
  have hreport := Lookup.report?_eq_none_iff config file .typeOf member type.range
    (s.types.lookupRef s.imports type)
  cases type with
  | primitive kind range => rfl
  | named name =>
    have hresolved := (s.types.presentable_lookupType s.imports name.name).isSome_target?
    have hlookup : s.types.lookupRef s.imports (.named name) =
      s.types.lookupType s.imports name.name := rfl
    have htarget : name.target = none := h
    unfold isLeft settle LinkScope.settleType TypeIndex.report?
    rw [hlookup] at hreport ⊢
    simp only
    cases ht : (s.types.lookupType s.imports name.name).target? with
    | some target =>
      rw [ht] at hresolved
      rw [hreport.2 hresolved.symm]
      rfl
    | none =>
      rw [ht] at hresolved
      have hsome := mt hreport.1 (by simp [← hresolved])
      rw [Option.isSome_iff_ne_none.2 hsome]
      simp [WrittenName.isLinked, htarget]

end

/-! ## Sessions -/

/-- The report is made at the annotation. -/
structure Annotated.ReportedAt (file : FileId) (t : Annotated) (d : Diagnostic) : Prop where
  file : d.file = file
  range : d.range = t.type.range

/-- **Annotations that are left are reported, unless their member is repeated.** In a session the
look-up errors that indexing reports of an unlinked script are one for each annotation that linking
leaves, in order, except for those of repeated fields and parameters. So each that is left has its
report exactly if no repeated member has one that is left. -/
theorem left_annotations_are_reported_unless_repeated (config : Config)
    (before after : List BundledScript) (s : BundledScript)
    (hunlinked : ∀ r ∈ s.script.references, r.target = none) :
    let x := Indexed.ofScripts config (before ++ s :: after)
    let errors := (Indexed.reportsAfter config x.types before s).filter Diagnostic.isLookupError
    ∃ tree linking, s.script.linked x.registry x.types config = .ok (tree, linking) ∧
      List.Forall₂ (Annotated.ReportedAt s.script.file)
        (tree.annotated.filter fun t => t.isLeft && !t.repeated) errors ∧
      (List.Forall₂ (Annotated.ReportedAt s.script.file) (tree.annotated.filter (·.isLeft))
          errors ↔
        ∀ t ∈ tree.annotated, t.isLeft = true → t.repeated = false) := by
  intro x errors
  obtain ⟨tree, hok, -⟩ := s.script.linked_of_unlinked x.registry x.types config hunlinked
  let scope := LinkScope.ofScript x.registry x.types config s.script
  have hannotated : tree.annotated = s.script.annotated.map (Annotated.settle scope) :=
    Script.annotated_of_linked hunlinked hok
  have herrors : errors = s.script.annotated.filterMap
      (·.report? (.ofScript config x.types s.script)) := PackageIndex.filter_add ..
  have hnone : ∀ t ∈ s.script.annotated, t.type.target = none := by
    intro t ht
    have hr : t.reference ∈ s.script.references :=
      (List.mem_filter.1 (s.script.reference_annotated ▸ List.mem_map_of_mem ht)).1
    have htarget := hunlinked _ hr
    obtain ⟨_, type, _⟩ := t
    cases type with
    | primitive kind range => rfl
    | named name => exact htarget
  have hreported : List.Forall₂ (Annotated.ReportedAt s.script.file)
      (tree.annotated.filter fun t => t.isLeft && !t.repeated) errors := by
    rw [hannotated, herrors, List.filter_map, List.forall₂_map_left_iff]
    refine forall₂_filter_filterMap (fun t ht => ?_) fun t ht d hd => ?_
    · have hleft := Annotated.isLeft_settle (s := scope) (hnone t ht) config s.script.file
        t.member
      have hrepeated : (t.settle scope).repeated = t.repeated := rfl
      rw [Function.comp_apply, hleft, hrepeated]
      unfold Annotated.report?
      cases t.repeated with
      | true => exact Bool.and_false _
      | false => exact Bool.and_true _
    · unfold Annotated.report? at hd
      split at hd
      · cases hd
      · obtain ⟨hfile, hrange, -⟩ := Lookup.of_report? hd
        exact ⟨hfile, hrange.trans (scope.range_settleType t.type).symm⟩
  refine ⟨tree, _, hok, hreported, fun hall t ht hleft => ?_, fun hfirst => ?_⟩
  · -- Both lists are as long as the list of errors, so nothing was filtered out of the first.
    have hfilter : (tree.annotated.filter fun t => t.isLeft && !t.repeated) =
        (tree.annotated.filter (·.isLeft)).filter (!·.repeated) := by
      rw [List.filter_filter]
      exact List.filter_congr fun t _ => Bool.and_comm _ _
    have hlength := hreported.length_eq.trans hall.length_eq.symm
    rw [hfilter, List.length_filter_eq_length_iff] at hlength
    simpa using hlength t (List.mem_filter.2 ⟨ht, hleft⟩)
  · have hsame : tree.annotated.filter (·.isLeft) =
        tree.annotated.filter fun t => t.isLeft && !t.repeated := by
      refine List.filter_congr fun t ht => ?_
      cases hleft : t.isLeft with
      | false => rfl
      | true => rw [hfirst t ht hleft]; rfl
    rw [hsame]
    exact hreported

/-- `struct Point { x: int, x: Vector3 }` with funcs. No struct is named `Vector3`. -/
def pointWithTwoX (funcs : List FuncDecl) : BundledScript :=
  ⟨⟨"core"⟩, {
    file := ⟨0⟩
    package := ⟨["geo"]⟩
    structs := [{
      name := { text := "Point" }
      fields := [
        { name := { text := "x" }, type := .primitive .int {} },
        { name := { text := "x" }
          type := .named { name := ⟨["Vector3"]⟩, range := ⟨⟨2, 7⟩, ⟨2, 14⟩⟩ } }] }]
    funcs }⟩

/-- `func origin(): Vector3` is reported, the second `x: Vector3` is not. -/
theorem one_of_two_left_annotations_is_reported :
    let s := pointWithTwoX [{
      name := { text := "origin" }
      returns := some (.named { name := ⟨["Vector3"]⟩, range := ⟨⟨4, 15⟩, ⟨4, 22⟩⟩ }) }]
    (∀ r ∈ s.script.references, r.target = none) ∧
    ∃ tree linking d,
      s.script.linked (Indexed.ofScripts {} [s]).registry (Indexed.ofScripts {} [s]).types {} =
        .ok (tree, linking) ∧
      (tree.annotated.filter (·.isLeft)).map (·.type.range) =
        [⟨⟨2, 7⟩, ⟨2, 14⟩⟩, ⟨⟨4, 15⟩, ⟨4, 22⟩⟩] ∧
      (Indexed.reportsAfter {} (Indexed.ofScripts {} [s]).types [] s).filter
        Diagnostic.isLookupError = [d] ∧
      d.range = ⟨⟨4, 15⟩, ⟨4, 22⟩⟩ := by
  intro s
  have hunlinked : ∀ r ∈ s.script.references, r.target = none := by decide
  obtain ⟨tree, linking, hok, hreported, -⟩ :=
    left_annotations_are_reported_unless_repeated {} [] [] s hunlinked
  have hannotated := Script.annotated_of_linked hunlinked hok
  have hall : (tree.annotated.filter (·.isLeft)).map (·.type.range) =
      [⟨⟨2, 7⟩, ⟨2, 14⟩⟩, ⟨⟨4, 15⟩, ⟨4, 22⟩⟩] := by
    rw [hannotated]
    decide
  have hfirst : (tree.annotated.filter fun t => t.isLeft && !t.repeated).map (·.type.range) =
      [⟨⟨4, 15⟩, ⟨4, 22⟩⟩] := by
    rw [hannotated]
    decide
  obtain ⟨t, ht, hrange⟩ := List.map_eq_singleton_iff.1 hfirst
  rw [ht] at hreported
  obtain ⟨d, ds, hd, hrest, herrors⟩ := List.forall₂_cons_left_iff.1 hreported
  rw [List.forall₂_nil_left_iff.1 hrest] at herrors
  exact ⟨hunlinked, tree, linking, d, hok, hall, herrors, hd.range.trans hrange⟩

/-- **The annotation of a repeated field is lost**: of `x: Vector3` neither phase reports anything,
and it is left without a target. -/
theorem repeated_annotation_is_lost :
    let s := pointWithTwoX []
    let x := Indexed.ofScripts {} [s]
    (∀ r ∈ s.script.references, r.target = none) ∧
    ¬ ∃ tree linking, s.script.linked x.registry x.types {} = .ok (tree, linking) ∧
      List.Forall₂ (Annotated.ReportedAt s.script.file) (tree.annotated.filter (·.isLeft))
        ((Indexed.reportsAfter {} x.types [] s).filter Diagnostic.isLookupError) := by
  intro s x
  have hunlinked : ∀ r ∈ s.script.references, r.target = none := by decide
  refine ⟨hunlinked, ?_⟩
  rintro ⟨tree, linking, hok, hall⟩
  have hlength := hall.length_eq
  rw [Script.annotated_of_linked hunlinked hok] at hlength
  revert hlength
  decide

end NameScope
