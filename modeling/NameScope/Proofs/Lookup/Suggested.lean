import NameScope.Proofs.Lookup.Keyed
import NameScope.Proofs.Lookup.Reported

/-!
# What the import of a suggested package leads to

A suggestion names a package of one bundle, while an import names a package and no bundle. So a
script that follows a suggestion lets in the packages of that name in all bundles: of the matches
that were suggested, it then sees exactly those of that name. The suggestion resolves the reference
if it is the only one among them; otherwise the reference has become ambiguous.

* `hits_eq_filter`: a search finds, of all matches, those whose package is let in;
* `ofSearch_insert`: so one more import lets in the suggestions of its package, and no others.

**Results.** * `suggested_imports_show_their_package`: for funcs and structs, with what becomes of
the name and of the log.
-/
namespace NameScope

/-- The set with one more package. -/
def ImportSet.insert (s : ImportSet) (package : QualifiedName) : ImportSet :=
  ⟨package :: s.packages⟩

theorem ImportSet.mem_insert {s : ImportSet} {p q : QualifiedName} :
    p ∈ s.insert q ↔ p = q ∨ p ∈ s := List.mem_cons

/-- Whether the import of `package` makes the match visible. -/
def Alternative.isOf (a : Alternative α) (package : QualifiedName) : Bool :=
  a.imports.any fun id => decide (id.package = package)

/-- What a script sees that imports the package `id` of the suggestion `a`: `l` is the look-up and
`x` the attempt to resolve the name after that import. -/
structure Alternative.Opened (suggestions : List (Alternative α)) (a : Alternative α)
    (id : PackageId) (place : α → Target) (name : WrittenName) (log : DiagnosticLog)
    (l : Lookup α) (x : Attempt α) : Prop where
  /-- All suggestions of that package name, in their order. -/
  shown : l = .imported (suggestions.filter (·.isOf id.package))
  /-- The suggestion alone is found, silently, and linked, unless another bundle has one too. -/
  resolved : x = ⟨{ name with target := some (place a.value) }, log, .ok (.imported [a])⟩ ↔
    ∀ b ∈ suggestions, b.isOf id.package → b = a

/-! ## Of all matches, those that are let in -/

section

variable {δ α : Type} {table : PackageIndex → OrderedMap String δ}
  {wrap : QualifiedName → String → δ → α}

namespace Registry

theorem hits_eq_filter (r : Registry) (n : QualifiedName) (admits : QualifiedName → Bool) :
    r.hits table wrap n admits = (r.hits table wrap n fun _ => true).filter fun a =>
      a.imports.all fun id => admits id.package := by
  unfold hits
  rw [List.filter_flatMap]
  refine List.flatMap_congr fun id _ => ?_
  by_cases hs : n.isSuffixOf (id.package.append n.last) = true
  · cases ha : admits id.package <;>
      cases r.find? table id n.last <;> simp [ha, hs]
  · simp [hs]

theorem tagged_of_mem_hits {r : Registry} {n : QualifiedName} {admits : QualifiedName → Bool}
    {a : Alternative α} (h : a ∈ r.hits table wrap n admits) : ∃ id, a.imports = [id] := by
  obtain ⟨id, -, ha⟩ := List.mem_flatMap.1 h
  split at ha
  · obtain ⟨d, -, rfl⟩ := List.mem_map.1 ha
    exact ⟨id, rfl⟩
  · cases ha

/-- A package holds one declaration of a name. -/
theorem nodup_hits (r : Registry) (n : QualifiedName) (admits : QualifiedName → Bool) :
    (r.hits table wrap n admits).Nodup := by
  refine nodup_of_nodup_imports (fun a ha => tagged_of_mem_hits ha) ?_
  have hids : ((r.hits table wrap n admits).flatMap (·.imports)).Sublist
      (r.ids.flatMap fun id => [id]) := by
    unfold hits
    rw [List.flatMap_assoc]
    refine List.Sublist.flatMap_right _ fun id _ => ?_
    split
    · cases r.find? table id n.last <;> simp
    · exact List.nil_sublist _
  rw [List.flatMap_singleton'] at hids
  exact r.nodup_ids.sublist hids

end Registry

/-- Candidates are shown when nothing imported matches, and are then all matches. -/
theorem Lookup.of_mem_candidates_ofSearch {search : (QualifiedName → Bool) → List (Alternative α)}
    {imports : ImportSet} {a : Alternative α} (h : a ∈ (ofSearch search imports).candidates) :
    search (fun package => decide (package ∈ imports)) = [] ∧
      (ofSearch search imports).candidates = search fun _ => true := by
  have hall := candidates_ofSearch search imports
  by_cases hnone : (ofSearch search imports).alternatives = []
  · rw [if_pos hnone] at hall
    rw [alternatives_ofSearch] at hnone
    exact ⟨hnone, hall⟩
  · rw [hall, if_neg hnone] at h
    cases h

theorem Registry.tagged_of_mem_candidates {r : Registry} {n : QualifiedName}
    {imports : ImportSet} {a : Alternative α}
    (h : a ∈ (Lookup.ofSearch (r.hits table wrap n) imports).candidates) :
    ∃ id, a.imports = [id] := by
  obtain ⟨-, hall⟩ := Lookup.of_mem_candidates_ofSearch h
  rw [hall] at h
  exact tagged_of_mem_hits h

/-- One more import lets in the suggestions of its package. -/
theorem Registry.ofSearch_insert (r : Registry) (n : QualifiedName) {imports : ImportSet}
    {a : Alternative α} (ha : a ∈ (Lookup.ofSearch (r.hits table wrap n) imports).candidates)
    {id : PackageId} (hid : id ∈ a.imports) :
    Lookup.ofSearch (r.hits table wrap n) (imports.insert id.package) =
      .imported ((Lookup.ofSearch (r.hits table wrap n) imports).candidates.filter
        (·.isOf id.package)) := by
  obtain ⟨hnone, hall⟩ := Lookup.of_mem_candidates_ofSearch ha
  rw [hall] at ha ⊢
  have hshown : r.hits table wrap n (fun package => decide (package ∈ imports.insert id.package)) =
      (r.hits table wrap n fun _ => true).filter (·.isOf id.package) := by
    rw [r.hits_eq_filter n]
    refine List.filter_congr fun b hb => ?_
    obtain ⟨id', hb'⟩ := tagged_of_mem_hits hb
    have hout : id'.package ∉ imports := by
      rw [r.hits_eq_filter n, List.filter_eq_nil_iff] at hnone
      simpa [hb'] using hnone b hb
    simp [Alternative.isOf, hb', ImportSet.mem_insert, hout]
  have hopen : a.isOf id.package = true := by
    unfold Alternative.isOf
    rw [List.any_eq_true]
    exact ⟨id, hid, decide_eq_true rfl⟩
  unfold Lookup.ofSearch
  rw [hshown]
  split
  · rename_i hempty
    exact absurd hopen (List.filter_eq_nil_iff.1 hempty a ha)
  · rfl

end

/-! ## The suggestion that is followed -/

theorem eq_singleton_iff_of_nodup {α : Type} {l : List α} {a : α} (hn : l.Nodup) (ha : a ∈ l) :
    l = [a] ↔ ∀ b ∈ l, b = a := by
  constructor
  · rintro rfl b hb
    exact List.mem_singleton.1 hb
  · intro h
    rw [← List.perm_singleton, List.perm_ext_iff_of_nodup hn (List.nodup_singleton a)]
    intro b
    rw [List.mem_singleton]
    exact ⟨h b, fun hb => hb ▸ ha⟩

/-- A name is linked in silence to the only match, and to no other. -/
theorem Lookup.attempt_imported_eq_iff [Matched α] {place : α → Target}
    (hplace : ∀ m, Matched.target m = some (place m)) (config : Config) (kind : ReferenceKind)
    {name : WrittenName} (hname : name.target = none) (log : DiagnosticLog)
    (found : List (Alternative α)) (a : Alternative α) :
    (imported found).attempt config kind name log =
        ⟨{ name with target := some (place a.value) }, log, .ok (.imported [a])⟩ ↔
      found = [a] := by
  rw [attempt_of_unlinked _ hplace config kind hname log]
  constructor
  · intro h
    exact imported.inj (Except.ok.inj (congrArg Attempt.outcome h))
  · rintro rfl
    simp [single?, alternatives, report?, error?, DiagnosticLog.addAll]

theorem Registry.opened {δ α : Type} [Matched α] {table : PackageIndex → OrderedMap String δ}
    {wrap : QualifiedName → String → δ → α} (r : Registry) {place : α → Target}
    (hplace : ∀ m, Matched.target m = some (place m)) (config : Config) (kind : ReferenceKind)
    {imports : ImportSet} {name : WrittenName} (hname : name.target = none) (log : DiagnosticLog)
    {a : Alternative α}
    (ha : a ∈ (Lookup.ofSearch (r.hits table wrap name.name) imports).candidates)
    {id : PackageId} (hid : id ∈ a.imports) :
    a.Opened (Lookup.ofSearch (r.hits table wrap name.name) imports).candidates id place name log
      (Lookup.ofSearch (r.hits table wrap name.name) (imports.insert id.package))
      ((Lookup.ofSearch (r.hits table wrap name.name) (imports.insert id.package)).attempt config
        kind name log) := by
  have hshown := r.ofSearch_insert name.name ha hid
  refine ⟨hshown, ?_⟩
  rw [hshown]
  generalize hl : Lookup.ofSearch (r.hits table wrap name.name) imports = l at ha
  have hnodup : (l.candidates.filter (·.isOf id.package)).Nodup := by
    obtain ⟨-, hall⟩ := Lookup.of_mem_candidates_ofSearch (hl ▸ ha)
    rw [← hl, hall]
    exact (r.nodup_hits name.name fun _ => true).filter _
  have hmem : a ∈ l.candidates.filter (·.isOf id.package) := by
    rw [List.mem_filter]
    exact ⟨ha, List.any_eq_true.2 ⟨id, hid, decide_eq_true rfl⟩⟩
  have honly : l.candidates.filter (·.isOf id.package) = [a] ↔
      ∀ b ∈ l.candidates, b.isOf id.package → b = a := by
    rw [eq_singleton_iff_of_nodup hnodup hmem]
    simp only [List.mem_filter, and_imp]
  rw [← honly]
  exact Lookup.attempt_imported_eq_iff hplace config kind hname log _ a

/-- **A suggested import shows what its package name stands for.** Of the suggestions for a func or
a struct, the import of one's package makes visible those of that package name, whatever their
bundle; and the name is resolved to the suggestion, with nothing to report, exactly when no other
bundle has a suggestion there. -/
theorem suggested_imports_show_their_package (r : Registry) (config : Config) (imports : ImportSet)
    (name : WrittenName) (h : name.target = none) (log : DiagnosticLog) :
    (∀ a ∈ (r.lookupFunc imports name.name).candidates, ∃ id, a.imports = [id] ∧
      a.Opened (r.lookupFunc imports name.name).candidates id (·.definition.toTarget) name log
        (r.lookupFunc (imports.insert id.package) name.name)
        (r.resolveFunc config (imports.insert id.package) name log)) ∧
    ∀ a ∈ (r.lookupStruct imports name.name).candidates, ∃ id, a.imports = [id] ∧
      a.Opened (r.lookupStruct imports name.name).candidates id (·.definition.toTarget) name log
        (r.lookupStruct (imports.insert id.package) name.name)
        (r.resolveStruct config (imports.insert id.package) name log) := by
  unfold Registry.resolveFunc Registry.resolveStruct
  simp only [Registry.lookupFunc_eq, Registry.lookupStruct_eq]
  constructor
  · intro a ha
    obtain ⟨id, hid⟩ := Registry.tagged_of_mem_candidates ha
    exact ⟨id, hid,
      r.opened (fun _ => rfl) config .func h log ha (hid ▸ List.mem_singleton_self id)⟩
  · intro a ha
    obtain ⟨id, hid⟩ := Registry.tagged_of_mem_candidates ha
    exact ⟨id, hid,
      r.opened (fun _ => rfl) config .struct h log ha (hid ▸ List.mem_singleton_self id)⟩

/-- `Grid` is in one of three packages `util`, so the import of `util` resolves it. -/
theorem suggested_import_resolves_grid :
    let name : WrittenName := ⟨⟨["Grid"]⟩, {}, none⟩
    name.target = none ∧
    ∃ a ∈ (threeUtils.lookupStruct (.ofList []) name.name).candidates,
      a.imports = [⟨⟨"core"⟩, ⟨["util"]⟩⟩] ∧
      threeUtils.resolveStruct {} ((ImportSet.ofList []).insert ⟨["util"]⟩) name ⟨⟨9⟩, []⟩ =
        ⟨{ name with target := some a.value.definition.toTarget }, ⟨⟨9⟩, []⟩,
          .ok (.imported [a])⟩ := by
  intro name
  have h : name.target = none := rfl
  obtain ⟨-, hstructs⟩ :=
    suggested_imports_show_their_package threeUtils {} (.ofList []) name h ⟨⟨9⟩, []⟩
  have hone : (threeUtils.lookupStruct (.ofList []) name.name).candidates.map (·.imports) =
      [[⟨⟨"core"⟩, ⟨["util"]⟩⟩]] := by decide
  obtain ⟨a, hcandidates, himports⟩ := List.map_eq_singleton_iff.1 hone
  have ha : a ∈ (threeUtils.lookupStruct (.ofList []) name.name).candidates := by
    rw [hcandidates]
    exact List.mem_singleton_self a
  obtain ⟨id, hid, hopened⟩ := hstructs a ha
  have hcore : id = ⟨⟨"core"⟩, ⟨["util"]⟩⟩ := List.singleton_inj.1 (hid.symm.trans himports)
  subst hcore
  refine ⟨h, a, ha, himports, hopened.resolved.2 fun b hb _ => ?_⟩
  rw [hcandidates] at hb
  exact List.mem_singleton.1 hb

/-- `func spawn()` in the package `util` of a bundle. -/
def spawnIn (bundle : String) (file : FileId) : BundledScript :=
  ⟨⟨bundle⟩, { file, package := ⟨["util"]⟩, funcs := [{ name := { text := "spawn" } }] }⟩

/-- Two bundles with a func `spawn` in a package `util` of theirs. -/
def twoSpawns : Registry :=
  (Indexed.ofScripts {} [spawnIn "core" ⟨0⟩, spawnIn "mods" ⟨1⟩]).registry

/-- Without an import, `spawn` is suggested from either package; with the import that either
suggestion asks for, it is ambiguous. -/
theorem suggested_import_leaves_spawn_ambiguous :
    let name : WrittenName := ⟨⟨["spawn"]⟩, {}, none⟩
    let after := twoSpawns.resolveFunc {} ((ImportSet.ofList []).insert ⟨["util"]⟩) name ⟨⟨9⟩, []⟩
    ((twoSpawns.lookupFunc (.ofList []) name.name).alternatives = [] ∧
      (twoSpawns.lookupFunc (.ofList []) name.name).candidates.map (·.imports) =
        [[⟨⟨"core"⟩, ⟨["util"]⟩⟩], [⟨⟨"mods"⟩, ⟨["util"]⟩⟩]]) ∧
    (¬ ∃ a, (twoSpawns.lookupFunc ((ImportSet.ofList []).insert ⟨["util"]⟩)
      name.name).alternatives = [a]) ∧
    after.log.entries.map (·.code) = [some "E0002"] ∧ after.name.target = none := by
  intro name after
  refine ⟨by decide, ?_, by decide, by decide⟩
  rintro ⟨a, ha⟩
  have htwo : (twoSpawns.lookupFunc ((ImportSet.ofList []).insert ⟨["util"]⟩)
      name.name).alternatives.length = 2 := by decide
  rw [ha] at htwo
  simp at htwo

end NameScope
