import Mathlib.Data.List.Perm.Basic
import NameScope.Proofs.Declared.TypeNames

/-!
# Look-up by key

What a name means in a registry depends on little of it: which packages there are, and what each of
them holds under the last segment of the name. `Registry.hits` finds the same as the search, and
reads just that. So two registries are compared package by package and name by name, whatever the
order of their tables.

**Results.**
* `lookupFunc_eq`, `lookupStruct_eq`: the typed look-ups, said through `hits`;
* `hits_perm`: other orders of packages give the same matches in another order;
* `ids_insert_filter`, `hits_insert`: writing one package leaves the matches of all others.
-/
namespace NameScope

/-- Every package, in the order of the table. -/
def Bundles.ids {τ : Type} (b : Bundles τ) : List PackageId := b.toList.map Prod.fst

theorem Bundles.mem_ids_iff {τ : Type} (b : Bundles τ) (id : PackageId) :
    id ∈ b.ids ↔ (b.get? id).isSome = true := by
  rw [ids, List.mem_map, Option.isSome_iff_exists]
  constructor
  · rintro ⟨⟨id, table⟩, he, rfl⟩
    exact ⟨table, (b.mem_toList_iff id table).1 he⟩
  · rintro ⟨table, h⟩
    exact ⟨(id, table), (b.mem_toList_iff id table).2 h, rfl⟩

/-- A look-up made of one search or, where that finds nothing, of a search everywhere. -/
def Lookup.ofSearch (search : (QualifiedName → Bool) → List (Alternative α))
    (imports : ImportSet) : Lookup α :=
  match search fun package => decide (package ∈ imports) with
  | [] => .notImported (search fun _ => true)
  | found => .imported found

theorem Lookup.alternatives_ofSearch (search : (QualifiedName → Bool) → List (Alternative α))
    (imports : ImportSet) :
    (ofSearch search imports).alternatives = search fun package => decide (package ∈ imports) := by
  unfold ofSearch
  split
  · rename_i h
    exact h.symm
  · rfl

theorem Lookup.candidates_ofSearch (search : (QualifiedName → Bool) → List (Alternative α))
    (imports : ImportSet) :
    (ofSearch search imports).candidates =
      if (ofSearch search imports).alternatives = [] then search fun _ => true else [] := by
  unfold ofSearch
  split
  · rfl
  · rename_i found h
    exact (if_neg h).symm

section

variable {δ α : Type}

/-- What a package declares under a name, in the table of structs or of funcs. -/
def Registry.find? (r : Registry) (table : PackageIndex → OrderedMap String δ) (id : PackageId)
    (name : String) : Option δ :=
  (r.get? id).bind fun index => (table index).get? name

/-- The declarations that a name means in the packages that are let in. -/
def Registry.hits (r : Registry) (table : PackageIndex → OrderedMap String δ)
    (wrap : QualifiedName → String → δ → α) (n : QualifiedName) (admits : QualifiedName → Bool) :
    List (Alternative α) :=
  r.ids.flatMap fun id =>
    if admits id.package && n.isSuffixOf (id.package.append n.last) then
      (r.find? table id n.last).toList.map fun d => ⟨wrap id.package n.last d, [id]⟩
    else []

/-- Of the entries of a table, a query selects at most the one with its last segment. -/
theorem Query.select_eq_get? (q : Query) (package : QualifiedName) (table : OrderedMap String δ) :
    q.select package table.entries =
      if q.accepts (package.append q.name.last) then
        (table.get? q.name.last).toList.map fun d => (q.name.last, d)
      else [] := by
  have hs : q.select package table.entries =
      (table.entries.filter fun e => e.1 == q.name.last).filter fun e =>
        q.accepts (package.append e.1) := by
    rw [List.filter_filter]
    exact List.filter_congr fun e _ => Bool.and_comm _ _
  rw [hs, OrderedMap.filter_key]
  cases table.get? q.name.last with
  | none => simp
  | some d =>
    by_cases ha : q.accepts (package.append q.name.last) = true <;> simp [ha]

/-- What is found in one of the two tables of a package. -/
theorem Registry.search_eq_hits (r : Registry) {q : Query}
    {table : PackageIndex → OrderedMap String δ} {wrap : QualifiedName → String → δ → α}
    {found : α → Candidate}
    (hq : ∀ package (index : PackageIndex), index.candidates package q =
      (q.select package (table index).entries).map fun e => found (wrap package e.1 e.2))
    (admits : QualifiedName → Bool) :
    r.search q admits = (r.hits table wrap q.name admits).map (·.map found) := by
  unfold Bundles.search hits Bundles.ids
  rw [List.map_flatMap, List.flatMap_map]
  refine List.flatMap_congr fun e he => ?_
  obtain ⟨id, index⟩ := e
  have hget : r.get? id = some index := (r.mem_toList_iff id index).1 he
  have hcandidates : Searchable.candidates id.package q index =
      (q.select id.package (table index).entries).map fun e => found (wrap id.package e.1 e.2) :=
    hq id.package index
  have haccepts : q.accepts (id.package.append q.name.last) =
      q.name.isSuffixOf (id.package.append q.name.last) := rfl
  simp only [hcandidates, Query.select_eq_get?, haccepts, find?, hget, Option.bind_some]
  by_cases ha : admits id.package = true
  · by_cases hs : q.name.isSuffixOf (id.package.append q.name.last) = true
    · simp [ha, hs, Alternative.map]
    · simp [ha, hs]
  · simp [ha]

theorem Lookup.filterMap_map {pick : Candidate → Option α} {found : α → Candidate}
    (h : ∀ a, pick (found a) = some a) (l : Lookup α) : (l.map found).filterMap pick = l := by
  have hl : ∀ l : List (Alternative α),
      (l.map (·.map found)).filterMap (Alternative.filterMap pick) = l := by
    intro l
    rw [List.filterMap_map]
    refine (List.filterMap_congr fun a _ => ?_).trans List.filterMap_some
    simp [Alternative.filterMap, Alternative.map, h]
  cases l with
  | imported alternatives => exact congrArg imported (hl alternatives)
  | notImported candidates => exact congrArg notImported (hl candidates)

/-- A typed look-up in one of the two tables of a package. -/
theorem Registry.lookup_eq_hits (r : Registry) (imports : ImportSet) {q : Query}
    {table : PackageIndex → OrderedMap String δ} {wrap : QualifiedName → String → δ → α}
    {found : α → Candidate} {pick : Candidate → Option α} (hpick : ∀ a, pick (found a) = some a)
    (hq : ∀ package (index : PackageIndex), index.candidates package q =
      (q.select package (table index).entries).map fun e => found (wrap package e.1 e.2)) :
    (r.lookup imports q).filterMap pick = .ofSearch (r.hits table wrap q.name) imports := by
  have hmap : r.lookup imports q =
      (Lookup.ofSearch (r.hits table wrap q.name) imports).map found := by
    unfold Bundles.lookup Lookup.ofSearch
    simp only [r.search_eq_hits hq]
    cases r.hits table wrap q.name fun package => decide (package ∈ imports) <;> rfl
  rw [hmap, Lookup.filterMap_map hpick]

end

namespace Registry

/-- The funcs that a name means in the packages that are let in. -/
abbrev funcHits (r : Registry) := r.hits (·.funcs) FuncMatch.mk

/-- The structs that a name means in the packages that are let in. -/
abbrev structHits (r : Registry) := r.hits (·.structs) StructMatch.mk

theorem lookupFunc_eq (r : Registry) (imports : ImportSet) (n : QualifiedName) :
    r.lookupFunc imports n = .ofSearch (r.funcHits n) imports :=
  r.lookup_eq_hits imports (fun _ => rfl) fun _ _ => rfl

theorem lookupStruct_eq (r : Registry) (imports : ImportSet) (n : QualifiedName) :
    r.lookupStruct imports n = .ofSearch (r.structHits n) imports :=
  r.lookup_eq_hits imports (fun _ => rfl) fun _ _ => rfl

section

variable {δ α : Type} {table : PackageIndex → OrderedMap String δ}
  {wrap : QualifiedName → String → δ → α}

/-- Registries with the same packages and declarations find the same, in the order of their
packages. -/
theorem hits_perm {r r' : Registry} (hids : r.ids.Perm r'.ids)
    (hfind : ∀ id name, r'.find? table id name = r.find? table id name) (n : QualifiedName)
    (admits : QualifiedName → Bool) :
    (r.hits table wrap n admits).Perm (r'.hits table wrap n admits) := by
  refine hids.flatMap fun id _ => ?_
  rw [hfind]

/-- A declaration that is meant makes a match. -/
theorem hits_ne_nil_iff {r : Registry} {n : QualifiedName} {admits : QualifiedName → Bool} :
    r.hits table wrap n admits ≠ [] ↔ ∃ id, admits id.package = true ∧
      n.isSuffixOf (id.package.append n.last) = true ∧
      (r.find? table id n.last).isSome = true := by
  rw [Ne, hits, List.flatMap_eq_nil_iff]
  constructor
  · intro h
    simp only [not_forall] at h
    obtain ⟨id, -, h⟩ := h
    split at h
    · rename_i hc
      rw [Bool.and_eq_true] at hc
      refine ⟨id, hc.1, hc.2, ?_⟩
      cases hf : r.find? table id n.last with
      | none => exact absurd (by simp [hf]) h
      | some d => rfl
    · exact absurd rfl h
  · rintro ⟨id, ha, hs, hf⟩ h
    obtain ⟨d, hd⟩ := Option.isSome_iff_exists.1 hf
    obtain ⟨index, hindex, -⟩ := Option.bind_eq_some_iff.1 hd
    have hid : id ∈ r.ids := (r.mem_ids_iff id).2 (Option.isSome_iff_exists.2 ⟨index, hindex⟩)
    have := h id hid
    simp [ha, hs, hd] at this

end

end Registry

/-! ## Writing one package -/

theorem OrderedMap.flatMap_insertEntry {α β γ : Type} [DecidableEq α] {F : α × β → List γ}
    {k : α} {v : β} {es : List (α × β)} (hold : ∀ old, (k, old) ∈ es → F (k, v) = F (k, old))
    (hnew : k ∉ es.map Prod.fst → F (k, v) = []) :
    (insertEntry k v es).flatMap F = es.flatMap F := by
  induction es with
  | nil => simp [insertEntry, hnew]
  | cons e es ih =>
    by_cases he : e.1 = k
    · obtain ⟨k', old⟩ := e
      cases he
      simp only [insertEntry, if_true, List.flatMap_cons, hold old List.mem_cons_self]
    · rw [insertEntry, if_neg he, List.flatMap_cons, List.flatMap_cons]
      rw [ih (fun old h => hold old (List.mem_cons_of_mem _ h)) fun h => hnew ?_]
      rw [List.map_cons, List.mem_cons, not_or]
      exact ⟨fun hk => he hk.symm, h⟩

/-- Writing a package leaves the others, and their order. -/
theorem Bundles.ids_insert_filter {τ : Type} (b : Bundles τ) (id : PackageId) (value : τ) :
    (b.insert id value).ids.filter (· ≠ id) = b.ids.filter (· ≠ id) := by
  let F : BundleName × OrderedMap QualifiedName τ → List PackageId := fun e =>
    (e.2.keys.map fun package => (⟨e.1, package⟩ : PackageId)).filter (· ≠ id)
  have hids : ∀ b : Bundles τ, b.ids.filter (· ≠ id) = b.table.entries.flatMap F := by
    intro b
    unfold ids toList
    rw [List.map_flatMap, List.filter_flatMap]
    refine List.flatMap_congr fun e _ => ?_
    rw [List.map_map]
    simp [F, OrderedMap.keys, Function.comp_def]
  -- only the keys of the bundle count, and of those only the new one can be missing
  have hF : ∀ packages : OrderedMap QualifiedName τ,
      F (id.bundle, packages.insert id.package value) = F (id.bundle, packages) := by
    intro packages
    simp only [F, OrderedMap.keys_insert]
    split
    · rfl
    · simp
  rw [hids, hids]
  refine OrderedMap.flatMap_insertEntry (fun old hold => ?_) fun hnew => ?_
  · have hget : b.table.get? id.bundle = some old := (b.table.get?_eq_some_iff _ _).2 hold
    rw [hget]
    exact hF old
  · have hget : b.table.get? id.bundle = none := (b.table.get?_eq_none_iff _).2 hnew
    rw [hget]
    exact hF .empty

/-- A package that is not let in may be written without a trace. -/
theorem Registry.hits_insert {δ α : Type} {table : PackageIndex → OrderedMap String δ}
    {wrap : QualifiedName → String → δ → α} (r : Registry) (id : PackageId) (index : PackageIndex)
    (n : QualifiedName) {admits : QualifiedName → Bool} (h : admits id.package = false) :
    Registry.hits (r.insert id index) table wrap n admits = r.hits table wrap n admits := by
  have hskip : ∀ r : Registry, r.hits table wrap n admits =
      (r.ids.filter (· ≠ id)).flatMap fun id =>
        if admits id.package && n.isSuffixOf (id.package.append n.last) then
          (r.find? table id n.last).toList.map fun d => ⟨wrap id.package n.last d, [id]⟩
        else [] := by
    intro r
    unfold hits
    induction r.ids with
    | nil => rfl
    | cons id' ids ih =>
      by_cases he : id' = id
      · rw [List.flatMap_cons, List.filter_cons_of_neg (by simpa using he), ← ih, he]
        simp [h]
      · rw [List.flatMap_cons, List.filter_cons_of_pos (by simpa using he), List.flatMap_cons, ih]
  rw [hskip, hskip, Bundles.ids_insert_filter]
  refine List.flatMap_congr fun id' hid' => ?_
  have hne : id ≠ id' := fun he => by simp [he] at hid'
  simp only [find?, Bundles.get?_insert, if_neg hne]

end NameScope
