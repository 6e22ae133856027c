import Mathlib.Data.List.Flatten
import Mathlib.Data.List.Nodup
import NameScope.Lookup.Resolve

/-!
# What a search finds, said without searching

A package index answers a query by filtering its entries, the type names of a package by one
keyed look-up, and the search asks all packages twice if need be. Here the declarations of all
packages stand in one flat list (`Bundles.declarations`), and a written name means those whose
qualified name it closes (`Bundles.meant`). Nothing is said of keys, last segments or passes.

A written name has a segment. The empty name would close every qualified name, while both tables
go by its last segment.

**Results.**
* `candidates_eq_meant`: each kind of table finds what is meant (`Declaring.Lawful`);
* `ids_meant_sublist`: the packages of the matches are met in the order of the table, each at most
  once;
* `lookup_exact`: imported matches, or else the matches of all packages (`Lookup.Exact`);
* `search_finds_exactly_what_is_meant`: the same for the three typed look-ups.
-/
namespace NameScope

/-- A declaration of a package, with the match that it makes. -/
structure Declaration where
  id : PackageId
  name : String
  found : Candidate

namespace Declaration

/-- The qualified name. -/
def full (d : Declaration) : QualifiedName := d.id.package.append d.name

/-- The match, tagged with its package. -/
def alternative (d : Declaration) : Alternative Candidate := ⟨d.found, [d.id]⟩

end Declaration

/-- A table whose declarations can be listed. -/
class Declaring (τ : Type) where
  /-- The declarations of a kind, in the order of the table. -/
  declared : QueryKind → PackageId → τ → List Declaration

def PackageIndex.declared (kind : QueryKind) (id : PackageId) (index : PackageIndex) :
    List Declaration :=
  match kind with
  | .func => index.funcs.entries.map fun e => ⟨id, e.1, .func ⟨id.package, e.1, e.2⟩⟩
  | .struct => index.structs.entries.map fun e => ⟨id, e.1, .struct ⟨id.package, e.1, e.2⟩⟩
  | .type => []

def TypeNames.declared (kind : QueryKind) (id : PackageId) (names : TypeNames) :
    List Declaration :=
  match kind with
  | .type =>
    names.targets.entries.map fun e =>
      ⟨id, e.1, .type ⟨.struct (id.package.append e.1), some e.2⟩⟩
  | _ => []

instance : Declaring PackageIndex := ⟨PackageIndex.declared⟩

instance : Declaring TypeNames := ⟨TypeNames.declared⟩

section

variable {τ : Type} [Declaring τ]

/-- The declarations of all packages, package by package. -/
def Bundles.declarations (b : Bundles τ) (kind : QueryKind) : List Declaration :=
  b.toList.flatMap fun (id, table) => Declaring.declared kind id table

/-- The declarations that a query means in the packages that are let in: those whose qualified
name the written segments close. -/
def Bundles.meant (b : Bundles τ) (q : Query) (admits : QualifiedName → Bool) :
    List (Alternative Candidate) :=
  ((b.declarations q.kind).filter fun d =>
    admits d.id.package && decide (q.name.segments <:+ d.full.segments)).map
    Declaration.alternative

end

/-- Changes the match; its packages stay. -/
def Alternative.map {α β : Type} (f : α → β) (a : Alternative α) : Alternative β :=
  ⟨f a.value, a.imports⟩

/-- A look-up holds what a query means, where `wrap` says which candidate a match is. -/
structure Lookup.Exact {τ α : Type} [Declaring τ] (b : Bundles τ) (imports : ImportSet)
    (q : Query) (wrap : α → Candidate) (l : Lookup α) : Prop where
  /-- The imported declarations that are meant, in order. -/
  alternatives :
    l.alternatives.map (·.map wrap) = b.meant q fun package => decide (package ∈ imports)
  /-- All that are meant, provided that none of them is imported. -/
  candidates :
    l.candidates.map (·.map wrap) = if l.alternatives = [] then b.meant q fun _ => true else []
  /-- So they come from packages that are not imported. -/
  outside : ∀ a ∈ l.candidates, ∀ id ∈ a.imports, id.package ∉ imports
  /-- Each match is tagged with its own package alone. -/
  tagged : ∀ a ∈ l.alternatives ++ l.candidates, ∃ id, a.imports = [id]
  /-- No package makes two matches. -/
  once : (l.alternatives.flatMap (·.imports)).Nodup ∧ (l.candidates.flatMap (·.imports)).Nodup
  nodup : l.alternatives.Nodup ∧ l.candidates.Nodup
  exclusive : l.alternatives = [] ∨ l.candidates = []

/-! ## Names that close a qualified name -/

theorem QualifiedName.last_of_suffix {n full : QualifiedName} (h : n.segments ≠ [])
    (hs : n.segments <:+ full.segments) : full.last = n.last := by
  have hf : full.segments ≠ [] := fun hf => h (List.suffix_nil.1 (hf ▸ hs))
  unfold last
  rw [List.getLast?_eq_some_getLast h, List.getLast?_eq_some_getLast hf, ← hs.getLast h]

theorem accepts_iff (q : Query) (full : QualifiedName) :
    q.accepts full = true ↔ q.name.segments <:+ full.segments :=
  QualifiedName.isSuffixOf_iff q.name full

/-- The comparison of last segments before the real one changes nothing. -/
theorem select_eq_filter {δ : Type} {q : Query} (h : q.name.segments ≠ [])
    (package : QualifiedName) (entries : List (String × δ)) :
    q.select package entries =
      entries.filter fun e => decide (q.name.segments <:+ (package.append e.1).segments) := by
  refine List.filter_congr fun e _ => ?_
  rw [Bool.eq_iff_iff]
  simp only [Bool.and_eq_true, beq_iff_eq, decide_eq_true_eq, accepts_iff]
  constructor
  · exact fun hs => hs.2
  · intro hs
    have hl := QualifiedName.last_of_suffix h hs
    rw [QualifiedName.last_append] at hl
    exact ⟨hl, hs⟩

/-- A keyed look-up is the search for the one entry with that key. -/
theorem OrderedMap.filter_key {α δ : Type} [DecidableEq α] (m : OrderedMap α δ) (k : α) :
    m.entries.filter (fun e => e.1 == k) = (m.get? k).toList.map fun v => (k, v) := by
  obtain ⟨es, hn⟩ := m
  unfold get?
  simp only
  induction es with
  | nil => rfl
  | cons e es ih =>
    simp only [List.map_cons, List.nodup_cons] at hn
    by_cases he : e.1 = k
    · have hk : k ∉ es.map Prod.fst := he ▸ hn.1
      have hnone := (lookupEntry_eq_none_iff k es).2 hk
      rw [List.filter_cons_of_pos (by simpa using he), ih hn.2, hnone, lookupEntry_cons,
        if_pos he]
      simp [← he]
    · rw [List.filter_cons_of_neg (by simpa using he), ih hn.2, lookupEntry_cons, if_neg he]

/-! ## The two kinds of table -/

/-- A table that is searched for what is meant, and in which names are keys. -/
class Declaring.Lawful (τ : Type) [Searchable τ] [Declaring τ] : Prop where
  candidates_eq_meant (id : PackageId) (q : Query) (table : τ) : q.name.segments ≠ [] →
    Searchable.candidates id.package q table =
      ((Declaring.declared q.kind id table).filter fun d =>
        decide (q.name.segments <:+ d.full.segments)).map (·.found)
  id_of_mem (kind : QueryKind) (id : PackageId) (table : τ) :
    ∀ d ∈ Declaring.declared kind id table, d.id = id
  nodup_names (kind : QueryKind) (id : PackageId) (table : τ) :
    ((Declaring.declared kind id table).map (·.name)).Nodup

theorem PackageIndex.candidates_eq_meant (id : PackageId) (q : Query) (index : PackageIndex)
    (h : q.name.segments ≠ []) :
    index.candidates id.package q =
      ((index.declared q.kind id).filter fun d =>
        decide (q.name.segments <:+ d.full.segments)).map (·.found) := by
  unfold candidates declared
  cases q.kind with
  | func => simp only [List.filter_map, List.map_map, select_eq_filter h]; rfl
  | struct => simp only [List.filter_map, List.map_map, select_eq_filter h]; rfl
  | type => rfl

/-- The selection of entries finds what one keyed look-up finds. -/
theorem TypeNames.candidates_eq_select (package : QualifiedName) (q : Query) (names : TypeNames)
    (h : q.kind = .type) :
    names.candidates package q = (q.select package names.targets.entries).map fun e =>
      .type ⟨.struct (package.append e.1), some e.2⟩ := by
  have hs : q.select package names.targets.entries =
      ((names.targets.get? q.name.last).toList.map fun v => (q.name.last, v)).filter fun e =>
        q.accepts (package.append e.1) := by
    rw [← OrderedMap.filter_key, List.filter_filter]
    exact List.filter_congr fun e _ => Bool.and_comm _ _
  rw [hs]
  unfold candidates
  rw [h]
  cases names.targets.get? q.name.last with
  | none => rfl
  | some target =>
    simp only [Option.toList_some, List.map_cons, List.map_nil]
    by_cases ha : q.accepts (package.append q.name.last) = true
    · rw [if_pos ha, List.filter_cons_of_pos (by exact ha)]; rfl
    · rw [if_neg ha, List.filter_cons_of_neg (by exact ha)]; rfl

theorem TypeNames.candidates_eq_meant (id : PackageId) (q : Query) (names : TypeNames)
    (h : q.name.segments ≠ []) :
    names.candidates id.package q =
      ((names.declared q.kind id).filter fun d =>
        decide (q.name.segments <:+ d.full.segments)).map (·.found) := by
  cases hk : q.kind with
  | func => simp [candidates, declared, hk]
  | struct => simp [candidates, declared, hk]
  | type =>
    rw [candidates_eq_select id.package q names hk, select_eq_filter h]
    unfold declared
    rw [List.filter_map, List.map_map]
    rfl

instance : Declaring.Lawful PackageIndex where
  candidates_eq_meant := PackageIndex.candidates_eq_meant
  id_of_mem kind id index d hd := by
    cases kind with
    | func => obtain ⟨e, -, rfl⟩ := List.mem_map.1 hd; rfl
    | struct => obtain ⟨e, -, rfl⟩ := List.mem_map.1 hd; rfl
    | type => cases hd
  nodup_names kind id index := by
    cases kind with
    | func => simpa [Declaring.declared, PackageIndex.declared, Function.comp_def] using
        index.funcs.nodup_keys
    | struct => simpa [Declaring.declared, PackageIndex.declared, Function.comp_def] using
        index.structs.nodup_keys
    | type => exact List.nodup_nil

instance : Declaring.Lawful TypeNames where
  candidates_eq_meant := TypeNames.candidates_eq_meant
  id_of_mem kind id names d hd := by
    cases kind with
    | type => obtain ⟨e, -, rfl⟩ := List.mem_map.1 hd; rfl
    | func => cases hd
    | struct => cases hd
  nodup_names kind id names := by
    cases kind with
    | type => simpa [Declaring.declared, TypeNames.declared, Function.comp_def] using
        names.targets.nodup_keys
    | func => exact List.nodup_nil
    | struct => exact List.nodup_nil

/-! ## The search -/

section

variable {τ : Type}

theorem Bundles.nodup_ids (b : Bundles τ) : (b.toList.map Prod.fst).Nodup := by
  unfold toList
  rw [List.map_flatMap, List.nodup_flatMap]
  constructor
  · intro e _
    rw [List.map_map]
    have hn := e.2.nodup_keys
    refine List.Nodup.of_map PackageId.package ?_
    simpa [Function.comp_def] using hn
  · have hn := b.table.nodup_keys
    rw [List.Nodup, List.pairwise_map] at hn
    refine hn.imp fun {e e'} hne => List.disjoint_left.2 ?_
    intro id hid hid'
    simp only [List.mem_map] at hid hid'
    obtain ⟨p, ⟨x, -, rfl⟩, rfl⟩ := hid
    obtain ⟨p', ⟨x', -, rfl⟩, hp'⟩ := hid'
    exact hne (congrArg PackageId.bundle hp').symm

variable [Declaring τ]

theorem Bundles.mem_meant {b : Bundles τ} {q : Query} {admits : QualifiedName → Bool}
    {a : Alternative Candidate} :
    a ∈ b.meant q admits ↔ ∃ d ∈ b.declarations q.kind, admits d.id.package = true ∧
      q.name.segments <:+ d.full.segments ∧ a = d.alternative := by
  simp only [meant, List.mem_map, List.mem_filter, Bool.and_eq_true, decide_eq_true_eq]
  constructor
  · rintro ⟨d, ⟨hd, ha, hs⟩, rfl⟩
    exact ⟨d, hd, ha, hs, rfl⟩
  · rintro ⟨d, hd, ha, hs, rfl⟩
    exact ⟨d, ⟨hd, ha, hs⟩, rfl⟩

variable [Searchable τ] [Declaring.Lawful τ]

/-- Both kinds of table together: the search finds what is meant. -/
theorem Bundles.search_eq_meant (b : Bundles τ) {q : Query} (h : q.name.segments ≠ [])
    (admits : QualifiedName → Bool) : b.search q admits = b.meant q admits := by
  unfold search meant declarations
  rw [List.filter_flatMap, List.map_flatMap]
  refine List.flatMap_congr fun e _ => ?_
  obtain ⟨id, table⟩ := e
  simp only
  have hid := Declaring.Lawful.id_of_mem q.kind id table
  rw [Declaring.Lawful.candidates_eq_meant id q table h, List.map_map]
  by_cases ha : admits id.package = true
  · rw [if_pos ha]
    have hf : (Declaring.declared q.kind id table).filter (fun d =>
          admits d.id.package && decide (q.name.segments <:+ d.full.segments)) =
        (Declaring.declared q.kind id table).filter (fun d =>
          decide (q.name.segments <:+ d.full.segments)) := by
      refine List.filter_congr fun d hd => ?_
      rw [hid d hd, ha, Bool.true_and]
    rw [hf]
    refine List.map_congr_left fun d hd => ?_
    have hd := hid d (List.mem_filter.1 hd).1
    simp only [Function.comp, Declaration.alternative, hd]
  · rw [if_neg ha]
    symm
    rw [List.map_eq_nil_iff, List.filter_eq_nil_iff]
    intro d hd
    rw [hid d hd]
    simp [ha]

/-- Of the names of one table, which are keys, at most one is the last segment. -/
theorem Declaring.accepted_ids_sublist (q : Query) (h : q.name.segments ≠ []) (id : PackageId)
    (table : τ) (admits : QualifiedName → Bool) :
    (((Declaring.declared q.kind id table).filter fun d =>
      admits d.id.package && decide (q.name.segments <:+ d.full.segments)).map (·.id)).Sublist
      [id] := by
  generalize hl : ((Declaring.declared q.kind id table).filter fun d =>
    admits d.id.package && decide (q.name.segments <:+ d.full.segments)) = l
  have hmem : ∀ d ∈ l, d.id = id ∧ d.name = q.name.last := by
    intro d hd
    rw [← hl, List.mem_filter, Bool.and_eq_true, decide_eq_true_eq] at hd
    obtain ⟨hd, -, hs⟩ := hd
    refine ⟨Lawful.id_of_mem q.kind id table d hd, ?_⟩
    have hlast := QualifiedName.last_of_suffix h hs
    rwa [Declaration.full, QualifiedName.last_append] at hlast
  have hnames : l.map (·.name) = List.replicate l.length q.name.last := by
    rw [← List.length_map (·.name)]
    refine List.eq_replicate_of_mem fun n hn => ?_
    obtain ⟨d, hd, rfl⟩ := List.mem_map.1 hn
    exact (hmem d hd).2
  have hids : l.map (·.id) = List.replicate l.length id := by
    rw [← List.length_map (·.id)]
    refine List.eq_replicate_of_mem fun i hi => ?_
    obtain ⟨d, hd, rfl⟩ := List.mem_map.1 hi
    exact (hmem d hd).1
  have hle : l.length ≤ 1 := by
    have hn := Lawful.nodup_names q.kind id table
    have hsub : (l.map (·.name)).Sublist ((Declaring.declared q.kind id table).map (·.name)) :=
      hl ▸ List.filter_sublist.map _
    have hl := hn.sublist hsub
    rwa [hnames, List.nodup_replicate] at hl
  rw [hids, List.replicate_sublist_iff]
  simpa using hle

/-- The packages of the matches are met in the order of the table, each at most once. -/
theorem Bundles.ids_meant_sublist (b : Bundles τ) {q : Query} (h : q.name.segments ≠ [])
    (admits : QualifiedName → Bool) :
    ((b.meant q admits).flatMap (·.imports)).Sublist (b.toList.map Prod.fst) := by
  have hl : (b.meant q admits).flatMap (·.imports) = b.toList.flatMap fun e =>
      ((Declaring.declared q.kind e.1 e.2).filter fun d =>
        admits d.id.package && decide (q.name.segments <:+ d.full.segments)).map (·.id) := by
    unfold meant declarations
    rw [List.flatMap_map, List.filter_flatMap, List.flatMap_assoc]
    refine List.flatMap_congr fun e _ => ?_
    exact List.flatMap_pure_eq_map _ _
  have hr : b.toList.map Prod.fst = b.toList.flatMap fun e => [e.1] :=
    (List.flatMap_pure_eq_map _ _).symm
  rw [hl, hr]
  exact List.Sublist.flatMap_right _ fun e _ => Declaring.accepted_ids_sublist q h e.1 e.2 admits

theorem Bundles.nodup_ids_meant (b : Bundles τ) {q : Query} (h : q.name.segments ≠ [])
    (admits : QualifiedName → Bool) : ((b.meant q admits).flatMap (·.imports)).Nodup :=
  b.nodup_ids.sublist (b.ids_meant_sublist h admits)

/-- Matches that name a package each differ, if all these packages do. -/
theorem nodup_of_nodup_imports {α : Type} {l : List (Alternative α)}
    (ht : ∀ a ∈ l, ∃ id, a.imports = [id]) (hn : (l.flatMap (·.imports)).Nodup) : l.Nodup := by
  obtain ⟨-, hd⟩ := List.nodup_flatMap.1 hn
  refine hd.imp_of_mem fun {a a'} ha _ hd he => ?_
  obtain ⟨id, hid⟩ := ht a ha
  have hd : List.Disjoint a.imports a'.imports := hd
  rw [← he, hid] at hd
  exact hd List.mem_cons_self List.mem_cons_self

/-! ## The look-up -/

theorem Alternative.flatMap_imports_map {α β : Type} (f : α → β) (l : List (Alternative α)) :
    (l.map (·.map f)).flatMap (·.imports) = l.flatMap (·.imports) := by
  rw [List.flatMap_map]
  rfl

omit [Searchable τ] [Declaring.Lawful τ] in
/-- Matches of one pass each come from a declaration that is meant. -/
theorem Bundles.declaration_of_mem {α : Type} {b : Bundles τ} {q : Query}
    {admits : QualifiedName → Bool} {wrap : α → Candidate} {l : List (Alternative α)}
    (hl : l.map (·.map wrap) = b.meant q admits) :
    ∀ a ∈ l, ∃ d ∈ b.declarations q.kind, q.name.segments <:+ d.full.segments ∧
      a.imports = [d.id] := by
  intro a ha
  have hm : a.map wrap ∈ l.map (·.map wrap) := List.mem_map_of_mem ha
  rw [hl] at hm
  obtain ⟨d, hd, -, hs, he⟩ := Bundles.mem_meant.1 hm
  exact ⟨d, hd, hs, congrArg Alternative.imports he⟩

/-- Matches of one pass are tagged with a package each, and no two with the same. -/
theorem Bundles.tagged_once {α : Type} {b : Bundles τ} {q : Query} (h : q.name.segments ≠ [])
    {admits : QualifiedName → Bool} {wrap : α → Candidate} {l : List (Alternative α)}
    (hl : l.map (·.map wrap) = b.meant q admits) :
    (∀ a ∈ l, ∃ id, a.imports = [id]) ∧ (l.flatMap (·.imports)).Nodup ∧ l.Nodup := by
  have htagged : ∀ a ∈ l, ∃ id, a.imports = [id] := by
    intro a ha
    obtain ⟨d, -, -, hd⟩ := Bundles.declaration_of_mem hl a ha
    exact ⟨d.id, hd⟩
  have honce : (l.flatMap (·.imports)).Nodup := by
    rw [← Alternative.flatMap_imports_map wrap, hl]
    exact b.nodup_ids_meant h admits
  exact ⟨htagged, honce, nodup_of_nodup_imports htagged honce⟩

/-- A look-up that shows the imported matches, or else all matches. -/
theorem Lookup.exact_of_map {α : Type} {b : Bundles τ} {imports : ImportSet} {q : Query}
    (h : q.name.segments ≠ []) {wrap : α → Candidate} {l : Lookup α}
    (ha : l.alternatives.map (·.map wrap) = (b.lookup imports q).alternatives)
    (hc : l.candidates.map (·.map wrap) = (b.lookup imports q).candidates) :
    l.Exact b imports q wrap := by
  have hA : l.alternatives.map (·.map wrap) =
      b.meant q fun package => decide (package ∈ imports) := by
    rw [ha, Bundles.alternatives_lookup, b.search_eq_meant h]
  have hC : l.candidates.map (·.map wrap) =
      if l.alternatives = [] then b.meant q fun _ => true else [] := by
    have he : (b.lookup imports q).alternatives = [] ↔ l.alternatives = [] := by
      rw [← ha, List.map_eq_nil_iff]
    simp only [hc, Bundles.candidates_lookup, b.search_eq_meant h, he]
  obtain ⟨htaggedA, honceA, hnodupA⟩ := Bundles.tagged_once h hA
  by_cases hnil : l.alternatives = []
  · have hall : l.candidates.map (·.map wrap) = b.meant q fun _ => true := by
      rw [hC, if_pos hnil]
    obtain ⟨htaggedC, honceC, hnodupC⟩ := Bundles.tagged_once h hall
    refine ⟨hA, hC, ?_, List.forall_mem_append.2 ⟨htaggedA, htaggedC⟩, ⟨honceA, honceC⟩,
      ⟨hnodupA, hnodupC⟩, .inl hnil⟩
    intro a hmem id hid himp
    -- an imported declaration that is meant would be an alternative
    obtain ⟨d, hd, hs, htag⟩ := Bundles.declaration_of_mem hall a hmem
    rw [htag, List.mem_singleton] at hid
    rw [hid] at himp
    have hm : d.alternative ∈ b.meant q fun package => decide (package ∈ imports) :=
      Bundles.mem_meant.2 ⟨d, hd, decide_eq_true himp, hs, rfl⟩
    rw [← hA, hnil] at hm
    cases hm
  · have hnone : l.candidates = [] := by
      rw [if_neg hnil] at hC
      exact List.map_eq_nil_iff.1 hC
    refine ⟨hA, hC, ?_, ?_, ⟨honceA, ?_⟩, ⟨hnodupA, ?_⟩, .inr hnone⟩
    · simp [hnone]
    · simpa [hnone] using htaggedA
    · simp [hnone]
    · simp [hnone]

theorem Bundles.lookup_exact (b : Bundles τ) (imports : ImportSet) {q : Query}
    (h : q.name.segments ≠ []) : (b.lookup imports q).Exact b imports q id :=
  Lookup.exact_of_map h (List.map_id _) (List.map_id _)

/-- Taking matches out of candidates and wrapping them again loses none of them. -/
theorem Alternative.map_filterMap {α β : Type} {f : α → Option β} {wrap : β → α}
    {l : List (Alternative α)} (h : ∀ a ∈ l, (f a.value).map wrap = some a.value) :
    (l.filterMap (Alternative.filterMap f)).map (·.map wrap) = l := by
  induction l with
  | nil => rfl
  | cons a l ih =>
    have ht := ih fun a' ha' => h a' (List.mem_cons_of_mem _ ha')
    obtain ⟨m, hm, hw⟩ := Option.map_eq_some_iff.1 (h a List.mem_cons_self)
    have hf : Alternative.filterMap f a = some ⟨m, a.imports⟩ := by
      simp [Alternative.filterMap, hm]
    rw [List.filterMap_cons_some hf, List.map_cons, ht]
    simp [Alternative.map, hw]

omit [Declaring τ] [Declaring.Lawful τ] in
theorem Bundles.mem_search {b : Bundles τ} {q : Query} {admits : QualifiedName → Bool}
    {a : Alternative Candidate} :
    a ∈ b.search q admits ↔ ∃ id table, (id, table) ∈ b.toList ∧ admits id.package = true ∧
      ∃ c ∈ Searchable.candidates id.package q table, a = ⟨c, [id]⟩ := by
  unfold search
  rw [List.mem_flatMap]
  constructor
  · rintro ⟨⟨id, table⟩, he, ha⟩
    simp only at ha
    split at ha
    · rename_i hadmits
      obtain ⟨c, hc, rfl⟩ := List.mem_map.1 ha
      exact ⟨id, table, he, hadmits, c, hc, rfl⟩
    · cases ha
  · rintro ⟨id, table, he, hadmits, c, hc, rfl⟩
    refine ⟨(id, table), he, ?_⟩
    simp only [if_pos hadmits]
    exact List.mem_map.2 ⟨c, hc, rfl⟩

/-- A typed look-up whose type fits the query. -/
theorem Bundles.filterMap_lookup_exact {α : Type} (b : Bundles τ) (imports : ImportSet)
    {q : Query} (h : q.name.segments ≠ []) {f : Candidate → Option α} {wrap : α → Candidate}
    (hf : ∀ package (table : τ), ∀ c ∈ Searchable.candidates package q table,
      (f c).map wrap = some c) :
    ((b.lookup imports q).filterMap f).Exact b imports q wrap := by
  have hsearch : ∀ admits, ∀ a ∈ b.search q admits, (f a.value).map wrap = some a.value := by
    intro admits a ha
    obtain ⟨id, table, -, -, c, hc, rfl⟩ := mem_search.1 ha
    exact hf id.package table c hc
  refine Lookup.exact_of_map h ?_ ?_
  · rw [Lookup.alternatives_filterMap]
    refine Alternative.map_filterMap fun a ha => ?_
    rw [alternatives_lookup] at ha
    exact hsearch _ a ha
  · rw [Lookup.candidates_filterMap]
    refine Alternative.map_filterMap fun a ha => ?_
    rw [candidates_lookup] at ha
    split at ha
    · exact hsearch _ a ha
    · cases ha

end

theorem PackageIndex.func_of_mem_candidates (n package : QualifiedName) (index : PackageIndex) :
    ∀ c ∈ index.candidates package ⟨.func, n⟩, c.func?.map .func = some c := by
  intro c hc
  obtain ⟨e, -, rfl⟩ := List.mem_map.1 hc
  rfl

theorem PackageIndex.struct_of_mem_candidates (n package : QualifiedName)
    (index : PackageIndex) :
    ∀ c ∈ index.candidates package ⟨.struct, n⟩, c.struct?.map .struct = some c := by
  intro c hc
  obtain ⟨e, -, rfl⟩ := List.mem_map.1 hc
  rfl

theorem TypeNames.type_of_mem_candidates (n package : QualifiedName) (names : TypeNames) :
    ∀ c ∈ names.candidates package ⟨.type, n⟩, c.type?.map .type = some c := by
  intro c hc
  rw [candidates_eq_select package ⟨.type, n⟩ names rfl] at hc
  obtain ⟨e, -, rfl⟩ := List.mem_map.1 hc
  rfl

/-- **The search is its specification.** Whatever is looked up in either kind of table, the
imported declarations that a name means are found, or else all of them, and the typed look-ups
show the same matches. -/
theorem search_finds_exactly_what_is_meant (imports : ImportSet) (name : QualifiedName)
    (h : name.segments ≠ []) :
    (∀ r : Registry,
      (∀ kind, (r.lookup imports ⟨kind, name⟩).Exact r imports ⟨kind, name⟩ id) ∧
      (r.lookupFunc imports name).Exact r imports ⟨.func, name⟩ .func ∧
      (r.lookupStruct imports name).Exact r imports ⟨.struct, name⟩ .struct) ∧
    (∀ types : TypeIndex,
      (∀ kind, (types.lookup imports ⟨kind, name⟩).Exact types imports ⟨kind, name⟩ id) ∧
      (types.lookupType imports name).Exact types imports ⟨.type, name⟩ .type) := by
  refine ⟨fun r => ⟨fun kind => r.lookup_exact imports h, ?_, ?_⟩,
    fun types => ⟨fun kind => types.lookup_exact imports h, ?_⟩⟩
  · exact r.filterMap_lookup_exact imports h (PackageIndex.func_of_mem_candidates name)
  · exact r.filterMap_lookup_exact imports h (PackageIndex.struct_of_mem_candidates name)
  · exact types.filterMap_lookup_exact imports h (TypeNames.type_of_mem_candidates name)

/-- The package `util` of a bundle, with one struct. -/
def utilOf (bundle struct : String) : PackageId × PackageIndex :=
  (⟨⟨bundle⟩, ⟨["util"]⟩⟩,
    ⟨⟨["util"]⟩, OrderedMap.empty.insert struct ⟨⟨⟨⟨0⟩, {}⟩, none⟩, .empty⟩, .empty⟩)

/-- Three bundles with a package of one name; two of them declare the same struct in it. -/
def threeUtils : Registry :=
  [utilOf "core" "Grid", utilOf "mods" "Point", utilOf "game" "Point"].foldl
    (fun r e => r.insert e.1 e.2) .empty

theorem search_finds_exactly_two_points :
    (⟨["Point"]⟩ : QualifiedName).segments ≠ [] ∧
    (threeUtils.lookupStruct (.ofList [⟨["util"]⟩]) ⟨["Point"]⟩).Exact threeUtils
      (.ofList [⟨["util"]⟩]) ⟨.struct, ⟨["Point"]⟩⟩ .struct ∧
    (threeUtils.lookupStruct (.ofList [⟨["util"]⟩]) ⟨["Point"]⟩).alternatives.map (·.imports) =
      [[⟨⟨"mods"⟩, ⟨["util"]⟩⟩], [⟨⟨"game"⟩, ⟨["util"]⟩⟩]] :=
  have h : (⟨["Point"]⟩ : QualifiedName).segments ≠ [] := by decide
  ⟨h, ((search_finds_exactly_what_is_meant (.ofList [⟨["util"]⟩]) ⟨["Point"]⟩ h).1
    threeUtils).2.2, by decide⟩

end NameScope
