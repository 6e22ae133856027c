import NameScope.Proofs.Lookup.Keyed

/-!
# More imports, more segments

Two look-ups are compared that differ in one thing. If more packages are imported, a name finds all
that it found, in order, and what it finds for the first time was suggested before; this holds
across the change from the first pass to the second. If a name is written with more leading
segments, it means less; the shorter name must have a segment, as every name that is read has,
because both kinds of table go by the last one.

The search alone is compared first. It lets packages in one by one (`Searches.Widening`), and both
kinds of table find what is meant (`search_eq_meant`), which is less for a longer name. The look-up
reads no more of a search than its two results (`Lookup.ofSearch`).

* one search: `Bundles.widening_search`, `Bundles.search_longer`;
* one look-up: `Lookup.grows_ofSearch`, `Lookup.narrows_ofSearch`.

**Results.** * `lookups_grow_with_imports_and_narrow_with_segments`: for either table, every kind of
query and the typed look-ups.
-/
namespace NameScope

/-! ## Two look-ups compared -/

/-- What a look-up shows (`l'`) once more packages are imported. -/
structure Lookup.Grows (l l' : Lookup α) : Prop where
  /-- What was found is found again, in the same order. -/
  alternatives : l.alternatives.Sublist l'.alternatives
  /-- What is found for the first time was suggested. -/
  opened : l.alternatives = [] → l'.alternatives.Sublist l.candidates
  /-- A name that was resolved does not lose its match, though it may get others. -/
  resolved : l.isResolved = true → l'.isResolved = true ∨ l'.isAmbiguous = true

/-- What the look-ups of a longer and of a shorter name show, where `everywhere` is all that the
shorter one means, whatever is imported. -/
structure Lookup.Narrows (everywhere : List (Alternative α)) (longer shorter : Lookup α) :
    Prop where
  alternatives : longer.alternatives.Sublist shorter.alternatives
  imported : longer.alternatives.Sublist everywhere
  suggested : longer.candidates.Sublist everywhere

/-- What a query finds whatever is imported, of the matches on which `f` is defined. -/
def Bundles.everywhere [Searchable τ] (b : Bundles τ) (q : Query) (f : Candidate → Option α) :
    List (Alternative α) :=
  (b.search q fun _ => true).filterMap (Alternative.filterMap f)

/-! ## Searches and the look-ups made of them -/

/-- Where more packages are let in, the search finds more. -/
def Widening (search : (QualifiedName → Bool) → List (Alternative α)) : Prop :=
  ∀ ⦃admits admits' : QualifiedName → Bool⦄, (∀ p, admits p = true → admits' p = true) →
    (search admits).Sublist (search admits')

theorem Widening.filterMap {search : (QualifiedName → Bool) → List (Alternative α)}
    (h : Widening search) (f : α → Option β) :
    Widening fun admits => (search admits).filterMap (Alternative.filterMap f) :=
  fun _ _ hadmits => (h hadmits).filterMap _

namespace Lookup

variable {search search' : (QualifiedName → Bool) → List (Alternative α)}
  {imports imports' : ImportSet}

theorem isResolved_or_isAmbiguous_iff (l : Lookup α) :
    l.isResolved = true ∨ l.isAmbiguous = true ↔ l.alternatives ≠ [] := by
  unfold isResolved isAmbiguous
  rcases l.alternatives with _ | ⟨a, _ | ⟨b, as⟩⟩ <;> simp

/-- Picking matches of one type loses none of them where all are of that type; so the first pass
ends the search as before. -/
theorem filterMap_ofSearch {f : α → Option β}
    (hf : ∀ admits, ∀ a ∈ search admits, ∃ b, f a.value = some b) (imports : ImportSet) :
    (ofSearch search imports).filterMap f =
      ofSearch (fun admits => (search admits).filterMap (Alternative.filterMap f)) imports := by
  unfold ofSearch
  cases hs : search fun package => decide (package ∈ imports) with
  | nil => simp only [hs, Lookup.filterMap, List.filterMap_nil]
  | cons a as =>
    obtain ⟨b, hb⟩ := hf _ a (hs ▸ List.mem_cons_self)
    have hpick : Alternative.filterMap f a = some ⟨b, a.imports⟩ := by
      simp [Alternative.filterMap, hb]
    simp only [hs, Lookup.filterMap, List.filterMap_cons_some hpick]

theorem grows_ofSearch (hsearch : Widening search) (h : ∀ p, p ∈ imports → p ∈ imports') :
    (ofSearch search imports).Grows (ofSearch search imports') := by
  have halternatives :
      (ofSearch search imports).alternatives.Sublist (ofSearch search imports').alternatives := by
    rw [alternatives_ofSearch, alternatives_ofSearch]
    exact hsearch fun p hp => decide_eq_true (h p (of_decide_eq_true hp))
  refine ⟨halternatives, fun hnone => ?_, fun hresolved => ?_⟩
  · -- the second pass is the widest search of all
    rw [candidates_ofSearch, if_pos hnone, alternatives_ofSearch]
    exact hsearch fun _ _ => rfl
  · rw [isResolved_or_isAmbiguous_iff]
    have hsome := (isResolved_or_isAmbiguous_iff _).1 (.inl hresolved)
    intro hnil
    rw [hnil, List.sublist_nil] at halternatives
    exact hsome halternatives

/-- A search that finds less under all imports makes a look-up that shows less. -/
theorem narrows_ofSearch (hsearch' : Widening search')
    (h : ∀ admits, (search admits).Sublist (search' admits)) (imports : ImportSet) :
    Narrows (search' fun _ => true) (ofSearch search imports) (ofSearch search' imports) := by
  have halternatives :
      (ofSearch search imports).alternatives.Sublist (ofSearch search' imports).alternatives := by
    rw [alternatives_ofSearch, alternatives_ofSearch]
    exact h _
  refine ⟨halternatives, halternatives.trans ?_, ?_⟩
  · rw [alternatives_ofSearch]
    exact hsearch' fun _ _ => rfl
  · rw [candidates_ofSearch]
    split
    · exact h _
    · exact List.nil_sublist _

end Lookup

/-! ## Tables -/

namespace Bundles

section

variable {τ α : Type} [Searchable τ] {f : Candidate → Option α} {wrap : α → Candidate}

theorem widening_search (b : Bundles τ) (q : Query) : Widening (b.search q) := by
  intro admits admits' h
  refine List.Sublist.flatMap_right _ fun (id, table) _ => ?_
  simp only
  by_cases ha : admits id.package = true
  · rw [if_pos ha, if_pos (h _ ha)]
  · rw [if_neg ha]
    exact List.nil_sublist _

theorem lookup_eq_ofSearch (b : Bundles τ) (imports : ImportSet) (q : Query) :
    b.lookup imports q = .ofSearch (b.search q) imports := by
  unfold lookup Lookup.ofSearch
  cases b.search q fun package => decide (package ∈ imports) <;> rfl

/-- A typed look-up whose type fits the query is made of a typed search. -/
theorem filterMap_lookup (b : Bundles τ) (imports : ImportSet) {q : Query}
    (hf : ∀ package (table : τ), ∀ c ∈ Searchable.candidates package q table,
      (f c).map wrap = some c) :
    (b.lookup imports q).filterMap f = .ofSearch
      (fun admits => (b.search q admits).filterMap (Alternative.filterMap f)) imports := by
  rw [lookup_eq_ofSearch]
  refine Lookup.filterMap_ofSearch (fun admits a ha => ?_) imports
  obtain ⟨id, table, -, -, c, hc, rfl⟩ := mem_search.1 ha
  obtain ⟨m, hm, -⟩ := Option.map_eq_some_iff.1 (hf id.package table c hc)
  exact ⟨m, hm⟩

theorem lookup_grows (b : Bundles τ) (q : Query) {imports imports' : ImportSet}
    (h : ∀ p, p ∈ imports → p ∈ imports') :
    (b.lookup imports q).Grows (b.lookup imports' q) := by
  rw [lookup_eq_ofSearch, lookup_eq_ofSearch]
  exact Lookup.grows_ofSearch (b.widening_search q) h

theorem filterMap_lookup_grows (b : Bundles τ) {q : Query}
    (hf : ∀ package (table : τ), ∀ c ∈ Searchable.candidates package q table,
      (f c).map wrap = some c)
    {imports imports' : ImportSet} (h : ∀ p, p ∈ imports → p ∈ imports') :
    ((b.lookup imports q).filterMap f).Grows ((b.lookup imports' q).filterMap f) := by
  rw [b.filterMap_lookup imports hf, b.filterMap_lookup imports' hf]
  exact Lookup.grows_ofSearch ((b.widening_search q).filterMap f) h

end

section

variable {τ α : Type} [Searchable τ] [Declaring τ] [Declaring.Lawful τ] {f : Candidate → Option α}
  {wrap : α → Candidate} {kind : QueryKind} {name longer : QualifiedName}

/-- What a longer name means, the shorter one means too. -/
theorem search_longer (b : Bundles τ) (kind : QueryKind) (hname : name.segments ≠ [])
    (hlonger : name.segments <:+ longer.segments) (admits : QualifiedName → Bool) :
    (b.search ⟨kind, longer⟩ admits).Sublist (b.search ⟨kind, name⟩ admits) := by
  have hne : longer.segments ≠ [] := fun hnil => hname (List.suffix_nil.1 (hnil ▸ hlonger))
  rw [b.search_eq_meant (q := ⟨kind, longer⟩) hne, b.search_eq_meant (q := ⟨kind, name⟩) hname]
  refine (List.monotone_filter_right _ fun d hd => ?_).map _
  rw [Bool.and_eq_true, decide_eq_true_eq] at hd ⊢
  exact ⟨hd.1, hlonger.trans hd.2⟩

theorem lookup_narrows (b : Bundles τ) (kind : QueryKind) (hname : name.segments ≠ [])
    (hlonger : name.segments <:+ longer.segments) (imports : ImportSet) :
    Lookup.Narrows (b.everywhere ⟨kind, name⟩ some) (b.lookup imports ⟨kind, longer⟩)
      (b.lookup imports ⟨kind, name⟩) := by
  have hall : b.everywhere ⟨kind, name⟩ some = b.search ⟨kind, name⟩ fun _ => true :=
    List.filterMap_some
  rw [hall, lookup_eq_ofSearch, lookup_eq_ofSearch]
  exact Lookup.narrows_ofSearch (b.widening_search _) (b.search_longer kind hname hlonger) imports

theorem filterMap_lookup_narrows (b : Bundles τ)
    (hf : ∀ name package (table : τ), ∀ c ∈ Searchable.candidates package ⟨kind, name⟩ table,
      (f c).map wrap = some c)
    (hname : name.segments ≠ []) (hlonger : name.segments <:+ longer.segments)
    (imports : ImportSet) :
    Lookup.Narrows (b.everywhere ⟨kind, name⟩ f) ((b.lookup imports ⟨kind, longer⟩).filterMap f)
      ((b.lookup imports ⟨kind, name⟩).filterMap f) := by
  rw [b.filterMap_lookup imports (hf longer), b.filterMap_lookup imports (hf name)]
  exact Lookup.narrows_ofSearch ((b.widening_search _).filterMap f)
    (fun admits => (b.search_longer kind hname hlonger admits).filterMap _) imports

end

end Bundles

/-- The packages `util` and `geo` of one bundle, each with a struct `Point`. -/
def pointsOfTwoPackages : Registry :=
  let (util, index) := utilOf "core" "Point"
  (Bundles.empty.insert util index).insert { util with package := ⟨["geo"]⟩ }
    { index with package := ⟨["geo"]⟩ }

/-- **Look-ups grow with the imports and narrow with the segments that are written.** With more
imports a name finds what it found and maybe more, all of which was suggested if nothing was found
before. So an import may make a resolved name ambiguous, but it leaves none without a match. A
longer name that ends in the name finds some of what the name finds, under any imports, and no other
candidates. -/
theorem lookups_grow_with_imports_and_narrow_with_segments {imports imports' : ImportSet}
    (h : ∀ p, p ∈ imports → p ∈ imports') (name : QualifiedName) :
    ((∀ r : Registry,
        (∀ kind, (r.lookup imports ⟨kind, name⟩).Grows (r.lookup imports' ⟨kind, name⟩)) ∧
        (r.lookupFunc imports name).Grows (r.lookupFunc imports' name) ∧
        (r.lookupStruct imports name).Grows (r.lookupStruct imports' name)) ∧
      ∀ types : TypeIndex,
        (∀ kind, (types.lookup imports ⟨kind, name⟩).Grows (types.lookup imports' ⟨kind, name⟩)) ∧
        (types.lookupType imports name).Grows (types.lookupType imports' name)) ∧
    (∃ (r : Registry) (few : List QualifiedName) (one : QualifiedName) (n : QualifiedName),
      (r.lookupStruct (.ofList few) n).isResolved = true ∧
        (r.lookupStruct (.ofList (one :: few)) n).isAmbiguous = true) ∧
    ∀ longer : QualifiedName, name.segments ≠ [] → name.segments <:+ longer.segments →
      (∀ r : Registry,
        (∀ kind, Lookup.Narrows (r.everywhere ⟨kind, name⟩ some)
          (r.lookup imports ⟨kind, longer⟩) (r.lookup imports ⟨kind, name⟩)) ∧
        Lookup.Narrows (r.everywhere ⟨.func, name⟩ Candidate.func?)
          (r.lookupFunc imports longer) (r.lookupFunc imports name) ∧
        Lookup.Narrows (r.everywhere ⟨.struct, name⟩ Candidate.struct?)
          (r.lookupStruct imports longer) (r.lookupStruct imports name)) ∧
      ∀ types : TypeIndex,
        (∀ kind, Lookup.Narrows (types.everywhere ⟨kind, name⟩ some)
          (types.lookup imports ⟨kind, longer⟩) (types.lookup imports ⟨kind, name⟩)) ∧
        Lookup.Narrows (types.everywhere ⟨.type, name⟩ Candidate.type?)
          (types.lookupType imports longer) (types.lookupType imports name) := by
  have hfunc := PackageIndex.func_of_mem_candidates
  have hstruct := PackageIndex.struct_of_mem_candidates
  have htype := TypeNames.type_of_mem_candidates
  refine ⟨⟨fun r => ⟨fun kind => r.lookup_grows _ h, ?_, ?_⟩,
    fun types => ⟨fun kind => types.lookup_grows _ h, ?_⟩⟩, ?_, fun longer hname hlonger =>
    ⟨fun r => ⟨fun kind => r.lookup_narrows kind hname hlonger imports, ?_, ?_⟩,
      fun types => ⟨fun kind => types.lookup_narrows kind hname hlonger imports, ?_⟩⟩⟩
  · exact r.filterMap_lookup_grows (hfunc name) h
  · exact r.filterMap_lookup_grows (hstruct name) h
  · exact types.filterMap_lookup_grows (htype name) h
  · exact ⟨pointsOfTwoPackages, [⟨["util"]⟩], ⟨["geo"]⟩, ⟨["Point"]⟩, by decide, by decide⟩
  · exact r.filterMap_lookup_narrows hfunc hname hlonger imports
  · exact r.filterMap_lookup_narrows hstruct hname hlonger imports
  · exact types.filterMap_lookup_narrows htype hname hlonger imports

/-- `Point` is in both packages and `util::Point` in one. With `geo` imported too, the second keeps
its one match and the first gets another. -/
theorem point_gets_a_match_and_util_point_none :
    let few : ImportSet := .ofList [⟨["util"]⟩]
    let more : ImportSet := .ofList [⟨["geo"]⟩, ⟨["util"]⟩]
    let shown (l : Lookup StructMatch) := l.alternatives.map (·.value.package.segments)
    (∀ p, p ∈ few → p ∈ more) ∧ (⟨["Point"]⟩ : QualifiedName).segments ≠ [] ∧
    ["Point"] <:+ ["util", "Point"] ∧
    (pointsOfTwoPackages.lookupStruct few ⟨["Point"]⟩).Grows
      (pointsOfTwoPackages.lookupStruct more ⟨["Point"]⟩) ∧
    Lookup.Narrows (pointsOfTwoPackages.everywhere ⟨.struct, ⟨["Point"]⟩⟩ Candidate.struct?)
      (pointsOfTwoPackages.lookupStruct more ⟨["util", "Point"]⟩)
      (pointsOfTwoPackages.lookupStruct more ⟨["Point"]⟩) ∧
    shown (pointsOfTwoPackages.lookupStruct few ⟨["Point"]⟩) = [["util"]] ∧
    shown (pointsOfTwoPackages.lookupStruct more ⟨["Point"]⟩) = [["util"], ["geo"]] ∧
    shown (pointsOfTwoPackages.lookupStruct more ⟨["util", "Point"]⟩) = [["util"]] := by
  intro few more shown
  have himports : ∀ p, p ∈ few → p ∈ more := fun _ => List.mem_cons_of_mem _
  have hname : (⟨["Point"]⟩ : QualifiedName).segments ≠ [] := by decide
  have hlonger : ["Point"] <:+ ["util", "Point"] := by decide
  obtain ⟨⟨hgrows, -⟩, -⟩ :=
    lookups_grow_with_imports_and_narrow_with_segments himports ⟨["Point"]⟩
  obtain ⟨-, -, hlongers⟩ :=
    lookups_grow_with_imports_and_narrow_with_segments (fun _ (h : _ ∈ more) => h) ⟨["Point"]⟩
  obtain ⟨hnarrows, -⟩ := hlongers ⟨["util", "Point"]⟩ hname hlonger
  exact ⟨himports, hname, hlonger, (hgrows pointsOfTwoPackages).2.2,
    (hnarrows pointsOfTwoPackages).2.2, by decide, by decide, by decide⟩

end NameScope
