import NameScope.Proofs.Editor.Agreement

/-!
# The innermost reference at a position

References may overlap in any way, and covering orders their ranges only in part. The search at a
position goes through the references once and keeps one of them, which it gives up for each later
one that it covers. What was passed over on the way cannot lie inside what is kept in the end: the
kept ranges shrink, so that a range inside the last one was inside the one that passed over it.

* `Reference.foldl_inner_minimal`, `Reference.foldl_inner_last`: the search through a list.

**Results.** * `innermost_reference_is_found`: there is an answer wherever a reference is, no range
at the position lies inside it, and it is the last reference of its range.
-/
namespace NameScope

namespace Reference

/-- What the search keeps shrinks. -/
theorem covers_inner (best next : Reference) : best.range.covers (inner best next).range = true := by
  unfold inner
  split
  · assumption
  · exact best.range.covers_refl

theorem covers_foldl_inner (best : Reference) (others : List Reference) :
    best.range.covers (others.foldl inner best).range = true := by
  induction others generalizing best with
  | nil => exact best.range.covers_refl
  | cons next others ih => exact Range.covers_trans (covers_inner best next) (ih (inner best next))

/-- No reference of the list lies inside the one that is kept in the end. -/
theorem foldl_inner_minimal (best : Reference) (others : List Reference) :
    ∀ r ∈ best :: others, (others.foldl inner best).range.covers r.range = true →
      r.range = (others.foldl inner best).range := by
  induction others generalizing best with
  | nil =>
    intro r hr _
    rw [List.mem_singleton.1 hr, List.foldl_nil]
  | cons next others ih =>
    intro r hr hcovers
    rw [List.foldl_cons] at hcovers ⊢
    rcases List.mem_cons.1 hr with rfl | hr
    · exact Range.covers_antisymm (covers_foldl_inner r (next :: others)) hcovers
    rcases List.mem_cons.1 hr with rfl | hr
    · by_cases hnext : best.range.covers r.range = true
      · have hinner : inner best r = r := if_pos hnext
        rw [hinner] at hcovers ⊢
        exact ih r r List.mem_cons_self hcovers
      · -- the reference that passed `r` over covers all that is kept after it
        exact absurd (Range.covers_trans (covers_foldl_inner best (r :: others)) hcovers) hnext
    · exact ih (inner best next) r (List.mem_cons_of_mem _ hr) hcovers

/-- The one that is kept in the end is the last of its range. -/
theorem foldl_inner_last (best : Reference) (others : List Reference) :
    ∃ before after, best :: others = before ++ others.foldl inner best :: after ∧
      ∀ r ∈ after, r.range ≠ (others.foldl inner best).range := by
  induction others generalizing best with
  | nil => exact ⟨[], [], rfl, fun r hr => absurd hr List.not_mem_nil⟩
  | cons next others ih =>
    rw [List.foldl_cons]
    obtain ⟨before, after, hsplit, hafter⟩ := ih (inner best next)
    by_cases hnext : best.range.covers next.range = true
    · have hinner : inner best next = next := if_pos hnext
      rw [hinner] at hsplit hafter ⊢
      exact ⟨best :: before, after, congrArg (best :: ·) hsplit, hafter⟩
    · have hinner : inner best next = best := if_neg hnext
      rw [hinner] at hsplit hafter ⊢
      cases before with
      | nil =>
        obtain ⟨hbest, rfl⟩ := List.cons_eq_cons.1 hsplit
        refine ⟨[], next :: others, by rw [← hbest]; rfl, fun r hr => ?_⟩
        rcases List.mem_cons.1 hr with rfl | hr
        · intro he
          rw [he, ← hbest] at hnext
          exact hnext best.range.covers_refl
        · exact hafter r hr
      | cons first before =>
        obtain ⟨rfl, hothers⟩ := List.cons_eq_cons.1 hsplit
        refine ⟨best :: next :: before, after, ?_, hafter⟩
        exact congrArg (best :: next :: ·) hothers

/-- `r` is an innermost one of the references at a position. -/
structure Innermost (references : List Reference) (position : Position) (r : Reference) :
    Prop where
  contains : r.range.contains position = true
  /-- Nothing at the position lies inside it. -/
  minimal : ∀ r' ∈ references, r'.range.contains position = true →
    r.range.covers r'.range = true → r'.range = r.range
  /-- None of the references after it has its range. -/
  last : ∃ before after, references = before ++ r :: after ∧ ∀ r' ∈ after, r'.range ≠ r.range

theorem innermost_of_some {references : List Reference} {position : Position} {r : Reference}
    (h : innermost references position = some r) : Innermost references position r := by
  unfold innermost at h
  split at h
  · cases h
  · rename_i best others hhere
    cases h
    have hmem : ∀ r, r ∈ best :: others ↔ r ∈ references ∧ r.range.contains position = true := by
      intro r
      rw [← hhere, List.mem_filter]
    obtain ⟨-, hcontains⟩ := (hmem _).1 (foldl_inner_mem best others)
    refine ⟨hcontains, fun r' hr' hp => ?_, ?_⟩
    · exact foldl_inner_minimal best others r' ((hmem r').2 ⟨hr', hp⟩)
    · obtain ⟨before, after, hsplit, hafter⟩ := foldl_inner_last best others
      obtain ⟨front, back, hall, -, hback⟩ := List.filter_eq_append_iff.1 (hhere.trans hsplit)
      obtain ⟨skipped, rest, hback, -, -, hrest⟩ := List.filter_eq_cons_iff.1 hback
      refine ⟨front ++ skipped, rest, by rw [hall, hback, List.append_assoc], fun r' hr' he => ?_⟩
      -- a later reference of the same range contains the position as well
      have hin : r' ∈ after := hrest ▸ List.mem_filter.2 ⟨hr', he ▸ hcontains⟩
      exact hafter r' hin he

theorem innermost_eq_none_iff {references : List Reference} {position : Position} :
    innermost references position = none ↔
      ∀ r ∈ references, ¬ r.range.contains position = true := by
  rw [← List.filter_eq_nil_iff]
  unfold innermost
  split
  · rename_i hnil
    exact iff_of_true rfl hnil
  · rename_i hcons
    rw [hcons]
    exact iff_of_false (Option.some_ne_none _) (List.cons_ne_nil _ _)

/-- Of ranges that lie one inside the other, the innermost lies inside all. -/
theorem Innermost.covered {references : List Reference} {position : Position} {r : Reference}
    (h : Innermost references position r) {r' : Reference} (hr' : r' ∈ references)
    (hp : r'.range.contains position = true)
    (hnested : r.range.covers r'.range = true ∨ r'.range.covers r.range = true) :
    r'.range.covers r.range = true := by
  rcases hnested with hinside | hcovers
  · rw [h.minimal r' hr' hp hinside]
    exact r.range.covers_refl
  · exact hcovers

end Reference

/-- **The innermost reference is found**, however the references of a script overlap. There is an
answer at the positions of the references and nowhere else. It contains the position, no other
range at the position lies inside it, and of the references of its range it is the last. If of any
two references at the position one lies inside the other, it lies inside all of them. -/
theorem innermost_reference_is_found (script : Script) (position : Position) :
    ((∃ r, script.referenceAt position = some r) ↔
      ∃ r ∈ script.references, r.range.contains position = true) ∧
    ∀ r, script.referenceAt position = some r →
      Reference.Innermost script.references position r ∧
      ((∀ a ∈ script.references, ∀ b ∈ script.references, a.range.contains position = true →
          b.range.contains position = true →
          a.range.covers b.range = true ∨ b.range.covers a.range = true) →
        ∀ r' ∈ script.references, r'.range.contains position = true →
          r'.range.covers r.range = true) := by
  constructor
  · rw [← Option.ne_none_iff_exists', Ne, Script.referenceAt, Reference.innermost_eq_none_iff]
    simp only [not_forall, not_not, exists_prop]
  · intro r hr
    have hinnermost := Reference.innermost_of_some hr
    refine ⟨hinnermost, fun hnested r' hr' hp => ?_⟩
    exact hinnermost.covered hr' hp
      (hnested r (Reference.mem_of_innermost hr) r' hr' hinnermost.contains hp)

/-- `struct Box { a: A, b: B, c: C, d: D }`, with its types at ranges that no parser would give
them. -/
def overlappingBox : Script :=
  { file := ⟨0⟩
    package := ⟨["geo"]⟩
    structs := [{
      name := { text := "Box" }
      fields := [
        { name := { text := "a" }, type := .named { name := ⟨["A"]⟩, range := ⟨⟨0, 0⟩, ⟨0, 10⟩⟩ } },
        { name := { text := "b" }, type := .named { name := ⟨["B"]⟩, range := ⟨⟨0, 8⟩, ⟨0, 14⟩⟩ } },
        { name := { text := "c" }, type := .named { name := ⟨["C"]⟩, range := ⟨⟨0, 2⟩, ⟨0, 6⟩⟩ } },
        { name := { text := "d" }
          type := .named { name := ⟨["D"]⟩, range := ⟨⟨0, 2⟩, ⟨0, 6⟩⟩ } }] }] }

/-- Of `A` and `B`, which overlap, the first is found; of `C` and `D` inside `A`, the last. -/
theorem innermost_references_of_overlapping_box :
    (∃ a, overlappingBox.referenceAt ⟨0, 9⟩ = some a ∧ a.range = ⟨⟨0, 0⟩, ⟨0, 10⟩⟩ ∧
      Reference.Innermost overlappingBox.references ⟨0, 9⟩ a) ∧
    ∃ d, overlappingBox.referenceAt ⟨0, 3⟩ = some d ∧
      d = .typeRef (.named { name := ⟨["D"]⟩, range := ⟨⟨0, 2⟩, ⟨0, 6⟩⟩ }) ∧
      Reference.Innermost overlappingBox.references ⟨0, 3⟩ d ∧
      ∀ r ∈ overlappingBox.references, r.range.contains ⟨0, 3⟩ = true →
        r.range.covers d.range = true := by
  constructor
  · obtain ⟨hsome, hfound⟩ := innermost_reference_is_found overlappingBox ⟨0, 9⟩
    obtain ⟨a, ha⟩ := hsome.2 (by decide)
    have hrange : (overlappingBox.referenceAt ⟨0, 9⟩).map (·.range) =
        some ⟨⟨0, 0⟩, ⟨0, 10⟩⟩ := by decide
    rw [ha] at hrange
    exact ⟨a, ha, Option.some.inj hrange, (hfound a ha).1⟩
  · obtain ⟨-, hfound⟩ := innermost_reference_is_found overlappingBox ⟨0, 3⟩
    have hd : overlappingBox.referenceAt ⟨0, 3⟩ =
        some (.typeRef (.named { name := ⟨["D"]⟩, range := ⟨⟨0, 2⟩, ⟨0, 6⟩⟩ })) := by decide
    obtain ⟨hinnermost, hcovered⟩ := hfound _ hd
    exact ⟨_, hd, rfl, hinnermost, hcovered (by decide)⟩

end NameScope
