import Mathlib.Order.Lattice
import NameScope.Proofs.Linking.Chains

/-!
# Ranges under covering

Covering orders the ranges, and `combine` is the least upper bound in this order: ranges are a
semilattice. Nothing here needs the ends of a range to be in order, so the empty ranges and those
whose ends are exchanged are part of it; only what covering says of positions needs a range that
contains one.

A field access has the combined range of its value and its field name. So the range of a chain of
accesses is the combined range of its base and of all names after it, in whatever order these stand
in the text, and it grows along the chain.

* `Range.covers_combine_iff`, `Range.covers_iff_contains`: what is above two ranges, and covering
  in terms of positions;
* `Range.covers_combineAll_iff`, `Expr.range_chain`: any number of ranges, by induction.

**Results.** * `ranges_form_a_lattice_that_chains_respect`.
-/
namespace NameScope

namespace Range

theorem covers_combine_iff (a b c : Range) :
    c.covers (combine a b) = true ↔ c.covers a = true ∧ c.covers b = true := by
  simp only [covers_iff_rank, combine, Position.rank_min, Position.rank_max]
  omega

theorem combine_covers (a b : Range) :
    (combine a b).covers a = true ∧ (combine a b).covers b = true :=
  (covers_combine_iff a b _).1 (covers_refl _)

/-- A range is above those that it covers; what two ranges have above them is what their
combination has. -/
instance : SemilatticeSup Range where
  le a b := b.covers a = true
  le_refl a := a.covers_refl
  le_trans _ _ _ hab hbc := covers_trans hbc hab
  le_antisymm _ _ hab hba := covers_antisymm hba hab
  sup := combine
  le_sup_left a b := (combine_covers a b).1
  le_sup_right a b := (combine_covers a b).2
  sup_le a b c ha hb := (covers_combine_iff a b c).2 ⟨ha, hb⟩

/-- A range with a position in it is covered exactly if all its positions are contained. -/
theorem covers_iff_contains {b : Range} (h : b.start < b.stop) (a : Range) :
    a.covers b = true ↔ ∀ p, b.contains p = true → a.contains p = true := by
  rw [Position.lt_iff_rank] at h
  simp only [covers_iff_rank, contains_iff_rank]
  constructor
  · intro hcovers p hp
    omega
  · intro hcontains
    have hfirst := hcontains b.start (by omega)
    have hbound := b.stop.rank_lt
    -- the last position of `b`, on the line before if `b` stops where a line starts
    obtain ⟨last, hlast⟩ : ∃ p : Position, p.rank = b.stop.rank - 1 :=
      Position.exists_rank (by omega)
    have hstop := hcontains last (by omega)
    omega

/-! ## Any number of ranges -/

/-- A range combined with others, one after the other. -/
def combineAll (r : Range) (others : List Range) : Range := others.foldl combine r

theorem covers_combineAll_iff (r : Range) (others : List Range) (c : Range) :
    c.covers (r.combineAll others) = true ↔
      c.covers r = true ∧ ∀ o ∈ others, c.covers o = true := by
  induction others generalizing r with
  | nil => simp [combineAll]
  | cons o others ih =>
    rw [List.forall_mem_cons, ← and_assoc, ← covers_combine_iff]
    exact ih (combine r o)

end Range

/-! ## Chains of field accesses -/

theorem Expr.range_chain (base : Expr) (fields : List WrittenName) :
    (base.chain fields).range = base.range.combineAll (fields.map (·.range)) := by
  induction fields generalizing base with
  | nil => rfl
  | cons field fields ih => exact ih (.field base field)

theorem Expr.covers_range_chain_iff (base : Expr) (fields : List WrittenName) (c : Range) :
    c.covers (base.chain fields).range = true ↔
      c.covers base.range = true ∧ ∀ field ∈ fields, c.covers field.range = true := by
  rw [base.range_chain, Range.covers_combineAll_iff, List.forall_mem_map]

/-- **Ranges form a semilattice under covering, and chains respect it.** `combine a b` covers `a`
and `b` and is covered by whatever covers both; combining is commutative, associative and
idempotent; covering is a partial order. A range with a position in it is covered exactly if all its
positions are contained. The range of a chain of field accesses is the combination of the ranges of
its base and of all its field names: it is the smallest range that covers these, and it covers the
range of the chain after any number of accesses. -/
theorem ranges_form_a_lattice_that_chains_respect :
    (∀ a b : Range, (Range.combine a b).covers a = true ∧ (Range.combine a b).covers b = true ∧
      ∀ c : Range, c.covers a = true → c.covers b = true → c.covers (Range.combine a b) = true) ∧
    (∀ a b c : Range, Range.combine a b = Range.combine b a ∧
      Range.combine (Range.combine a b) c = Range.combine a (Range.combine b c) ∧
      Range.combine a a = a) ∧
    (∀ a b c : Range, a.covers a = true ∧
      (a.covers b = true → b.covers c = true → a.covers c = true) ∧
      (a.covers b = true → b.covers a = true → a = b)) ∧
    (∀ a b : Range, b.start < b.stop →
      (a.covers b = true ↔ ∀ p, b.contains p = true → a.contains p = true)) ∧
    ∀ (base : Expr) (fields : List WrittenName),
      let whole := (base.chain fields).range
      whole = base.range.combineAll (fields.map (·.range)) ∧
      whole.covers base.range = true ∧ (∀ field ∈ fields, whole.covers field.range = true) ∧
      (∀ c : Range, c.covers base.range = true → (∀ field ∈ fields, c.covers field.range = true) →
        c.covers whole = true) ∧
      ∀ before after, fields = before ++ after →
        whole.covers (base.chain before).range = true := by
  refine ⟨fun a b => ⟨(Range.combine_covers a b).1, (Range.combine_covers a b).2, fun c ha hb => ?_⟩,
    fun a b c => ⟨sup_comm a b, sup_assoc a b c, sup_idem a⟩,
    fun a b c => ⟨a.covers_refl, Range.covers_trans, Range.covers_antisymm⟩,
    fun a b h => Range.covers_iff_contains h a, fun base fields => ?_⟩
  · exact (Range.covers_combine_iff a b c).2 ⟨ha, hb⟩
  · intro whole
    obtain ⟨hbase, hfields⟩ := (base.covers_range_chain_iff fields whole).1 whole.covers_refl
    refine ⟨base.range_chain fields, hbase, hfields, fun c hc hcs => ?_, ?_⟩
    · exact (base.covers_range_chain_iff fields c).2 ⟨hc, hcs⟩
    · rintro before after rfl
      exact (base.covers_range_chain_iff before whole).2
        ⟨hbase, fun field hfield => hfields field (List.mem_append_left after hfield)⟩

/-- The rest of a line with its line break is not covered by a range that stops at a character of
that line, however large. And `p.a.b` on three lines, where the ends of the last name are
exchanged. -/
theorem chain_over_lines_covers_its_parts :
    let box : Range := ⟨⟨0, 4⟩, ⟨1, 0⟩⟩
    let p : Expr := .identifier { name := { name := ⟨["p"]⟩, range := ⟨⟨2, 0⟩, ⟨2, 1⟩⟩ } }
    let a : WrittenName := { name := ⟨["a"]⟩, range := ⟨⟨1, 3⟩, ⟨1, 9⟩⟩ }
    let b : WrittenName := { name := ⟨["b"]⟩, range := ⟨⟨3, 2⟩, ⟨0, 7⟩⟩ }
    box.start < box.stop ∧
      (Range.covers ⟨⟨0, 2⟩, ⟨0, 90⟩⟩ box = true ↔
        ∀ q, box.contains q = true → Range.contains ⟨⟨0, 2⟩, ⟨0, 90⟩⟩ q = true) ∧
      ¬ Range.covers ⟨⟨0, 2⟩, ⟨0, 90⟩⟩ box = true ∧
      (p.chain [a, b]).range = ⟨⟨1, 3⟩, ⟨2, 1⟩⟩ ∧
      (p.chain [a, b]).range.covers (p.chain [a]).range = true := by
  intro box p a b
  obtain ⟨-, -, -, hcontains, hchain⟩ := ranges_form_a_lattice_that_chains_respect
  have hbox : box.start < box.stop := by decide
  exact ⟨hbox, hcontains _ box hbox, by decide, by decide,
    (hchain p [a, b]).2.2.2.2 [a] [b] rfl⟩

end NameScope
