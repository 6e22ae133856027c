import NameScope.Lookup.Basic
import NameScope.Lookup.Candidate

/-!
# Search in two passes

The first pass asks the imported packages. Only if it finds nothing does a second pass ask all of
them, and what that finds serves for suggestions alone.
-/
namespace NameScope.Bundles

variable {τ : Type u} [Searchable τ]

/-- What a query finds in the packages that are let in, package by package. -/
def search (b : Bundles τ) (q : Query) (admits : QualifiedName → Bool) :
    List (Alternative Candidate) :=
  b.toList.flatMap fun (id, table) =>
    if admits id.package then
      (Searchable.candidates id.package q table).map fun found => ⟨found, [id]⟩
    else []

/-- What a query finds in the imported packages or else in all of them. -/
def lookup (b : Bundles τ) (imports : ImportSet) (q : Query) : Lookup Candidate :=
  match b.search q fun package => decide (package ∈ imports) with
  | [] => .notImported (b.search q fun _ => true)
  | found => .imported found

theorem alternatives_lookup (b : Bundles τ) (imports : ImportSet) (q : Query) :
    (b.lookup imports q).alternatives = b.search q fun package => decide (package ∈ imports) := by
  unfold lookup
  split
  · rename_i h
    exact h.symm
  · rfl

theorem candidates_lookup (b : Bundles τ) (imports : ImportSet) (q : Query) :
    (b.lookup imports q).candidates =
      if (b.lookup imports q).alternatives = [] then b.search q fun _ => true else [] := by
  rw [alternatives_lookup]
  unfold lookup
  split
  · rename_i h
    rw [if_pos h]
    rfl
  · rename_i found h
    rw [if_neg h]
    rfl

end NameScope.Bundles
