import NameScope.Name.Package

/-!
# Outcomes of a look-up

A look-up finds alternatives among the imported packages or, failing that, candidates that could
be imported. A name is resolved when there is exactly one alternative.
-/
namespace NameScope

/-- A match, with the packages whose import makes it visible. -/
structure Alternative (α : Type u) where
  value : α
  imports : List PackageId
  deriving DecidableEq, Repr

/-- The alternative for `f` of the match, where `f` is defined on it. -/
def Alternative.filterMap (f : α → Option β) (a : Alternative α) : Option (Alternative β) :=
  (f a.value).map fun value => { value, imports := a.imports }

inductive Lookup (α : Type u) where
  /-- What was found among the imported packages. -/
  | imported (alternatives : List (Alternative α))
  /-- Nothing was found there; the candidates come from all other packages. -/
  | notImported (candidates : List (Alternative α))
  deriving DecidableEq, Repr

namespace Lookup

variable {α : Type u} {β : Type v}

/-- A success needs an alternative. -/
def imported? (alternatives : List (Alternative α)) : Option (Lookup α) :=
  if alternatives.isEmpty then none else some (.imported alternatives)

/-- The imported matches. -/
def alternatives : Lookup α → List (Alternative α)
  | .imported alternatives => alternatives
  | .notImported _ => []

/-- The matches that are not imported, when no imported one was found. -/
def candidates : Lookup α → List (Alternative α)
  | .imported _ => []
  | .notImported candidates => candidates

/-- The match, if there is exactly one that is imported. -/
def single? (l : Lookup α) : Option α :=
  match l.alternatives with
  | [only] => some only.value
  | _ => none

def isResolved (l : Lookup α) : Bool := l.alternatives.length == 1

def isAmbiguous (l : Lookup α) : Bool := decide (l.alternatives.length > 1)

/-- Keeps the matches on which `f` is defined. -/
def filterMap (f : α → Option β) : Lookup α → Lookup β
  | .imported alternatives => .imported (alternatives.filterMap (Alternative.filterMap f))
  | .notImported candidates => .notImported (candidates.filterMap (Alternative.filterMap f))

theorem alternatives_filterMap (f : α → Option β) (l : Lookup α) :
    (l.filterMap f).alternatives = l.alternatives.filterMap (Alternative.filterMap f) := by
  cases l <;> rfl

theorem candidates_filterMap (f : α → Option β) (l : Lookup α) :
    (l.filterMap f).candidates = l.candidates.filterMap (Alternative.filterMap f) := by
  cases l <;> rfl

theorem isResolved_iff_length (l : Lookup α) :
    l.isResolved = true ↔ l.alternatives.length = 1 := by
  simp [isResolved]

theorem isResolved_iff (l : Lookup α) : l.isResolved = true ↔ l.single?.isSome = true := by
  unfold isResolved single?
  rcases l.alternatives with _ | ⟨a, _ | ⟨b, as⟩⟩ <;> simp

end Lookup

end NameScope
