import NameScope.Name.Qualified
import NameScope.Source.Position

/-!
# Names as a script writes them

A written name may leave out leading segments of the name it means. It starts without a target and
is linked to one at most once.

**Results.** * `link_eq_error_iff`: a link is refused exactly when there is a target already, and
the refusal names it; * `link_eq_ok_iff`: otherwise the target is the only change.
-/
namespace NameScope

/-- A declaration as a reference to it sees it. -/
structure Target where
  location : Location
  documentation : Option String := none
  deriving DecidableEq, Repr, Inhabited

/-- A reference that has a target is not linked again. -/
structure LinkError where
  /-- The name as written. -/
  name : String
  /-- Where its target is. -/
  existing : Location
  deriving DecidableEq, Repr

/-- The text of the refusal, if the position of the target can be shown. -/
def LinkError.message? (e : LinkError) : Option String :=
  e.existing.text?.map fun place =>
    "reference '" ++ e.name ++ "' was already linked to " ++ place

/-- A name in a script. -/
structure WrittenName where
  name : QualifiedName
  range : Range := {}
  target : Option Target := none
  deriving DecidableEq, Repr, Inhabited

namespace WrittenName

def parse (text : String) (range : Range) : Except NameError WrittenName :=
  (QualifiedName.parse text).map fun name => { name, range }

/-- Whether the name may mean `full`. -/
def isSuffixOf (w : WrittenName) (full : QualifiedName) : Bool := w.name.isSuffixOf full

def isLinked (w : WrittenName) : Bool := w.target.isSome

/-- Records the declaration that the name means. -/
def link (w : WrittenName) (target : Target) : Except LinkError WrittenName :=
  match w.target with
  | some existing => .error ⟨w.name.text, existing.location⟩
  | none => .ok { w with target := some target }

theorem link_of_unlinked {w : WrittenName} (h : w.target = none) (t : Target) :
    w.link t = .ok { w with target := some t } := by
  simp [link, h]

theorem link_eq_ok_iff (w w' : WrittenName) (t : Target) :
    w.link t = .ok w' ↔ w.target = none ∧ w' = { w with target := some t } := by
  unfold link
  cases h : w.target with
  | some existing => simp
  | none => simp [eq_comm]

theorem link_eq_error_iff (w : WrittenName) (t : Target) (e : LinkError) :
    w.link t = .error e ↔ ∃ old, w.target = some old ∧ e = ⟨w.name.text, old.location⟩ := by
  unfold link
  cases h : w.target with
  | some existing => simp [eq_comm]
  | none => simp

end WrittenName

end NameScope
