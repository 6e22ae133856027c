import NameScope.Diagnostic.Severity

/-!
# Settings of a session
-/
namespace NameScope

/-- What happens to a struct or func whose name its package has already. -/
inductive DuplicatePolicy where
  /-- It is reported as an error and dropped. -/
  | error
  /-- It is reported as a warning and dropped. -/
  | warning
  /-- It silently replaces the earlier one. -/
  | allow
  deriving DecidableEq, Repr, Inhabited

/-- How a duplicate is reported, if it is. -/
def DuplicatePolicy.severity? : DuplicatePolicy → Option Severity
  | .error => some .error
  | .warning => some .warning
  | .allow => none

structure Config where
  duplicates : DuplicatePolicy := .error
  /-- A script imports its own package without saying so. -/
  selfImport : Bool := true
  /-- How many candidates a message suggests to import; all of them if there is no limit. -/
  maxSuggestions : Option UInt64 := none
  deriving DecidableEq, Repr, Inhabited

/-- How many of `n` candidates are shown. -/
def Config.shown (c : Config) (n : Nat) : Nat :=
  match c.maxSuggestions with
  | some limit => min limit.toNat n
  | none => n

theorem Config.shown_le (c : Config) (n : Nat) : c.shown n ≤ n := by
  unfold shown
  split
  · exact Nat.min_le_right _ _
  · exact Nat.le_refl n

end NameScope
