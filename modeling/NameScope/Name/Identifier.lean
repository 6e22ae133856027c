import NameScope.Name.XidTable

/-!
# Identifiers

An identifier opens with `_` or a character of `XID_Start` and goes on with characters of
`XID_Continue`. Which characters these are changes with the version of Unicode. What stays is that a
colon is in neither set, so that `::` never occurs inside an identifier; names that are written and
read rely on nothing else. An `Alphabet` is two sets with this property, and `Alphabet.unicode` is
that of the tables.
-/
namespace NameScope

/-- The two sets of characters that identifiers are made of. -/
structure Alphabet where
  /-- `XID_Start` -/
  isXidStart : Char → Bool
  /-- `XID_Continue` -/
  isXidContinue : Char → Bool
  not_isXidStart_colon : isXidStart ':' = false
  not_isXidContinue_colon : isXidContinue ':' = false

namespace Alphabet

/-- Whether a code point lies in one of the ranges. -/
def inRanges (ranges : List (Nat × Nat)) (c : Char) : Bool :=
  ranges.any fun r => r.1 ≤ c.toNat && c.toNat ≤ r.2

/-- The characters of Unicode 18.0. -/
def unicode : Alphabet where
  isXidStart c := inRanges Xid.startRanges c
  isXidContinue c := inRanges Xid.startRanges c || inRanges Xid.continueRanges c
  not_isXidStart_colon := by decide +kernel
  not_isXidContinue_colon := by decide +kernel

end Alphabet

namespace Identifier

/-- May open an identifier. -/
def isStart (c : Char) (A : Alphabet := .unicode) : Bool := c == '_' || A.isXidStart c

/-- Whether a text is an identifier. -/
def isIdentifier (text : String) (A : Alphabet := .unicode) : Bool :=
  match text.toList with
  | [] => false
  | c :: cs => isStart c A && cs.all A.isXidContinue

theorem not_isStart_colon (A : Alphabet) : isStart ':' A = false := by
  simp [isStart, A.not_isXidStart_colon]

end Identifier

end NameScope
