import NameScope.Data.Basic

/-!
# JSON numerals

A numeral is a sign, digits, and after them a fraction, an exponent or both. It stands for an
integer if it has neither, except that minus zero is not one.

A numeral has to be finite as a binary floating-point number of 64 bits. Its value there is a product
of two factors: the leading digits that make a number below `2 ^ 64`, and the power of ten that
gives them their place. Each factor is rounded to 53 bits, and so is the product; one of
`2 ^ 1024 - 2 ^ 970` or more rounds to infinity.
-/
namespace NameScope.Json

structure Numeral where
  isNegative : Bool
  /-- The digits before the point, without a leading zero if there are several. -/
  whole : List Char
  /-- The digits after the point; none if there is no point. -/
  fraction : List Char
  exponent : Option Int

namespace Numeral

/-! ## Parts -/

/-- One or more decimal digits, and what follows them. -/
def readDigits (cs : List Char) : Option (List Char × List Char) :=
  match cs.takeWhile Char.isDigit with
  | [] => none
  | digits => some (digits, cs.dropWhile Char.isDigit)

/-- A point and digits, or nothing. -/
def readFraction : List Char → Option (List Char × List Char)
  | '.' :: cs => readDigits cs
  | cs => some ([], cs)

/-- The number that decimal digits write and nothing else. -/
def ofDigits? (cs : List Char) : Option Int :=
  if !cs.isEmpty && cs.all Char.isDigit then some (Nat.ofDigitChars 10 cs 0) else none

/-- The rest of a numeral after its digits. -/
def exponent? : List Char → Option (Option Int)
  | [] => some none
  | 'e' :: '-' :: cs | 'E' :: '-' :: cs => (ofDigits? cs).map fun n => some (-n)
  | 'e' :: '+' :: cs | 'E' :: '+' :: cs | 'e' :: cs | 'E' :: cs => (ofDigits? cs).map some
  | _ => none

def ofChars? (cs : List Char) : Option Numeral := do
  let isNegative := cs.head? == some '-'
  let (whole, cs) ← readDigits (if isNegative then cs.tail else cs)
  if whole.head? == some '0' && whole.length > 1 then none
  let (fraction, cs) ← readFraction cs
  return { isNegative, whole, fraction, exponent := ← exponent? cs }

/-! ## Values -/

/-- Appends digits to a number while it stays below `2 ^ 64`. Gives the digits that are left, too. -/
def appendDigits (n : Nat) : List Char → Nat × List Char
  | [] => (n, [])
  | c :: cs =>
    let next := 10 * n + (c.toNat - '0'.toNat)
    if next < UInt64.size then appendDigits next cs else (n, c :: cs)

/-- The leading digits as a number, and the exponent of the power of ten that gives them their
place. -/
def significand (n : Numeral) : Nat × Int :=
  let (s, above) := appendDigits 0 n.whole
  let (s, below) := appendDigits s n.fraction
  (s, n.exponent.getD 0 + above.length + below.length - n.fraction.length)

/-- The nearest number with at most this many bits before its trailing zeros. A half goes to the
even neighbour. -/
def roundToBits (bits n : Nat) : Nat :=
  let unit := Nat.pow 2 (n.log2 + 1 - bits)
  let q := n / unit
  let twice := 2 * (n % unit)
  if twice > unit || twice == unit && q % 2 == 1 then (q + 1) * unit else q * unit

def isFinite (n : Numeral) : Bool :=
  let (s, e) := n.significand
  s == 0 || e < 0 ||
    e ≤ 308 &&
      roundToBits 53 s * roundToBits 53 (Nat.pow 10 e.toNat) < Nat.pow 2 1024 - Nat.pow 2 970

/-- The value of a numeral that is written with these characters. -/
def toData (n : Numeral) (literal : List Char) : Data :=
  let value := Nat.ofDigitChars 10 n.whole 0
  if !n.fraction.isEmpty || n.exponent.isSome || n.isNegative && value == 0 then
    .decimal (String.ofList literal)
  else .integer (if n.isNegative then -value else value)

end Numeral

end NameScope.Json
