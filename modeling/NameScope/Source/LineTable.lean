import NameScope.Source.Position

/-!
# From byte offsets to positions and back

A line table holds the byte offsets at which the lines of a text start. Offsets beyond the text
belong to its last line, and `offset` does not look at the length of a line, so both directions
accept more than the text has.

An offset that is given or found is a word, and so are the parts of a position. The offsets in the
table itself are numbers without a bound, so it is exact for texts of less than `2 ^ 32` bytes only:
of a longer text, line starts would be cut off to words when the table is made.
-/
namespace NameScope

/-- The byte offsets at which the lines of a text start; the first line starts at zero. For
a text of less than `2 ^ 32` bytes all of them are words. -/
structure LineTable where
  starts : List Nat
  deriving DecidableEq, Repr

namespace LineTable

/-- Where the lines after the first start, for a text that begins at byte `offset`; nothing is cut
off to a word. -/
def startsAfter (offset : Nat) : List Char → List Nat
  | [] => []
  | c :: cs =>
    if c = '\n' then (offset + 1) :: startsAfter (offset + 1) cs
    else startsAfter (offset + c.utf8Size) cs

/-- The table of a text, exact if the text has less than `2 ^ 32` bytes. -/
def ofText (text : String) : LineTable := ⟨0 :: startsAfter 0 text.toList⟩

/-- The number of lines. -/
def size (t : LineTable) : Nat := t.starts.length

def isEmpty (t : LineTable) : Bool := t.starts.isEmpty

/-- The number of lines that start at `offset` or before, less one: the line `offset` is on. -/
def lineOf (t : LineTable) (offset : Nat) : Nat :=
  (t.starts.takeWhile (· ≤ offset)).length - 1

/-- The position of a byte offset. -/
def position (t : LineTable) (offset : UInt32) : Position :=
  let line := t.lineOf offset.toNat
  ⟨UInt32.ofNat line, UInt32.ofNat (offset.toNat - t.starts.getD line 0)⟩

/-- The range from one byte offset to a later or equal one. -/
def range? (t : LineTable) (start stop : UInt32) : Option Range :=
  if start ≤ stop then some ⟨t.position start, t.position stop⟩ else none

/-- The byte offset of a position. -/
inductive Offset where
  | found (offset : UInt32)
  /-- The text has no such line. -/
  | noLine
  /-- The line exists, but the offset does not fit a word. -/
  | overflow
  deriving DecidableEq, Repr

def offset (t : LineTable) (p : Position) : Offset :=
  match t.starts[p.line.toNat]? with
  | none => .noLine
  | some start =>
    if start + p.character.toNat < UInt32.size then .found (UInt32.ofNat (start + p.character.toNat))
    else .overflow

end LineTable

end NameScope
