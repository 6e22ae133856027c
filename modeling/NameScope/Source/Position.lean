/-!
# Positions, ranges and locations

A position is a line and a character of a script, both counted from zero in 32-bit words. People
read positions counted from one, so the last word has no displayed form (`Position.text?`).

A range is half open and need not be ordered: nothing here assumes `start ≤ stop`.

**Results.**
* `Position.le_iff_rank`, `Position.lt_iff_rank`: the reading order is the order of one number;
* `Position.rank_injective`, `Position.exists_rank`: there is one position for each number below
  `2 ^ 64`;
* `Position.rank_min`, `Position.rank_max`: the earlier and the later of two positions;
* `Range.contains_iff_rank`, `Range.covers_iff_rank`: ranges are compared by these numbers;
* `Range.covers_refl`, `Range.covers_trans`, `Range.covers_antisymm`: covering is an order.
-/
namespace NameScope

/-- A line and a character, both from zero. The character counts UTF-8 bytes. -/
structure Position where
  line : UInt32 := 0
  character : UInt32 := 0
  deriving DecidableEq, Repr, Inhabited

namespace Position

/-- Reading order: by line, then by character. -/
instance : LE Position :=
  ⟨fun a b => a.line < b.line ∨ a.line = b.line ∧ a.character ≤ b.character⟩

instance : LT Position :=
  ⟨fun a b => a.line < b.line ∨ a.line = b.line ∧ a.character < b.character⟩

instance (a b : Position) : Decidable (a ≤ b) :=
  inferInstanceAs (Decidable (a.line < b.line ∨ a.line = b.line ∧ a.character ≤ b.character))

instance (a b : Position) : Decidable (a < b) :=
  inferInstanceAs (Decidable (a.line < b.line ∨ a.line = b.line ∧ a.character < b.character))

instance : Ord Position := ⟨fun a b => compareOfLessAndEq a b⟩

instance : Min Position := ⟨fun a b => if a ≤ b then a else b⟩

instance : Max Position := ⟨fun a b => if a ≤ b then b else a⟩

/-- The place of a position in reading order. -/
def rank (p : Position) : Nat := p.line.toNat * UInt32.size + p.character.toNat

theorem rank_injective {a b : Position} (h : a.rank = b.rank) : a = b := by
  have ha := a.character.toNat_lt
  have hb := b.character.toNat_lt
  unfold rank UInt32.size at h
  cases a with
  | mk al ac =>
    cases b with
    | mk bl bc =>
      simp only at h ha hb
      have hl : al.toNat = bl.toNat := by omega
      have hc : ac.toNat = bc.toNat := by omega
      rw [UInt32.toNat_inj.1 hl, UInt32.toNat_inj.1 hc]

theorem le_iff_rank (a b : Position) : a ≤ b ↔ a.rank ≤ b.rank := by
  have ha := a.character.toNat_lt
  have hb := b.character.toNat_lt
  change (a.line < b.line ∨ a.line = b.line ∧ a.character ≤ b.character) ↔ _
  rw [UInt32.lt_iff_toNat_lt, UInt32.le_iff_toNat_le, ← UInt32.toNat_inj]
  unfold rank UInt32.size
  omega

theorem lt_iff_rank (a b : Position) : a < b ↔ a.rank < b.rank := by
  have ha := a.character.toNat_lt
  have hb := b.character.toNat_lt
  change (a.line < b.line ∨ a.line = b.line ∧ a.character < b.character) ↔ _
  rw [UInt32.lt_iff_toNat_lt, UInt32.lt_iff_toNat_lt, ← UInt32.toNat_inj]
  unfold rank UInt32.size
  omega

theorem rank_lt (p : Position) : p.rank < UInt32.size * UInt32.size := by
  have hl := p.line.toNat_lt
  have hc := p.character.toNat_lt
  unfold rank UInt32.size
  omega

/-- Each number below `2 ^ 64` has its position. -/
theorem exists_rank {n : Nat} (h : n < UInt32.size * UInt32.size) : ∃ p : Position, p.rank = n := by
  refine ⟨⟨UInt32.ofNat (n / UInt32.size), UInt32.ofNat (n % UInt32.size)⟩, ?_⟩
  unfold rank
  simp only [UInt32.toNat_ofNat']
  unfold UInt32.size at *
  omega

theorem rank_min (a b : Position) : (min a b).rank = min a.rank b.rank := by
  show (if a ≤ b then a else b).rank = _
  split <;> rename_i h <;> rw [le_iff_rank] at h <;> omega

theorem rank_max (a b : Position) : (max a b).rank = max a.rank b.rank := by
  show (if a ≤ b then b else a).rank = _
  split <;> rename_i h <;> rw [le_iff_rank] at h <;> omega

/-- From a line and a column counted from one; zero is read as one. -/
def ofOneBased (line character : UInt32) : Position where
  line := if line = 0 then 0 else line - 1
  character := if character = 0 then 0 else character - 1

/-- The number after `n`, in decimal, unless `n` is the last word. -/
def oneBased? (n : UInt32) : Option String :=
  if n.toNat + 1 < UInt32.size then some (toString (n.toNat + 1)) else none

/-- `line:character` counted from one. -/
def text? (p : Position) : Option String := do
  let line ← oneBased? p.line
  let character ← oneBased? p.character
  some (line ++ ":" ++ character)

end Position

/-- The positions from `start` up to, but not including, `stop`. -/
structure Range where
  start : Position := {}
  stop : Position := {}
  deriving DecidableEq, Repr, Inhabited

namespace Range

/-- The one-character range at `p`, unless `p` is at the last character of all. -/
def point? (p : Position) : Option Range :=
  if p.character.toNat + 1 < UInt32.size then
    some ⟨p, { p with character := p.character + 1 }⟩
  else none

/-- The smallest range that covers both. -/
def combine (a b : Range) : Range := ⟨min a.start b.start, max a.stop b.stop⟩

def contains (r : Range) (p : Position) : Bool := decide (r.start ≤ p) && decide (p < r.stop)

/-- Whether `b` lies between the ends of `a`. -/
def covers (a b : Range) : Bool := decide (a.start ≤ b.start) && decide (b.stop ≤ a.stop)

theorem contains_iff_rank (r : Range) (p : Position) :
    r.contains p = true ↔ r.start.rank ≤ p.rank ∧ p.rank < r.stop.rank := by
  simp only [contains, Bool.and_eq_true, decide_eq_true_eq, Position.le_iff_rank,
    Position.lt_iff_rank]

theorem covers_iff_rank (a b : Range) :
    a.covers b = true ↔ a.start.rank ≤ b.start.rank ∧ b.stop.rank ≤ a.stop.rank := by
  simp only [covers, Bool.and_eq_true, decide_eq_true_eq, Position.le_iff_rank]

theorem covers_refl (a : Range) : a.covers a = true :=
  (covers_iff_rank a a).2 ⟨Nat.le_refl _, Nat.le_refl _⟩

theorem covers_trans {a b c : Range} (hab : a.covers b = true) (hbc : b.covers c = true) :
    a.covers c = true := by
  rw [covers_iff_rank] at *
  omega

theorem covers_antisymm {a b : Range} (hab : a.covers b = true) (hba : b.covers a = true) :
    a = b := by
  rw [covers_iff_rank] at *
  have hstart : a.start = b.start := Position.rank_injective (by omega)
  have hstop : a.stop = b.stop := Position.rank_injective (by omega)
  cases a
  cases b
  exact congr (congrArg Range.mk hstart) hstop

/-- `start-stop`. -/
def text? (r : Range) : Option String := do
  let start ← r.start.text?
  let stop ← r.stop.text?
  some (start ++ "-" ++ stop)

end Range

/-- The number of a script's file. -/
structure FileId where
  index : UInt32
  deriving DecidableEq, Repr, Inhabited

namespace FileId

instance : Ord FileId := ⟨fun a b => compare a.index b.index⟩

/-- `file#N`, the name of a file whose path is unknown. -/
def text (f : FileId) : String := "file#" ++ toString f.index.toNat

/-- `FileId(N)`. -/
def debugText (f : FileId) : String := "FileId(" ++ toString f.index.toNat ++ ")"

end FileId

/-- A range of one file. -/
structure Location where
  file : FileId
  range : Range
  deriving DecidableEq, Repr, Inhabited

namespace Location

/-- `file#N:line:character`, where the range starts. -/
def text? (l : Location) : Option String :=
  l.range.start.text?.map fun start => l.file.text ++ ":" ++ start

/-- `file#N@start-stop`. -/
def debugText? (l : Location) : Option String :=
  l.range.text?.map fun range => l.file.text ++ "@" ++ range

end Location

end NameScope
