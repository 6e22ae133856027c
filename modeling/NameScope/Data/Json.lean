import NameScope.Data.Json.Numeral

/-!
# Reading JSON text

`parse?` reads a text that is one JSON value. A string may spell characters beyond `U+FFFF` as
surrogate pairs, and no surrogate may stand alone. A number has to be finite. Lists and records nest
up to `maxDepth`. Of several members with one name the last counts.

Each reader takes what is left of the text and gives what it leaves.
-/
namespace NameScope.Json

def skipBlank (cs : List Char) : List Char :=
  cs.dropWhile fun c => c == ' ' || c == '\n' || c == '\t' || c == '\r'

/-! ## Strings -/

def hexDigit? (c : Char) : Option Nat := "0123456789abcdef".toList.idxOf? c.toLower

/-- The number that hexadecimal digits write. -/
def hex? (digits : List Char) : Option Nat :=
  digits.foldlM (fun n c => (hexDigit? c).map (n * 16 + ·)) 0

/-- What the character after a backslash stands for. -/
def escapes : List (Char × Char) :=
  [('"', '"'), ('\\', '\\'), ('/', '/'), ('b', '\x08'), ('f', '\x0c'), ('n', '\n'), ('r', '\r'),
    ('t', '\t')]

def isHighSurrogate (unit : Nat) : Bool := decide (0xD800 ≤ unit) && decide (unit < 0xDC00)

def isLowSurrogate (unit : Nat) : Bool := decide (0xDC00 ≤ unit) && decide (unit < 0xE000)

/-- The character of a surrogate pair. -/
def ofSurrogates (high low : Nat) : Char :=
  Char.ofNat (0x10000 + (high - 0xD800) * 0x400 + (low - 0xDC00))

/-- The rest of a string, whose characters so far are `read`, the last one first. `high` is a high
surrogate that waits for its other half. -/
def readText (high : Option Nat) (read : List Char) : List Char → Option (String × List Char)
  | [] => none
  | '"' :: cs => if high.isNone then some (String.ofList read.reverse, cs) else none
  | '\\' :: 'u' :: c₁ :: c₂ :: c₃ :: c₄ :: cs =>
    match hex? [c₁, c₂, c₃, c₄], high with
    | none, _ => none
    | some unit, some high =>
      if isLowSurrogate unit then readText none (ofSurrogates high unit :: read) cs else none
    | some unit, none =>
      if isHighSurrogate unit then readText (some unit) read cs
      else if isLowSurrogate unit then none
      else readText none (Char.ofNat unit :: read) cs
  | '\\' :: c :: cs =>
    match escapes.lookup c, high with
    | some c, none => readText none (c :: read) cs
    | _, _ => none
  | c :: cs => if c < ' ' || high.isSome then none else readText none (c :: read) cs

/-! ## Numbers -/

/-- The characters of numerals. None of them can follow a numeral. -/
def isNumeralChar (c : Char) : Bool := c.isDigit || "+-.eE".toList.contains c

def readNumber (cs : List Char) : Option (Data × List Char) := do
  let literal := cs.takeWhile isNumeralChar
  let n ← Numeral.ofChars? literal
  if n.isFinite then some (n.toData literal, cs.dropWhile isNumeralChar) else none

/-! ## Values -/

/-- How deep lists and records nest at most. -/
def maxDepth : Nat := 127

mutual

/-- A value in which lists and records nest up to `depth`. -/
def readValue (depth : Nat) (cs : List Char) : Nat → Option (Data × List Char)
  | 0 => none
  | fuel + 1 =>
    match skipBlank cs with
    | 'n' :: 'u' :: 'l' :: 'l' :: cs => some (.null, cs)
    | 't' :: 'r' :: 'u' :: 'e' :: cs => some (.bool true, cs)
    | 'f' :: 'a' :: 'l' :: 's' :: 'e' :: cs => some (.bool false, cs)
    | '"' :: cs => (readText none [] cs).map fun (s, cs) => (.text s, cs)
    | '[' :: cs =>
      match depth, skipBlank cs with
      | 0, _ => none
      | _ + 1, ']' :: cs => some (.list [], cs)
      | depth + 1, cs => readItems depth [] cs fuel
    | '\x7b' :: cs =>
      match depth, skipBlank cs with
      | 0, _ => none
      | _ + 1, '\x7d' :: cs => some (.record [], cs)
      | depth + 1, cs => readMembers depth [] cs fuel
    | cs => readNumber cs

/-- The rest of a list, whose items so far are `read`, the last one first. -/
def readItems (depth : Nat) (read : List Data) (cs : List Char) : Nat → Option (Data × List Char)
  | 0 => none
  | fuel + 1 => do
    let (item, cs) ← readValue depth cs fuel
    match skipBlank cs with
    | ',' :: cs => readItems depth (item :: read) cs fuel
    | ']' :: cs => some (.list (item :: read).reverse, cs)
    | _ => none

/-- The rest of a record, whose members so far are `read`, the last one first. -/
def readMembers (depth : Nat) (read : List (String × Data)) (cs : List Char) :
    Nat → Option (Data × List Char)
  | 0 => none
  | fuel + 1 => do
    let '"' :: cs := skipBlank cs | none
    let (name, cs) ← readText none [] cs
    let ':' :: cs := skipBlank cs | none
    let (value, cs) ← readValue depth cs fuel
    let read := (name, value) :: read.filter (·.1 != name)
    match skipBlank cs with
    | ',' :: cs => readMembers depth read cs fuel
    | '\x7d' :: cs => some (.record read.reverse, cs)
    | _ => none

end

/-- The value that a text writes. A reader calls at most two readers for each character. -/
def parse? (text : String) : Option Data := do
  let (d, rest) ← readValue maxDepth text.toList (2 * text.length + 2)
  if (skipBlank rest).isEmpty then some d else none

end NameScope.Json
