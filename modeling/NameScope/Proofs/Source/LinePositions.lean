import NameScope.Source.LineTable

/-!
# Byte offsets and positions, one for one

A line starts at the first byte of a text and after each newline byte. The table of line starts is
made from characters, of which only the newline has that byte in its encoding, so that the entries
of the table can be told from the bytes alone (`getElem?_starts`). All that is said of positions
follows from this and from one number, the newlines before an offset: a line that the text has
starts at an offset or before exactly if that many newlines come first (`Starts.le_iff`).

* `getElem?_startsAfter`: the table, by induction on the characters of the text;
* `lineOf_eq`: the search in the table counts newlines.

**Results.** * `line_table_is_exact`: a position says the line and the character of an offset,
positions are ordered as offsets are, and both directions undo each other within a line.
-/
namespace NameScope

namespace LineTable

/-- The byte that ends a line. -/
def newline : UInt8 := 10

def bytesOf (text : String) : List UInt8 := text.toUTF8.data.toList

/-- The number of newline bytes before an offset, which may be past the end. -/
def newlinesBefore (bytes : List UInt8) (offset : Nat) : Nat := (bytes.take offset).count newline

/-- A line starts here: nothing is before it, or a newline is. -/
def IsStart (bytes : List UInt8) (start : Nat) : Prop :=
  start = 0 ∨ ∃ last, start = last + 1 ∧ bytes[last]? = some newline

/-- Line number `line` starts at `start`. -/
structure Starts (bytes : List UInt8) (line start : Nat) : Prop where
  isStart : IsStart bytes start
  newlines : newlinesBefore bytes start = line

/-- The line of an offset starts at `start`: just after the last newline before the offset, or at
zero if there is none. -/
structure LastStart (bytes : List UInt8) (offset start : Nat) : Prop where
  isStart : IsStart bytes start
  le : start ≤ offset
  no_newline : ∀ i, start ≤ i → i < offset → bytes[i]? ≠ some newline

/-! ## Counting newlines -/

theorem utf8EncodeChar_newline : String.utf8EncodeChar '\n' = [newline] := by decide

/-- Bytes of longer encodings have their high bit set. -/
theorem newline_not_mem_utf8EncodeChar {c : Char} (h : c ≠ '\n') :
    newline ∉ String.utf8EncodeChar c := by
  have hval : c.val.toNat ≠ 10 := fun he => h (Char.ext (UInt32.toNat_inj.1 he))
  have hne : ∀ n, n % 256 ≠ 10 → newline ≠ UInt8.ofNat n := by
    intro n hn he
    have := congrArg UInt8.toNat he
    rw [UInt8.toNat_ofNat'] at this
    exact hn this.symm
  unfold String.utf8EncodeChar
  simp only
  split
  · exact fun hmem => hne _ (by omega) (List.mem_singleton.1 hmem)
  split
  · simp only [List.mem_cons, List.not_mem_nil, or_false, not_or]
    exact ⟨hne _ (by omega), hne _ (by omega)⟩
  split
  · simp only [List.mem_cons, List.not_mem_nil, or_false, not_or]
    exact ⟨hne _ (by omega), hne _ (by omega), hne _ (by omega)⟩
  · simp only [List.mem_cons, List.not_mem_nil, or_false, not_or]
    exact ⟨hne _ (by omega), hne _ (by omega), hne _ (by omega), hne _ (by omega)⟩

theorem newlinesBefore_append (before after : List UInt8) (offset : Nat) :
    newlinesBefore (before ++ after) offset =
      newlinesBefore before offset + newlinesBefore after (offset - before.length) := by
  unfold newlinesBefore
  rw [List.take_append, List.count_append]

theorem newlinesBefore_succ (bytes : List UInt8) (offset : Nat) :
    newlinesBefore bytes (offset + 1) =
      newlinesBefore bytes offset + if bytes[offset]? = some newline then 1 else 0 := by
  unfold newlinesBefore
  rw [List.take_add_one, List.count_append]
  cases bytes[offset]? with
  | none => simp
  | some byte => simp [List.count_singleton]

theorem newlinesBefore_mono (bytes : List UInt8) {offset offset' : Nat} (h : offset ≤ offset') :
    newlinesBefore bytes offset ≤ newlinesBefore bytes offset' := by
  induction h with
  | refl => exact Nat.le_refl _
  | step _ ih =>
    rw [newlinesBefore_succ]
    omega

/-- Bytes without a newline only shift what is after them. -/
theorem newlinesBefore_append_of_not_mem {before : List UInt8} (h : newline ∉ before)
    (after : List UInt8) (offset : Nat) :
    newlinesBefore (before ++ after) offset = newlinesBefore after (offset - before.length) := by
  have hnone : newlinesBefore before offset = 0 :=
    List.count_eq_zero.2 fun hmem => h (List.mem_of_mem_take hmem)
  rw [newlinesBefore_append, hnone, Nat.zero_add]

theorem getElem?_append_of_not_mem {before : List UInt8} (h : newline ∉ before)
    (after : List UInt8) (i : Nat) :
    (before ++ after)[i]? = some newline ↔
      before.length ≤ i ∧ after[i - before.length]? = some newline := by
  rw [List.getElem?_append]
  split
  · rename_i hlt
    refine iff_of_false (fun he => h (List.mem_of_getElem? he)) fun hge => ?_
    omega
  · rename_i hge
    rw [and_iff_right (Nat.le_of_not_lt hge)]

/-! ## The table -/

/-- The table has the end of each newline, in order. -/
theorem getElem?_startsAfter (cs : List Char) (offset line start : Nat) :
    (startsAfter offset cs)[line]? = some start ↔
      ∃ i, start = offset + i + 1 ∧ (cs.flatMap String.utf8EncodeChar)[i]? = some newline ∧
        newlinesBefore (cs.flatMap String.utf8EncodeChar) i = line := by
  induction cs generalizing offset line with
  | nil => simp [startsAfter]
  | cons c cs ih =>
    rw [List.flatMap_cons, startsAfter]
    generalize cs.flatMap String.utf8EncodeChar = rest at ih ⊢
    by_cases hc : c = '\n'
    · subst hc
      rw [if_pos rfl, utf8EncodeChar_newline, List.singleton_append]
      have hzero : newlinesBefore (newline :: rest) 0 = 0 := rfl
      have hsucc : ∀ i, newlinesBefore (newline :: rest) (i + 1) = newlinesBefore rest i + 1 :=
        fun i => by simp [newlinesBefore]
      cases line with
      | zero =>
        rw [List.getElem?_cons_zero]
        constructor
        · rintro ⟨⟩
          exact ⟨0, rfl, rfl, hzero⟩
        · rintro ⟨i, rfl, -, hnone⟩
          cases i with
          | zero => rfl
          | succ i => rw [hsucc] at hnone; omega
      | succ line =>
        rw [List.getElem?_cons_succ, ih]
        constructor
        · rintro ⟨i, rfl, hi, rfl⟩
          exact ⟨i + 1, by omega, hi, hsucc i⟩
        · rintro ⟨i, rfl, hi, hline⟩
          cases i with
          | zero => rw [hzero] at hline; omega
          | succ i => exact ⟨i, by omega, hi, by rw [hsucc] at hline; omega⟩
    · have hnot := newline_not_mem_utf8EncodeChar hc
      have hlength := String.length_utf8EncodeChar c
      rw [if_neg hc, ih]
      constructor
      · rintro ⟨i, rfl, hi, rfl⟩
        refine ⟨c.utf8Size + i, by omega, ?_, ?_⟩
        · rw [getElem?_append_of_not_mem hnot, hlength, Nat.add_sub_cancel_left]
          exact ⟨Nat.le_add_right _ _, hi⟩
        · rw [newlinesBefore_append_of_not_mem hnot, hlength, Nat.add_sub_cancel_left]
      · rintro ⟨i, rfl, hi, rfl⟩
        rw [getElem?_append_of_not_mem hnot, hlength] at hi
        refine ⟨i - c.utf8Size, by omega, hi.2, ?_⟩
        rw [newlinesBefore_append_of_not_mem hnot, hlength]

theorem bytesOf_eq_flatMap (text : String) :
    bytesOf text = text.toList.flatMap String.utf8EncodeChar := by
  have h : text.toUTF8 = (text.toList.flatMap String.utf8EncodeChar).toByteArray :=
    String.utf8Encode_toList.symm
  rw [bytesOf, h, List.toList_data_toByteArray]

/-- Entry `line` of the table of a text is where that line starts. -/
theorem getElem?_starts (text : String) (line start : Nat) :
    (ofText text).starts[line]? = some start ↔ Starts (bytesOf text) line start := by
  rw [bytesOf_eq_flatMap]
  cases line with
  | zero =>
    constructor
    · rintro ⟨⟩
      exact ⟨.inl rfl, rfl⟩
    · rintro ⟨rfl | ⟨last, rfl, hlast⟩, hnone⟩
      · rfl
      · rw [newlinesBefore_succ, if_pos hlast] at hnone
        omega
  | succ line =>
    have hcons : (ofText text).starts[line + 1]? = (startsAfter 0 text.toList)[line]? := rfl
    rw [hcons, getElem?_startsAfter]
    constructor
    · rintro ⟨last, rfl, hlast, rfl⟩
      rw [Nat.zero_add]
      exact ⟨.inr ⟨last, rfl, hlast⟩, by rw [newlinesBefore_succ, if_pos hlast]⟩
    · rintro ⟨rfl | ⟨last, rfl, hlast⟩, hline⟩
      · exact absurd hline (Nat.succ_ne_zero line).symm
      · rw [newlinesBefore_succ, if_pos hlast] at hline
        exact ⟨last, by omega, hlast, by omega⟩

section
variable {bytes : List UInt8}

/-- A line starts at an offset or before exactly if its newlines all come before the offset. -/
theorem Starts.le_iff {line start : Nat} (h : Starts bytes line start) (offset : Nat) :
    start ≤ offset ↔ line ≤ newlinesBefore bytes offset := by
  constructor
  · intro hle
    rw [← h.newlines]
    exact newlinesBefore_mono bytes hle
  · intro hle
    obtain rfl | ⟨last, rfl, hlast⟩ := h.isStart
    · exact Nat.zero_le offset
    · have hline := h.newlines
      rw [newlinesBefore_succ, if_pos hlast] at hline
      by_cases hlt : offset ≤ last
      · have hmono := newlinesBefore_mono bytes hlt
        omega
      · omega

theorem Starts.lt {line start line' start' : Nat} (h : Starts bytes line start)
    (h' : Starts bytes line' start') (hlt : line < line') : start < start' := by
  have hle := h'.le_iff start
  rw [h.newlines] at hle
  omega

/-- Every offset is on a line. -/
theorem exists_lastStart (bytes : List UInt8) (offset : Nat) :
    ∃ start, LastStart bytes offset start := by
  induction offset with
  | zero => exact ⟨0, .inl rfl, Nat.le_refl 0, fun i _ hi => absurd hi (Nat.not_lt_zero i)⟩
  | succ offset ih =>
    by_cases hnewline : bytes[offset]? = some newline
    · exact ⟨offset + 1, .inr ⟨offset, rfl, hnewline⟩, Nat.le_refl _, fun i hi hlt => by omega⟩
    · obtain ⟨start, hstart, hle, hnone⟩ := ih
      refine ⟨start, hstart, Nat.le_succ_of_le hle, fun i hi hlt => ?_⟩
      by_cases he : i = offset
      · exact he ▸ hnewline
      · exact hnone i hi (by omega)

theorem LastStart.starts {offset start : Nat} (h : LastStart bytes offset start) :
    Starts bytes (newlinesBefore bytes offset) start := by
  refine ⟨h.isStart, ?_⟩
  have hmore : ∀ n, start + n ≤ offset →
      newlinesBefore bytes (start + n) = newlinesBefore bytes start := by
    intro n
    induction n with
    | zero => exact fun _ => rfl
    | succ n ih =>
      intro hle
      rw [← Nat.add_assoc, newlinesBefore_succ,
        if_neg (h.no_newline (start + n) (by omega) (by omega)), ih (by omega), Nat.add_zero]
  have hle := h.le
  rw [← hmore (offset - start) (by omega), Nat.add_sub_cancel' hle]

end

theorem length_takeWhile {α : Type} {p : α → Bool} {l : List α} {n : Nat}
    (h : ∀ i a, l[i]? = some a → (p a = true ↔ i < n)) :
    (l.takeWhile p).length = min n l.length := by
  induction l generalizing n with
  | nil => simp
  | cons a l ih =>
    have hhead := h 0 a rfl
    cases n with
    | zero =>
      rw [List.takeWhile_cons_of_neg (by simpa using hhead), Nat.zero_min]
      rfl
    | succ n =>
      have htail : ∀ i b, l[i]? = some b → (p b = true ↔ i < n) := fun i b hb => by
        rw [h (i + 1) b hb, Nat.add_lt_add_iff_right]
      rw [List.takeWhile_cons_of_pos (hhead.2 (Nat.succ_pos n)), List.length_cons, ih htail,
        List.length_cons, Nat.add_min_add_right]

section
variable {text : String}

theorem newlinesBefore_lt_size (text : String) (offset : Nat) :
    newlinesBefore (bytesOf text) offset < (ofText text).size := by
  obtain ⟨start, hstart⟩ := exists_lastStart (bytesOf text) offset
  exact (List.getElem?_eq_some_iff.1 ((getElem?_starts text _ start).2 hstart.starts)).1

/-- The line of an offset is found by counting the starts up to it: it has as many newlines before
it as the offset has. -/
theorem lineOf_eq (text : String) (offset : Nat) :
    (ofText text).lineOf offset = newlinesBefore (bytesOf text) offset := by
  have hcount := length_takeWhile (l := (ofText text).starts) (p := (· ≤ offset))
    (n := newlinesBefore (bytesOf text) offset + 1) fun line start hstart => by
      rw [decide_eq_true_iff, ((getElem?_starts text line start).1 hstart).le_iff,
        Nat.lt_succ_iff]
  have hlt := newlinesBefore_lt_size text offset
  unfold size at hlt
  unfold lineOf
  omega

theorem newlinesBefore_le (bytes : List UInt8) (offset : Nat) :
    newlinesBefore bytes offset ≤ offset :=
  Nat.le_trans List.count_le_length (List.length_take_le offset bytes)

/-- Neither half of a position is cut off. -/
theorem toNat_position {offset : UInt32} {start : Nat}
    (h : LastStart (bytesOf text) offset.toNat start) :
    ((ofText text).position offset).line.toNat = newlinesBefore (bytesOf text) offset.toNat ∧
      start + ((ofText text).position offset).character.toNat = offset.toNat := by
  have hget := (getElem?_starts text _ start).2 h.starts
  have hle := newlinesBefore_le (bytesOf text) offset.toNat
  have hlt : offset.toNat < UInt32.size := offset.toNat_lt
  have hstart := h.le
  unfold position
  simp only [lineOf_eq, List.getD_eq_getElem?_getD, hget, Option.getD_some]
  rw [UInt32.toNat_ofNat_of_lt' (by omega), UInt32.toNat_ofNat_of_lt' (by omega)]
  omega

/-- A later offset is on a later line, or further on in the same one. -/
theorem position_lt {offset offset' : UInt32} (h : offset < offset') :
    (ofText text).position offset < (ofText text).position offset' := by
  obtain ⟨start, hstart⟩ := exists_lastStart (bytesOf text) offset.toNat
  obtain ⟨start', hstart'⟩ := exists_lastStart (bytesOf text) offset'.toNat
  obtain ⟨hline, hcharacter⟩ := toNat_position hstart
  obtain ⟨hline', hcharacter'⟩ := toNat_position hstart'
  rw [UInt32.lt_iff_toNat_lt] at h
  have hmono := newlinesBefore_mono (bytesOf text) (Nat.le_of_lt h)
  rcases Nat.lt_or_eq_of_le hmono with hlt | heq
  · left
    rw [UInt32.lt_iff_toNat_lt]
    omega
  · right
    have hsame : start = start' := by
      have hget := (getElem?_starts text _ start).2 hstart.starts
      have hget' := (getElem?_starts text _ start').2 hstart'.starts
      rw [heq] at hget
      exact Option.some.inj (hget.symm.trans hget')
    rw [← UInt32.toNat_inj, UInt32.lt_iff_toNat_lt]
    omega

/-! ## Back to offsets -/

theorem offset_eq_noLine_iff (t : LineTable) (p : Position) :
    t.offset p = .noLine ↔ t.size ≤ p.line.toNat := by
  unfold size
  rw [← List.getElem?_eq_none_iff]
  unfold offset
  cases t.starts[p.line.toNat]? with
  | none => simp
  | some start =>
    simp only [reduceCtorEq, iff_false]
    split <;> simp

theorem offset_eq_overflow_iff (t : LineTable) (p : Position) :
    t.offset p = .overflow ↔
      ∃ start, t.starts[p.line.toNat]? = some start ∧
        UInt32.size ≤ start + p.character.toNat := by
  unfold offset
  cases t.starts[p.line.toNat]? with
  | none => simp
  | some start =>
    simp only [Option.some.injEq, exists_eq_left']
    split
    · rename_i hlt
      simp [hlt]
    · rename_i hge
      simp [Nat.le_of_not_lt hge]

theorem offset_eq_found_iff (t : LineTable) (p : Position) (offset : UInt32) :
    t.offset p = .found offset ↔
      ∃ start, t.starts[p.line.toNat]? = some start ∧
        start + p.character.toNat = offset.toNat := by
  unfold LineTable.offset
  cases t.starts[p.line.toNat]? with
  | none => simp
  | some start =>
    simp only [Option.some.injEq, exists_eq_left']
    split
    · rename_i hlt
      rw [Offset.found.injEq, ← UInt32.toNat_inj, UInt32.toNat_ofNat_of_lt' hlt]
    · rename_i hge
      have hlt : offset.toNat < UInt32.size := offset.toNat_lt
      refine iff_of_false Offset.noConfusion fun he => ?_
      omega

theorem offset_position (text : String) (offset : UInt32) :
    (ofText text).offset ((ofText text).position offset) = .found offset := by
  obtain ⟨start, hstart⟩ := exists_lastStart (bytesOf text) offset.toNat
  obtain ⟨hline, hcharacter⟩ := toNat_position hstart
  rw [offset_eq_found_iff, hline]
  exact ⟨start, (getElem?_starts text _ start).2 hstart.starts, hcharacter⟩

/-- A position is that of its offset if it is not past the end of its line. -/
theorem position_eq_iff {p : Position} {offset : UInt32} {start : Nat}
    (hget : (ofText text).starts[p.line.toNat]? = some start)
    (hoffset : start + p.character.toNat = offset.toNat) :
    (ofText text).position offset = p ↔
      p.line.toNat + 1 = (ofText text).size ∨
      ∃ next, (ofText text).starts[p.line.toNat + 1]? = some next ∧ offset.toNat < next := by
  have hstart := (getElem?_starts text _ start).1 hget
  have hline := (hstart.le_iff offset.toNat).1 (by omega)
  have hsame : (ofText text).position offset = p ↔
      newlinesBefore (bytesOf text) offset.toNat = p.line.toNat := by
    obtain ⟨start', hstart'⟩ := exists_lastStart (bytesOf text) offset.toNat
    obtain ⟨hline', hcharacter'⟩ := toNat_position hstart'
    constructor
    · rintro rfl
      exact hline'.symm
    · intro heq
      have hget' := (getElem?_starts text _ start').2 hstart'.starts
      rw [heq, hget] at hget'
      cases hget'
      apply Position.rank_injective
      unfold Position.rank
      rw [hline', heq]
      omega
  rw [hsame]
  have hsize := newlinesBefore_lt_size text offset.toNat
  cases hnext : (ofText text).starts[p.line.toNat + 1]? with
  | none =>
    have hlast := List.getElem?_eq_none_iff.1 hnext
    unfold size at hsize ⊢
    refine iff_of_true (by omega) (.inl ?_)
    omega
  | some next =>
    have hle := ((getElem?_starts text _ next).1 hnext).le_iff offset.toNat
    have hlt := (List.getElem?_eq_some_iff.1 hnext).1
    simp only [Option.some.injEq, exists_eq_left']
    unfold size
    omega

end

/-- What the table of line starts is worth for the text with these bytes. -/
structure Exact (bytes : List UInt8) (t : LineTable) : Prop where
  /-- The table has the line starts of the text. -/
  starts_iff : ∀ line start, t.starts[line]? = some start ↔ Starts bytes line start
  /-- It can be searched by halves. -/
  ordered : t.starts.Pairwise (· < ·)
  /-- Its entries fit words. -/
  fits : ∀ start ∈ t.starts, start < UInt32.size
  /-- A position is read at an entry that the table has and that is not after the offset. It
  counts the newlines before the offset and the bytes after the last of them. -/
  position_eq : ∀ offset : UInt32, ∃ start,
    t.starts[t.lineOf offset.toNat]? = some start ∧ LastStart bytes offset.toNat start ∧
    (t.position offset).line.toNat = t.lineOf offset.toNat ∧
    (t.position offset).line.toNat = newlinesBefore bytes offset.toNat ∧
    start + (t.position offset).character.toNat = offset.toNat
  position_lt : ∀ offset offset', offset < offset' → t.position offset < t.position offset'
  offset_position : ∀ offset, t.offset (t.position offset) = .found offset
  noLine_iff : ∀ p, t.offset p = .noLine ↔ t.size ≤ p.line.toNat
  overflow_iff : ∀ p, t.offset p = .overflow ↔
    ∃ start, t.starts[p.line.toNat]? = some start ∧ UInt32.size ≤ start + p.character.toNat
  /-- Any other position has an offset, whose position it is unless it is past the end of its
  line. -/
  found : ∀ p offset, t.offset p = .found offset → ∃ start,
    t.starts[p.line.toNat]? = some start ∧ offset.toNat = start + p.character.toNat ∧
    (t.position offset = p ↔ p.line.toNat + 1 = t.size ∨
      ∃ next, t.starts[p.line.toNat + 1]? = some next ∧ start + p.character.toNat < next)

/-- **Offsets and positions, one for one**: the table made of a text of less than `2 ^ 32` bytes
gives every word the position that its bytes say, also past the end of the text, and leads back. -/
theorem line_table_is_exact (text : String) (hsize : text.utf8ByteSize < UInt32.size) :
    (ofText text).Exact (bytesOf text) where
  starts_iff := getElem?_starts text
  ordered := by
    rw [List.pairwise_iff_getElem]
    intro line line' hline hline' hlt
    have hstart := (getElem?_starts text line _).1 (List.getElem?_eq_getElem hline)
    have hstart' := (getElem?_starts text line' _).1 (List.getElem?_eq_getElem hline')
    exact hstart.lt hstart' hlt
  fits start hmem := by
    obtain ⟨line, hline⟩ := List.getElem?_of_mem hmem
    have hlength : (bytesOf text).length = text.utf8ByteSize := Array.length_toList
    obtain rfl | ⟨last, rfl, hlast⟩ := ((getElem?_starts text line start).1 hline).isStart
    · decide
    · have hlt := (List.getElem?_eq_some_iff.1 hlast).1
      omega
  position_eq offset := by
    obtain ⟨start, hstart⟩ := exists_lastStart (bytesOf text) offset.toNat
    obtain ⟨hline, hcharacter⟩ := toNat_position hstart
    have hget := (getElem?_starts text _ start).2 hstart.starts
    have hlineOf := lineOf_eq text offset.toNat
    exact ⟨start, hlineOf ▸ hget, hstart, hline.trans hlineOf.symm, hline, hcharacter⟩
  position_lt _ _ := position_lt
  offset_position := offset_position text
  noLine_iff := offset_eq_noLine_iff _
  overflow_iff := offset_eq_overflow_iff _
  found p offset hfound := by
    obtain ⟨start, hget, hoffset⟩ := (offset_eq_found_iff _ p offset).1 hfound
    refine ⟨start, hget, hoffset.symm, ?_⟩
    rw [hoffset]
    exact position_eq_iff hget hoffset

/-- A character of two bytes before two newlines: offset 1 is inside the character, offset 9 is past
the end, and offset 8 is not at 1:5, since line 1 is empty. -/
theorem line_table_of_two_newlines_is_exact :
    let text := "é\n\nb"
    let t := ofText text
    text.utf8ByteSize < UInt32.size ∧ t.Exact (bytesOf text) ∧ t.starts = [0, 3, 4] ∧
    t.position 1 = ⟨0, 1⟩ ∧ t.position 9 = ⟨2, 5⟩ ∧
    t.offset ⟨1, 5⟩ = .found 8 ∧ t.position 8 = ⟨2, 4⟩ := by
  intro text t
  have hsize : text.utf8ByteSize < UInt32.size := by decide +kernel
  refine ⟨hsize, line_table_is_exact text hsize, by decide +kernel, ?_⟩
  exact ⟨by decide +kernel, by decide +kernel, by decide +kernel, by decide +kernel⟩

end LineTable

end NameScope
