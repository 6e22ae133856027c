import Mathlib.Data.List.Infix
import NameScope.Name.Qualified

/-!
# The written form of a qualified name

A qualified name is written with `::` between its segments, and read by cutting a text there. What
the cuts are is said apart from the function that makes them (`Cut`): separators are found from left
to right and do not overlap, so of three colons in a row the first two are one. A text has exactly
one cut (`cut_iff`), and writing the pieces down again gives the text (`toList_joinSegments`).

Whatever the alphabet, an identifier has no colon in it (`Identifier.Valid.colon_free`). So a text
that was written from identifiers is cut where they meet (`cut_joinSegments`), although a text of
other pieces may not be: the pieces `:` and `a` make `:::a`, which is cut into an empty piece and
`:a`.

**Results.** * `written_form_is_faithful`: what is read, what reading gives, and which piece is
refused.
-/
namespace NameScope

namespace Identifier

/-- An identifier opens with `_` or a character of `XID_Start`, and all others are of
`XID_Continue`. -/
def Valid (text : String) (A : Alphabet := .unicode) : Prop :=
  ∃ c cs, text.toList = c :: cs ∧ (c = '_' ∨ A.isXidStart c = true) ∧
    ∀ d ∈ cs, A.isXidContinue d = true

variable {A : Alphabet} {text : String}

theorem isIdentifier_iff : isIdentifier text A = true ↔ Valid text A := by
  unfold isIdentifier Valid
  cases text.toList with
  | nil => simp
  | cons c cs => simp [isStart]

theorem Valid.colon_free (h : Valid text A) : ':' ∉ text.toList := by
  obtain ⟨c, cs, htext, hc, hcs⟩ := h
  have hstart : isStart c A = true := by simpa [isStart] using hc
  rw [htext, List.mem_cons, not_or]
  constructor
  · rintro rfl
    rw [not_isStart_colon] at hstart
    cases hstart
  · intro hmem
    have hpart := hcs ':' hmem
    rw [A.not_isXidContinue_colon] at hpart
    cases hpart

end Identifier

namespace QualifiedName

/-! ## Cutting a text -/

/-- What stands between the segments of a name. -/
def separator : List Char := [':', ':']

/-- The pieces of a text between its separators, found from left to right: none starts before a
piece has ended. -/
inductive Cut : List Char → List (List Char) → Prop
  | last {piece : List Char} (h : ¬ separator <:+: piece) : Cut piece [piece]
  | next {piece rest : List Char} {pieces : List (List Char)}
      (h : ¬ separator <:+: piece ++ [':']) (hrest : Cut rest pieces) :
      Cut (piece ++ separator ++ rest) (piece :: pieces)

theorem not_infix_cons {c : Char} {cs : List Char} :
    ¬ separator <:+: c :: cs ↔ ¬ separator <+: c :: cs ∧ ¬ separator <:+: cs := by
  rw [List.infix_cons_iff, not_or]

/-- Where no separator starts, the character belongs to the first piece of the rest. -/
theorem splitSegments_cons {c : Char} {cs p : List Char} {ps : List (List Char)}
    (hc : ¬ separator <+: c :: cs) (h : splitSegments cs = p :: ps) :
    splitSegments (c :: cs) = (c :: p) :: ps := by
  rw [splitSegments]
  · rw [h]
  · rintro rest rfl rfl
    exact hc ⟨rest, rfl⟩

theorem splitSegments_of_not_infix {piece : List Char} (h : ¬ separator <:+: piece) :
    splitSegments piece = [piece] := by
  induction piece with
  | nil => rfl
  | cons c cs ih =>
    obtain ⟨hc, hcs⟩ := not_infix_cons.1 h
    exact splitSegments_cons hc (ih hcs)

theorem splitSegments_append {piece : List Char} (h : ¬ separator <:+: piece ++ [':'])
    (rest : List Char) :
    splitSegments (piece ++ separator ++ rest) = piece :: splitSegments rest := by
  induction piece with
  | nil => rfl
  | cons c cs ih =>
    obtain ⟨hc, hcs⟩ := not_infix_cons.1 h
    refine splitSegments_cons (fun hp => hc ?_) (ih hcs)
    -- a separator at `c` would end with the first colon of the next one at the latest
    have hshort : cs ++ [':'] <+: cs ++ separator ++ rest := ⟨':' :: rest, by simp [separator]⟩
    have hp : ':' :: [':'] <+: c :: (cs ++ separator ++ rest) := hp
    obtain ⟨rfl, hcolon⟩ := List.cons_prefix_cons.1 hp
    exact List.cons_prefix_cons.2
      ⟨rfl, List.prefix_of_prefix_length_le hcolon hshort (by simp)⟩

/-- **A text has exactly one cut**, and `splitSegments` finds it. -/
theorem cut_iff {cs : List Char} {pieces : List (List Char)} :
    Cut cs pieces ↔ splitSegments cs = pieces := by
  constructor
  · intro h
    induction h with
    | last h => exact splitSegments_of_not_infix h
    | next h _ ih => rw [splitSegments_append h, ih]
  · rintro rfl
    induction cs using splitSegments.induct with
    | case1 => exact .last fun h => absurd h.length_le (by decide)
    | case2 cs ih =>
      have hnone : ¬ separator <:+: [] ++ [':'] := fun h => absurd h.length_le (by decide)
      exact Cut.next hnone ih
    | case3 c cs hc hnil ih => exact absurd hnil (splitSegments_ne_nil cs)
    | case4 c cs hc p ps hcons ih =>
      have hstart : ¬ separator <+: c :: cs := by
        rintro ⟨rest, hrest⟩
        cases hrest
        exact hc rest rfl rfl
      rw [splitSegments_cons hstart hcons]
      rw [hcons] at ih
      cases ih with
      | last h => exact .last (not_infix_cons.2 ⟨hstart, h⟩)
      | @next _ rest _ h hrest =>
        have hfirst : ¬ separator <:+: c :: p ++ [':'] := not_infix_cons.2
          ⟨fun hp => hstart (hp.trans ⟨':' :: rest, by simp [separator]⟩), h⟩
        exact Cut.next hfirst hrest

example : Cut ":::a".toList [[], [':', 'a']] := cut_iff.2 (by decide)

/-! ## Writing the pieces down -/

theorem toList_joinSegments_cons (s : String) {ss : List String} (h : ss ≠ []) :
    (joinSegments (s :: ss)).toList = s.toList ++ separator ++ (joinSegments ss).toList := by
  rw [joinSegments_cons h, String.toList_append, String.toList_append]
  rfl

/-- The pieces of a text, written with separators between them, are the text. -/
theorem Cut.toList_joinSegments {cs : List Char} {pieces : List (List Char)} (h : Cut cs pieces) :
    (joinSegments (pieces.map String.ofList)).toList = cs := by
  induction h with
  | last h => simp [joinSegments]
  | @next piece rest pieces h hrest ih =>
    have hne : pieces.map String.ofList ≠ [] := by
      cases hrest <;> exact List.cons_ne_nil _ _
    rw [List.map_cons, toList_joinSegments_cons _ hne, ih, String.toList_ofList]

theorem not_infix_of_colon_free {cs : List Char} (h : ':' ∉ cs) : ¬ separator <:+: cs :=
  fun hsep => h (hsep.subset List.mem_cons_self)

/-- What is written from pieces without a colon is cut into these pieces. -/
theorem cut_joinSegments {ss : List String} (hne : ss ≠ []) (h : ∀ s ∈ ss, ':' ∉ s.toList) :
    Cut (joinSegments ss).toList (ss.map String.toList) := by
  induction ss with
  | nil => exact absurd rfl hne
  | cons s ss ih =>
    obtain ⟨hs, hss⟩ := List.forall_mem_cons.1 h
    by_cases hnil : ss = []
    · subst hnil
      exact .last (not_infix_of_colon_free hs)
    · rw [toList_joinSegments_cons s hnil]
      refine .next (fun hsep => ?_) (ih hnil hss)
      -- both colons would have to be the one after `s`
      obtain ⟨before, after, heq⟩ := hsep
      have htwo : separator.count ':' = 2 := rfl
      have hone : (s.toList ++ [':']).count ':' = 1 := by
        rw [List.count_append, List.count_eq_zero.2 hs]
        rfl
      rw [← heq, List.count_append, List.count_append, htwo] at hone
      omega

/-! ## Reading a name -/

section

variable {A : Alphabet} {segments : List String} {n : QualifiedName}

theorem ofSegments_eq_ok_iff :
    ofSegments segments A = .ok n ↔
      segments ≠ [] ∧ (∀ s ∈ segments, Identifier.Valid s A) ∧ n = ⟨segments⟩ := by
  unfold ofSegments
  by_cases hnil : segments = []
  · simp [hnil]
  · rw [if_neg (by simpa using hnil)]
    cases hfind : segments.find? fun s => !Identifier.isIdentifier s A with
    | none =>
      have hall : ∀ s ∈ segments, Identifier.Valid s A := fun s hs => by
        simpa [Identifier.isIdentifier_iff] using List.find?_eq_none.1 hfind s hs
      exact ⟨fun h => ⟨hnil, hall, (Except.ok.inj h).symm⟩, fun h => congrArg Except.ok h.2.2.symm⟩
    | some bad =>
      have hbad : ¬ Identifier.Valid bad A := by
        simpa [← Identifier.isIdentifier_iff] using List.find?_some hfind
      have hsome : ¬ ∀ s ∈ segments, Identifier.Valid s A := fun hall =>
        hbad (hall bad (List.mem_of_find?_eq_some hfind))
      simp [hsome]

/-- The first segment that is no identifier is refused, in the written form of all of them. -/
theorem exists_bad_of_ofSegments {e : NameError} (hne : segments ≠ [])
    (h : ofSegments segments A = .error e) : ∃ before bad after, segments = before ++ bad :: after ∧
      (∀ s ∈ before, Identifier.Valid s A) ∧ ¬ Identifier.Valid bad A ∧
      e = .invalidSegment bad (joinSegments segments) := by
  unfold ofSegments at h
  rw [if_neg (by simpa using hne)] at h
  cases hfind : segments.find? fun s => !Identifier.isIdentifier s A with
  | none =>
    rw [hfind] at h
    cases h
  | some bad =>
    rw [hfind] at h
    cases h
    obtain ⟨hbad, before, after, hsplit, hbefore⟩ := List.find?_eq_some_iff_append.1 hfind
    refine ⟨before, bad, after, hsplit, fun s hs => ?_, ?_, rfl⟩
    · simpa [Identifier.isIdentifier_iff] using hbefore s hs
    · simpa [← Identifier.isIdentifier_iff] using hbad

/-- A text is read by its pieces, which are its written form. -/
theorem parse_eq_ofSegments {text : String} (h : text ≠ "") {pieces : List String}
    (hcut : Cut text.toList (pieces.map String.toList)) :
    parse text A = ofSegments pieces A ∧ joinSegments pieces = text ∧ pieces ≠ [] := by
  have hpieces : (splitSegments text.toList).map String.ofList = pieces := by
    rw [cut_iff.1 hcut, List.map_map]
    exact (List.map_congr_left fun s _ => String.ofList_toList).trans (List.map_id pieces)
  have hjoin := (cut_iff.2 (rfl : splitSegments text.toList = _)).toList_joinSegments
  rw [hpieces, String.toList_inj] at hjoin
  refine ⟨?_, hjoin, ?_⟩
  · unfold parse
    rw [if_neg (by simpa using h), hpieces]
  · rintro rfl
    exact h hjoin.symm

/-- A name that was made of identifiers is read back from its written form. -/
theorem parse_text_of_ofSegments (h : ofSegments segments A = .ok n) : parse n.text A = .ok n := by
  obtain ⟨hne, hvalid, rfl⟩ := ofSegments_eq_ok_iff.1 h
  have hcut : Cut (joinSegments segments).toList (segments.map String.toList) :=
    cut_joinSegments hne fun s hs => (hvalid s hs).colon_free
  have htext : text ⟨segments⟩ ≠ "" := by
    intro hempty
    have hempty : joinSegments segments = "" := hempty
    -- the empty text is one empty piece, which is no identifier
    rw [hempty] at hcut
    have hpieces : [[]] = segments.map String.toList := cut_iff.1 hcut
    obtain ⟨s, ss, rfl⟩ := List.exists_cons_of_ne_nil hne
    obtain ⟨c, cs, hs, -⟩ := hvalid s List.mem_cons_self
    exact List.cons_ne_nil c cs (hs.symm.trans (List.cons.inj hpieces).1.symm)
  rw [(parse_eq_ofSegments htext hcut).1, h]

end

/-- **The written form of a name is faithful.** A text has one cut into pieces, and is a name exactly
if it is not empty and all pieces are identifiers; these are the segments of the name, which is
written as the text. If it is no name, the first piece that is no identifier is refused, in the
whole text. A name that was made of segments is read back from its written form, so no two of them
are written alike. -/
theorem written_form_is_faithful :
    (∀ text, ∃ pieces : List String,
      (∀ ps : List String, Cut text.toList (ps.map String.toList) ↔ ps = pieces) ∧
      ((∃ n, parse text = .ok n) ↔ text ≠ "" ∧ ∀ p ∈ pieces, Identifier.Valid p) ∧
      (∀ n, parse text = .ok n → n.segments = pieces ∧ n.text = text) ∧
      (∀ e, text ≠ "" → parse text = .error e → ∃ before bad after,
        pieces = before ++ bad :: after ∧ (∀ p ∈ before, Identifier.Valid p) ∧
        ¬ Identifier.Valid bad ∧ e = .invalidSegment bad text)) ∧
    (∀ segments n, ofSegments segments = .ok n → n.segments = segments ∧ parse n.text = .ok n) ∧
    ∀ segments segments' n n', ofSegments segments = .ok n → ofSegments segments' = .ok n' →
      n.text = n'.text → n = n' := by
  refine ⟨fun text => ?_, fun segments n h => ?_, fun segments segments' n n' h h' htext => ?_⟩
  · let pieces := (splitSegments text.toList).map String.ofList
    have hback : pieces.map String.toList = splitSegments text.toList := by
      rw [List.map_map]
      exact (List.map_congr_left fun p _ => String.toList_ofList).trans (List.map_id _)
    have hcut : Cut text.toList (pieces.map String.toList) := cut_iff.2 hback.symm
    refine ⟨pieces, fun ps => ?_, ?_, fun n hn => ?_, fun e hne he => ?_⟩
    · have hinj : Function.Injective (List.map String.toList) :=
        List.map_injective_iff.2 fun _ _ => String.toList_injective
      rw [cut_iff, ← hback]
      exact ⟨fun h => (hinj h).symm, fun h => h ▸ rfl⟩
    · by_cases hne : text = ""
      · subst hne
        simp [parse]
      · obtain ⟨hparse, -, hnil⟩ := parse_eq_ofSegments (A := .unicode) hne hcut
        simp only [hparse, ofSegments_eq_ok_iff]
        exact ⟨fun ⟨n, _, hvalid, _⟩ => ⟨hne, hvalid⟩, fun ⟨_, hvalid⟩ => ⟨_, hnil, hvalid, rfl⟩⟩
    · have hne : text ≠ "" := by
        rintro rfl
        cases hn
      obtain ⟨hparse, hjoin, -⟩ := parse_eq_ofSegments hne hcut
      obtain ⟨-, -, rfl⟩ := ofSegments_eq_ok_iff.1 (hparse.symm.trans hn)
      exact ⟨rfl, hjoin⟩
    · obtain ⟨hparse, hjoin, hnil⟩ := parse_eq_ofSegments hne hcut
      obtain ⟨before, bad, after, hsplit, hbefore, hbad, rfl⟩ :=
        exists_bad_of_ofSegments hnil (hparse.symm.trans he)
      exact ⟨before, bad, after, hsplit, hbefore, hbad, by rw [hjoin]⟩
  · obtain ⟨-, -, rfl⟩ := ofSegments_eq_ok_iff.1 h
    exact ⟨rfl, parse_text_of_ofSegments h⟩
  · have hback := parse_text_of_ofSegments h
    rw [htext, parse_text_of_ofSegments h'] at hback
    exact (Except.ok.inj hback).symm

end QualifiedName

end NameScope
