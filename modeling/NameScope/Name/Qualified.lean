import NameScope.Name.Identifier

/-!
# Qualified names

A qualified name is a list of segments, written with `::` between them. `parse` and `ofSegments`
accept identifiers only; `append` takes any text, since a declared name is not checked.

**Results.** * `text_append`: how the written form grows; * `splitSegments_ne_nil`.
-/
namespace NameScope

/-- Why a text or a list of segments is no qualified name. -/
inductive NameError where
  | empty
  /-- The first segment of `name` that is no identifier. -/
  | invalidSegment (segment : String) (name : String)
  deriving DecidableEq, Repr

def NameError.message : NameError → String
  | .empty => "a qualified name needs at least one segment"
  | .invalidSegment segment name =>
    "'" ++ segment ++ "' is not a valid identifier in '" ++ name ++ "'"

/-- A path such as `std::entity::spawn`. -/
structure QualifiedName where
  segments : List String
  deriving DecidableEq, Repr, Inhabited

namespace QualifiedName

/-- The texts with `::` between them. -/
def joinSegments : List String → String
  | [] => ""
  | [s] => s
  | s :: ss => s ++ "::" ++ joinSegments ss

/-- The pieces of a text between its `::`, found from left to right. -/
def splitSegments : List Char → List (List Char)
  | [] => [[]]
  | ':' :: ':' :: cs => [] :: splitSegments cs
  | c :: cs =>
    match splitSegments cs with
    | [] => [[c]]
    | p :: ps => (c :: p) :: ps

/-- The written form. -/
def text (n : QualifiedName) : String := joinSegments n.segments

/-- The written form inside its type's name. -/
def debugText (n : QualifiedName) : String := "QualifiedName(" ++ n.text ++ ")"

/-- The name with these segments, which must be one or more identifiers. -/
def ofSegments (segments : List String) (A : Alphabet := .unicode) :
    Except NameError QualifiedName :=
  if segments.isEmpty then .error .empty
  else
    match segments.find? fun s => !Identifier.isIdentifier s A with
    | some bad => .error (.invalidSegment bad (joinSegments segments))
    | none => .ok ⟨segments⟩

/-- Reads the written form. -/
def parse (text : String) (A : Alphabet := .unicode) : Except NameError QualifiedName :=
  if text.isEmpty then .error .empty
  else ofSegments ((splitSegments text.toList).map String.ofList) A

/-- The name with one more segment, whatever its text. -/
def append (n : QualifiedName) (segment : String) : QualifiedName := ⟨n.segments ++ [segment]⟩

/-- The last segment; the empty text if there is none. -/
def last (n : QualifiedName) : String := n.segments.getLast?.getD ""

/-- The number of segments. -/
def length (n : QualifiedName) : Nat := n.segments.length

/-- A name has a segment. -/
def isEmpty (_ : QualifiedName) : Bool := false

/-- The only segment, if there is exactly one. -/
def simple? (n : QualifiedName) : Option String :=
  match n.segments with
  | [s] => some s
  | _ => none

/-- Whether the segments of `written` close those of `full`. -/
def isSuffixOf (written full : QualifiedName) : Bool := written.segments.isSuffixOf full.segments

/-- By segments, each by its code points. -/
instance : Ord QualifiedName := ⟨fun a b => List.compareLex compare a.segments b.segments⟩

@[simp] theorem segments_append (n : QualifiedName) (s : String) :
    (n.append s).segments = n.segments ++ [s] := rfl

@[simp] theorem last_append (n : QualifiedName) (s : String) : (n.append s).last = s := by
  simp [last]

theorem joinSegments_cons {s : String} {ss : List String} (h : ss ≠ []) :
    joinSegments (s :: ss) = s ++ "::" ++ joinSegments ss := by
  cases ss with
  | nil => exact absurd rfl h
  | cons t ts => rfl

theorem joinSegments_append_singleton {ss : List String} (h : ss ≠ []) (s : String) :
    joinSegments (ss ++ [s]) = joinSegments ss ++ "::" ++ s := by
  induction ss with
  | nil => exact absurd rfl h
  | cons t ts ih =>
    by_cases ht : ts = []
    · subst ht; rfl
    · rw [List.cons_append, joinSegments_cons (by simp), joinSegments_cons ht, ih ht]
      simp only [String.append_assoc]

theorem text_append {n : QualifiedName} (h : n.segments ≠ []) (s : String) :
    (n.append s).text = n.text ++ "::" ++ s := joinSegments_append_singleton h s

theorem splitSegments_ne_nil (cs : List Char) : splitSegments cs ≠ [] := by
  fun_cases splitSegments cs <;> simp_all

theorem isSuffixOf_iff (written full : QualifiedName) :
    written.isSuffixOf full = true ↔ written.segments <:+ full.segments := by
  simp [isSuffixOf]

end QualifiedName

end NameScope
