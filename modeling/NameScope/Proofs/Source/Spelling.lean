import Mathlib.Logic.Relation
import NameScope.Source.Path

/-!
# Spellings of one path

Paths are compared by their parts. Which spellings that identifies is said here apart from the
function that cuts a path: a part `.` after a slash may be left out, two slashes in a row may be
one, and a slash at the end may go, unless it is the whole path. These are the steps of
`Respelling`, and two paths have the same parts exactly if such steps, taken in either direction,
lead from one to the other. All other spellings are kept apart: a `..` is not resolved, and a `.`
that opens a path stays.

* one step: the parts stay (`Respelling.parts_eq`);
* any path: it is a respelling of its parts with a slash after each (`respells_written`), which is
  seen by going through its pieces from left to right.

**Results.** * `ofPath_eq_iff`: paths have equal parts exactly if they are respellings of each other.
-/
namespace NameScope.PathPart

/-- One way to leave out what does not count in a path. -/
inductive Respelling : List Char → List Char → Prop
  | dot (before after : List Char) :
      Respelling (before ++ '/' :: '.' :: '/' :: after) (before ++ '/' :: after)
  | dotAtEnd (before : List Char) : Respelling (before ++ ['/', '.']) (before ++ ['/'])
  | slashes (before after : List Char) :
      Respelling (before ++ '/' :: '/' :: after) (before ++ '/' :: after)
  | trailing (before : List Char) (h : before ≠ []) : Respelling (before ++ ['/']) before

/-- Steps in either direction lead from one path to the other. -/
def Respells : List Char → List Char → Prop := Relation.EqvGen Respelling

/-! ## Pieces -/

theorem pieces_ne_nil (cs : List Char) : pieces cs ≠ [] := by
  fun_cases pieces cs <;> simp

theorem pieces_append_slash (before after : List Char) :
    pieces (before ++ '/' :: after) = pieces before ++ pieces after := by
  induction before with
  | nil => simp [pieces]
  | cons c cs ih =>
    rw [List.cons_append, pieces, pieces, ih]
    split
    · rfl
    · obtain ⟨p, ps, hps⟩ := List.exists_cons_of_ne_nil (pieces_ne_nil cs)
      rw [hps]
      rfl

/-- The pieces of a path with slashes between them are the path. -/
theorem pieces_joined {cs p : List Char} {ps : List (List Char)} (h : pieces cs = p :: ps) :
    p ++ ps.flatMap ('/' :: ·) = cs := by
  induction cs generalizing p ps with
  | nil =>
    cases h
    rfl
  | cons c cs ih =>
    obtain ⟨q, qs, hqs⟩ := List.exists_cons_of_ne_nil (pieces_ne_nil cs)
    rw [pieces, hqs] at h
    split at h
    · rename_i hc
      cases h
      rw [hc, List.flatMap_cons, List.cons_append, ih hqs]
      rfl
    · cases h
      rw [List.cons_append, ih hqs]

/-! ## One step -/

/-- The parts of a path, given by its characters. -/
def parts (cs : List Char) : List PathPart := ofPath (String.ofList cs)

/-- The part that the first piece of a path stands for. If it is empty, a slash opens the path. -/
def opening (p : List Char) : PathPart :=
  if p = [] then .root else if p = ['.'] then .here else .name (String.ofList p)

theorem parts_of_pieces {cs p : List Char} {ps : List (List Char)} (hcs : cs ≠ [])
    (h : pieces cs = p :: ps) : parts cs = opening p :: ps.filterMap named? := by
  unfold parts ofPath
  rw [String.toList_ofList]
  split
  · cases h
    rfl
  · rename_i hslash
    rw [h]
    split
    · rename_i heq
      cases heq
      rfl
    · rename_i hdot
      have hp : p ≠ [] := by
        rintro rfl
        cases ps with
        | nil => exact hcs (pieces_joined h).symm
        | cons q qs => exact hslash _ (pieces_joined h).symm
      have hdot : p ≠ ['.'] := fun he => hdot ps (by rw [he])
      simp [opening, named?, hp, hdot]

/-- A slash after nothing is the root. -/
theorem parts_append_slash (before after : List Char) :
    parts (before ++ '/' :: after) =
      (if before = [] then [.root] else parts before) ++ (pieces after).filterMap named? := by
  obtain ⟨p, ps, hps⟩ := List.exists_cons_of_ne_nil (pieces_ne_nil before)
  have hboth : pieces (before ++ '/' :: after) = p :: (ps ++ pieces after) := by
    rw [pieces_append_slash, hps]
    rfl
  rw [parts_of_pieces (by simp) hboth, List.filterMap_append]
  split
  · rename_i hempty
    subst hempty
    cases hps
    rfl
  · rename_i hne
    rw [parts_of_pieces hne hps]
    rfl

theorem Respelling.parts_eq {cs cs' : List Char} (h : Respelling cs cs') :
    parts cs = parts cs' := by
  cases h with
  | dot before after =>
    rw [parts_append_slash, parts_append_slash]
    rfl
  | dotAtEnd before =>
    rw [parts_append_slash, parts_append_slash]
    rfl
  | slashes before after =>
    rw [parts_append_slash, parts_append_slash]
    rfl
  | trailing before h =>
    rw [parts_append_slash, if_neg h]
    exact List.append_nil _

theorem Respells.parts_eq {cs cs' : List Char} (h : Respells cs cs') : parts cs = parts cs' := by
  induction h with
  | rel _ _ h => exact h.parts_eq
  | refl _ => rfl
  | symm _ _ _ ih => exact ih.symm
  | trans _ _ _ _ _ ih ih' => exact ih.trans ih'

/-! ## One spelling of all that have the same parts -/

/-- The piece that a part is written as. -/
def piece : PathPart → List Char
  | .root => []
  | .here => ['.']
  | .name text => text.toList

/-- The parts with a slash after each. -/
def written (ps : List PathPart) : List Char := ps.flatMap fun p => p.piece ++ ['/']

theorem piece_opening (p : List Char) : (opening p).piece = p := by
  unfold opening
  split
  · rename_i hp
    exact hp.symm
  · split
    · rename_i hdot
      exact hdot.symm
    · exact String.toList_ofList

/-- Of the pieces after the first, empty ones and `.` may be left out. -/
theorem respells_pieces (before : List Char) (ps : List (List Char)) :
    Respells (before ++ ps.flatMap ('/' :: ·) ++ ['/'])
      (before ++ '/' :: written (ps.filterMap named?)) := by
  induction ps generalizing before with
  | nil =>
    rw [List.flatMap_nil, List.append_nil]
    exact .refl _
  | cons p ps ih =>
    have hrest := ih (before ++ '/' :: p)
    have hassoc : before ++ (p :: ps).flatMap ('/' :: ·) ++ ['/'] =
        before ++ '/' :: p ++ ps.flatMap ('/' :: ·) ++ ['/'] := by
      simp
    rw [hassoc]
    refine .trans _ _ _ hrest ?_
    by_cases hp : p = [] ∨ p = ['.']
    · have hnone : named? p = none := if_pos hp
      rw [List.filterMap_cons_none hnone]
      rcases hp with rfl | rfl
      · have hstep := Respelling.slashes before (written (ps.filterMap named?))
        simpa using Relation.EqvGen.rel _ _ hstep
      · have hstep := Respelling.dot before (written (ps.filterMap named?))
        simpa using Relation.EqvGen.rel _ _ hstep
    · have hname : named? p = some (.name (String.ofList p)) := if_neg hp
      rw [List.filterMap_cons_some hname]
      have hpart : written (.name (String.ofList p) :: ps.filterMap named?) =
          p ++ '/' :: written (ps.filterMap named?) := by
        simp [written, piece]
      rw [hpart]
      simpa using Relation.EqvGen.refl _

theorem respells_written (cs : List Char) : Respells cs (written (parts cs)) := by
  obtain ⟨p, ps, hps⟩ := List.exists_cons_of_ne_nil (pieces_ne_nil cs)
  by_cases hcs : cs = []
  · subst hcs
    exact .refl _
  · have hslash : Respells cs (cs ++ ['/']) := .symm _ _ (.rel _ _ (.trailing cs hcs))
    have hrest := respells_pieces p ps
    have hwritten : written (parts cs) = p ++ '/' :: written (ps.filterMap named?) := by
      rw [parts_of_pieces hcs hps]
      simp [written, piece_opening]
    rw [pieces_joined hps, ← hwritten] at hrest
    exact hslash.trans _ _ _ hrest

/-- **Paths have equal parts exactly if they are respellings of each other.** -/
theorem ofPath_eq_iff (path path' : String) :
    ofPath path = ofPath path' ↔ Respells path.toList path'.toList := by
  have hparts : ∀ path, parts path.toList = ofPath path := fun path => by
    rw [parts, String.ofList_toList]
  rw [← hparts, ← hparts]
  refine ⟨fun h => ?_, Respells.parts_eq⟩
  have hback := respells_written path'.toList
  rw [← h] at hback
  exact .trans _ _ _ (respells_written path.toList) (.symm _ _ hback)

example : Respells "/a/./b//c/.".toList "//a/b/c".toList := (ofPath_eq_iff _ _).1 (by decide)

-- both would name one file if `..` were resolved
example : ¬ Respells "a/../b".toList "b".toList := fun h =>
  absurd ((ofPath_eq_iff _ _).2 h) (by decide)

end NameScope.PathPart
