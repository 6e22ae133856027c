import NameScope.Source.FileSet

/-!
# How long a file has its path

A file has the path that its number was given for until it is forgotten, and none before and after:
numbers are given in order (`FileSet.Issued`), so that a number that was given once is not given to
another path. `Evolves` says what may happen to a file set between two moments, whatever was
registered and forgotten; the files that were forgotten are listed.

* one step: `evolves_register`, `evolves_forget`;
* a run: `Evolves.trans`.
-/
namespace NameScope

namespace FileSet

/-- The number of the file was given to a path at some time. -/
def Issued (s : FileSet) (file : FileId) : Prop := file.index < s.next

instance (s : FileSet) (file : FileId) : Decidable (s.Issued file) :=
  inferInstanceAs (Decidable (file.index < s.next))

/-- Only numbers that were given have a path. -/
def Counted (s : FileSet) : Prop := ∀ file path, s.path? file = some path → s.Issued file

theorem counted_empty : empty.Counted := fun _ _ h => nomatch h

theorem Counted.path?_eq_none {s : FileSet} (h : s.Counted) {file : FileId}
    (hfile : ¬ s.Issued file) : s.path? file = none := by
  cases hpath : s.path? file with
  | none => rfl
  | some path => exact absurd (h file path hpath) hfile

/-- All that `register?` can do: find the path, or number it. -/
theorem register?_cases {s s' : FileSet} {path : String} {id : FileId}
    (h : s.register? path = some (id, s')) :
    (s.ids.get? (PathPart.ofPath path) = some id ∧ s' = s) ∨
    (s.ids.get? (PathPart.ofPath path) = none ∧ s.next.toNat + 1 < UInt32.size ∧ id = ⟨s.next⟩ ∧
      s' = ⟨s.ids.insert (PathPart.ofPath path) id, s.paths.insert id path, s.next + 1⟩) := by
  unfold register? at h
  simp only at h
  cases hget : s.ids.get? (PathPart.ofPath path) with
  | some known =>
    rw [hget] at h
    cases h
    exact .inl ⟨rfl, rfl⟩
  | none =>
    rw [hget] at h
    simp only at h
    split at h
    · rename_i hnext
      cases h
      exact .inr ⟨rfl, hnext, rfl, rfl⟩
    · cases h

theorem path?_forget (s : FileSet) (forgotten file : FileId) :
    (s.forget forgotten).path? file = if forgotten = file then none else s.path? file := by
  unfold forget
  cases hget : s.paths.get? forgotten with
  | none =>
    by_cases he : forgotten = file
    · rw [if_pos he, ← he]
      exact hget
    · rw [if_neg he]
  | some path => exact s.paths.get?_swapErase forgotten file

theorem next_forget (s : FileSet) (file : FileId) : (s.forget file).next = s.next := by
  unfold forget
  split <;> rfl

/-! ## Between two moments -/

/-- What became of `s` while the files of `forgotten` were forgotten. -/
structure Evolves (forgotten : List FileId) (s s' : FileSet) : Prop where
  issued : ∀ file, s.Issued file → s'.Issued file
  counted : s.Counted → s'.Counted
  gone : ∀ file, s.Issued file → file ∈ forgotten → s'.path? file = none
  stays : ∀ file, s.Issued file → file ∉ forgotten → s'.path? file = s.path? file

theorem Evolves.refl (s : FileSet) : Evolves [] s s :=
  ⟨fun _ h => h, id, fun _ _ h => (nomatch h), fun _ _ _ => rfl⟩

theorem Evolves.trans {forgotten forgotten' : List FileId} {s s' s'' : FileSet}
    (h : Evolves forgotten s s') (h' : Evolves forgotten' s' s'') :
    Evolves (forgotten ++ forgotten') s s'' where
  issued file hfile := h'.issued file (h.issued file hfile)
  counted hs := h'.counted (h.counted hs)
  gone file hfile hmem := by
    have hissued := h.issued file hfile
    by_cases hlater : file ∈ forgotten'
    · exact h'.gone file hissued hlater
    · rw [h'.stays file hissued hlater]
      exact h.gone file hfile ((List.mem_append.1 hmem).resolve_right hlater)
  stays file hfile hmem := by
    rw [List.mem_append, not_or] at hmem
    rw [h'.stays file (h.issued file hfile) hmem.2, h.stays file hfile hmem.1]

theorem evolves_forget (s : FileSet) (file : FileId) : Evolves [file] s (s.forget file) where
  issued other h := by
    unfold Issued
    rwa [s.next_forget]
  counted h other path hpath := by
    rw [s.path?_forget] at hpath
    split at hpath
    · cases hpath
    · unfold Issued
      rw [s.next_forget]
      exact h other path hpath
  gone other _ hmem := by
    rw [s.path?_forget, if_pos (List.mem_singleton.1 hmem).symm]
  stays other _ hmem := by
    rw [s.path?_forget, if_neg fun he => hmem (List.mem_singleton.2 he.symm)]

theorem evolves_register {s s' : FileSet} {path : String} {id : FileId}
    (h : s.register? path = some (id, s')) : Evolves [] s s' := by
  obtain ⟨-, rfl⟩ | ⟨-, hnext, rfl, rfl⟩ := register?_cases h
  · exact .refl s'
  · -- the number is new, so no file that has one is touched
    have hlt : s.next < s.next + 1 := by
      rw [UInt32.lt_iff_toNat_lt, UInt32.toNat_add]
      have hone : (1 : UInt32).toNat = 1 := rfl
      have hsize : UInt32.size = 2 ^ 32 := rfl
      omega
    have hissued : ∀ file, s.Issued file → file.index < s.next + 1 := fun file hfile =>
      UInt32.lt_trans hfile hlt
    have hpath : ∀ file, (s.paths.insert ⟨s.next⟩ path).get? file =
        if ⟨s.next⟩ = file then some path else s.path? file := fun file =>
      s.paths.get?_insert ⟨s.next⟩ file path
    refine ⟨hissued, fun hs file p hp => ?_, fun _ _ h => (nomatch h), fun file hfile _ => ?_⟩
    · have hp : (s.paths.insert ⟨s.next⟩ path).get? file = some p := hp
      rw [hpath] at hp
      split at hp
      · rename_i he
        rw [← he]
        exact hlt
      · exact hissued file (hs file p hp)
    · have hne : (⟨s.next⟩ : FileId) ≠ file := by
        rintro rfl
        exact UInt32.lt_irrefl s.next hfile
      exact (hpath file).trans (if_neg hne)

end FileSet

end NameScope
