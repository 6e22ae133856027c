import Mathlib.Data.List.Sort
import NameScope.Proofs.Source.FileNumbers

/-!
# The listing of the files

Numbers count up, so files are listed in the order in which they got their numbers as long as each
new one comes last (`FileSet.Ordered`). Forgetting a file moves the last one into its place. That
keeps the order if the file was the last or the last but one, and breaks it otherwise, since the
moved file then stands before one with a lower number.

* one call: `FileSet.ordered_register`, `FileSet.ordered_forget_iff`;
* a run: `FileSet.ordered_run_iff`.

**Results.**
* `FileSet.listing_is_ordered_unless_early_file_is_forgotten`: the listing has the files that have
  a path, each once, and is in order all through a run exactly if no file is forgotten that has two
  others behind it;
* `FileSet.last_file_takes_first_place`: of three files the first is forgotten.
-/
namespace NameScope

namespace FileSet

/-- Every number is higher than those before it. -/
def Increasing (files : List FileId) : Prop := files.Pairwise fun a b => a.index < b.index

instance (files : List FileId) : Decidable (Increasing files) :=
  inferInstanceAs (Decidable (files.Pairwise fun a b => a.index < b.index))

/-- Files are listed in the order of their numbers. -/
def Ordered (s : FileSet) : Prop := Increasing s.files

instance (s : FileSet) : Decidable s.Ordered := inferInstanceAs (Decidable (Increasing s.files))

/-- The file is listed before two others at least. -/
def Early (s : FileSet) (file : FileId) : Prop := file ∈ s.files.dropLast.dropLast

instance (s : FileSet) (file : FileId) : Decidable (s.Early file) :=
  inferInstanceAs (Decidable (file ∈ s.files.dropLast.dropLast))

theorem increasing_concat {files : List FileId} {last : FileId} :
    Increasing (files ++ [last]) ↔
      Increasing files ∧ ∀ file ∈ files, file.index < last.index := by
  unfold Increasing
  simp [List.pairwise_append]

theorem mem_files_iff (s : FileSet) (file : FileId) :
    file ∈ s.files ↔ ∃ path, s.path? file = some path := by
  rw [← Option.ne_none_iff_exists', path?, Ne, OrderedMap.get?_eq_none_iff, not_not]
  rfl

/-! ## One call -/

theorem files_number {log : List Event} {s : FileSet} (h : Follows log s) (path : String) :
    (s.number path).files = s.files ++ [⟨s.next⟩] := by
  have hnew : (⟨s.next⟩ : FileId) ∉ s.paths.keys :=
    (s.paths.get?_eq_none_iff ⟨s.next⟩).1 h.path?_next
  exact (s.paths.keys_insert ⟨s.next⟩ path).trans (if_neg hnew)

/-- A new file comes last, and all others have lower numbers. -/
theorem ordered_register {log : List Event} {s s' : FileSet} {path : String} {file : FileId}
    (h : Follows log s) (hs : s.Ordered) (hregister : s.register? path = some (file, s')) :
    s'.Ordered := by
  obtain ⟨-, rfl⟩ | ⟨-, -, rfl, rfl⟩ := register?_cases hregister
  · exact hs
  · have hfiles : (s.number path).files = s.files ++ [⟨s.next⟩] := files_number h path
    have hall : ∀ other ∈ s.files, other.index < s.next := fun other hother => by
      obtain ⟨known, hknown⟩ := (s.mem_files_iff other).1 hother
      exact h.issued_of_path hknown
    change Increasing (s.number path).files
    rw [hfiles]
    exact increasing_concat.2 ⟨hs, hall⟩

theorem files_forget (s : FileSet) (file : FileId) :
    (s.forget file).files = (s.paths.swapErase file).keys := by
  unfold forget
  cases hpath : s.paths.get? file with
  | none =>
    rw [OrderedMap.swapErase_of_not_mem ((s.paths.get?_eq_none_iff file).1 hpath)]
    rfl
  | some path => rfl

/-- The last file takes the place of another one: that keeps the order only if nothing is left
behind it. -/
theorem increasing_moved_iff {before mid : List FileId} {file last : FileId}
    (h : Increasing (before ++ file :: (mid ++ [last]))) :
    Increasing (before ++ last :: mid) ↔ mid = [] := by
  unfold Increasing at *
  obtain ⟨hfirst, hrest, hcross⟩ := List.pairwise_append.1 h
  constructor
  · intro hmoved
    refine List.eq_nil_iff_forall_not_mem.2 fun next hnext => ?_
    have hlt : next.index < last.index :=
      (List.pairwise_append.1 (List.pairwise_cons.1 hrest).2).2.2 next hnext last
        (List.mem_singleton_self last)
    have hgt : last.index < next.index :=
      (List.pairwise_cons.1 (List.pairwise_append.1 hmoved).2.1).1 next hnext
    exact UInt32.lt_asymm hlt hgt
  · rintro rfl
    refine List.pairwise_append.2 ⟨hfirst, List.pairwise_singleton _ _, ?_⟩
    intro other hother moved hmoved
    exact hcross other hother moved (List.mem_cons_of_mem _ hmoved)

theorem not_mem_before {s : FileSet} {before after : List FileId} {file : FileId}
    (hfiles : s.files = before ++ file :: after) : file ∉ before := by
  have hnodup : s.files.Nodup := s.paths.nodup_keys
  rw [hfiles] at hnodup
  exact fun h => (List.nodup_append.1 hnodup).2.2 file h file List.mem_cons_self rfl

theorem early_iff {s : FileSet} {before mid : List FileId} {file last : FileId}
    (hfiles : s.files = before ++ file :: (mid ++ [last])) : s.Early file ↔ mid ≠ [] := by
  unfold Early
  rw [hfiles, ← List.cons_append, ← List.append_assoc, List.dropLast_concat]
  obtain rfl | ⟨mid, next, rfl⟩ := mid.eq_nil_or_concat'
  · rw [List.dropLast_concat]
    exact iff_of_false (not_mem_before hfiles) (not_not.2 rfl)
  · rw [← List.cons_append, ← List.append_assoc, List.dropLast_concat]
    exact iff_of_true (List.mem_append_right before List.mem_cons_self) (by simp)

/-- Forgetting keeps the order unless two files stand behind the forgotten one. -/
theorem ordered_forget_iff {s : FileSet} (hs : s.Ordered) (file : FileId) :
    (s.forget file).Ordered ↔ ¬ s.Early file := by
  unfold Ordered at *
  rw [files_forget]
  by_cases hmem : file ∈ s.files
  · obtain ⟨before, after, hfiles⟩ := List.append_of_mem hmem
    obtain rfl | ⟨mid, last, rfl⟩ := after.eq_nil_or_concat'
    · -- the last file
      have hnot := not_mem_before hfiles
      rw [hfiles] at hs
      rw [OrderedMap.keys_swapErase_last hfiles, Early, hfiles, List.dropLast_concat]
      exact iff_of_true (increasing_concat.1 hs).1 fun hearly =>
        hnot (List.dropLast_subset _ hearly)
    · rw [hfiles] at hs
      rw [OrderedMap.keys_swapErase_moved hfiles, increasing_moved_iff hs, early_iff hfiles,
        not_not]
  · rw [OrderedMap.swapErase_of_not_mem hmem]
    refine iff_of_true hs fun hearly => hmem ?_
    exact List.dropLast_subset _ (List.dropLast_subset _ hearly)

/-! ## The order of the numbers -/

theorem increasing_fresh_step {log : List Event} {s s' : FileSet} {call : Call} {event : Event}
    (h : Follows log s) (hfresh : Increasing (fresh log))
    (hstep : s.step? call = some (event, s')) :
    Increasing (fresh (log ++ [event])) := by
  cases call with
  | forget file =>
    cases hstep
    rwa [fresh_forgot]
  | register path =>
    obtain ⟨⟨file, s'⟩, hregister, hs⟩ := Option.map_eq_some_iff.1 hstep
    cases hs
    rw [fresh_given]
    split
    · exact hfresh
    · rename_i hnew
      obtain ⟨hget, -⟩ | ⟨-, -, rfl, -⟩ := register?_cases hregister
      · obtain ⟨first, hpath, -⟩ := (h.ids_iff _ file).1 hget
        exact absurd ((h.path_iff file first).1 hpath).returned hnew
      · refine increasing_concat.2 ⟨hfresh, fun old hold => ?_⟩
        exact (h.issued_iff old).2 (List.mem_eraseDups.1 hold)

/-- Numbers are assigned in increasing order. -/
theorem increasing_fresh_run (calls : List Call) {log log' : List Event} {s s' : FileSet}
    (h : Follows log s) (hfresh : Increasing (fresh log))
    (hrun : run? log s calls = some (log', s')) :
    Increasing (fresh log') := by
  induction calls generalizing log s with
  | nil =>
    cases hrun
    exact hfresh
  | cons call calls ih =>
    unfold run? at hrun
    split at hrun
    · cases hrun
    · rename_i hstep
      exact ih (follows_step h hstep) (increasing_fresh_step h hfresh hstep) hrun

theorem ordered_iff_sublist {log : List Event} {s : FileSet} (h : Follows log s)
    (hfresh : Increasing (fresh log)) :
    s.Ordered ↔ s.files.Sublist (fresh log) := by
  constructor
  · intro hs
    have hanti : Std.Antisymm fun a b : FileId => a.index < b.index :=
      ⟨fun _ _ hab hba => absurd hba (UInt32.lt_asymm hab)⟩
    have hsub : s.files ⊆ fresh log := fun file hfile => by
      obtain ⟨path, hpath⟩ := (s.mem_files_iff file).1 hfile
      exact List.mem_eraseDups.2 ((h.path_iff file path).1 hpath).returned
    exact List.sublist_of_subperm_of_pairwise
      (List.subperm_of_subset s.paths.nodup_keys hsub) hs hfresh
  · exact fun hsub => List.Pairwise.sublist hsub hfresh

/-! ## A run -/

/-- What the first `n` calls make of an empty file set. -/
def after? (calls : List Call) (n : Nat) : Option (List Event × FileSet) :=
  run? [] empty (calls.take n)

theorem run?_concat (calls : List Call) (call : Call) (log : List Event) (s : FileSet) :
    run? log s (calls ++ [call]) = (run? log s calls).bind fun (log', s') =>
      (s'.step? call).map fun (event, s'') => (log' ++ [event], s'') := by
  induction calls generalizing log s with
  | nil =>
    simp only [List.nil_append, run?, Option.bind_some]
    cases s.step? call <;> rfl
  | cons first calls ih =>
    simp only [List.cons_append, run?]
    cases s.step? first with
    | none => rfl
    | some result => exact ih _ _

theorem after?_succ {calls : List Call} {n : Nat} {call : Call} (h : calls[n]? = some call) :
    after? calls (n + 1) = (after? calls n).bind fun (log, s) =>
      (s.step? call).map fun (event, s') => (log ++ [event], s') := by
  unfold after?
  rw [List.take_add_one, h, Option.toList_some, run?_concat]

theorem after?_succ_of_none {calls : List Call} {n : Nat} (h : calls[n]? = none) :
    after? calls (n + 1) = after? calls n := by
  unfold after?
  rw [List.take_add_one, h, Option.toList_none, List.append_nil]

/-- Nothing but a new path stops a run, when all numbers but one were assigned. -/
theorem exists_of_after?_eq_none {calls : List Call} {n : Nat} (h : after? calls n = none) :
    ∃ m path log s, m < n ∧ calls[m]? = some (.register path) ∧ after? calls m = some (log, s) ∧
      (fresh log).length + 1 = UInt32.size := by
  induction n with
  | zero => cases h
  | succ n ih =>
    cases hbefore : after? calls n with
    | none =>
      obtain ⟨m, path, log, s, hm, hrest⟩ := ih hbefore
      exact ⟨m, path, log, s, Nat.lt_succ_of_lt hm, hrest⟩
    | some result =>
      obtain ⟨log, s⟩ := result
      cases hcall : calls[n]? with
      | none =>
        rw [after?_succ_of_none hcall, hbefore] at h
        cases h
      | some call =>
        rw [after?_succ hcall, hbefore, Option.bind_some] at h
        have hstep : s.step? call = none := Option.map_eq_none_iff.1 h
        cases call with
        | forget file => cases hstep
        | register path =>
          have hfollows := follows_run _ follows_empty hbefore
          obtain ⟨-, hlast⟩ := hfollows.register?_eq_none (Option.map_eq_none_iff.1 hstep)
          exact ⟨n, path, log, s, Nat.lt_succ_self n, hcall, hbefore, hlast⟩

/-- The listing is in order at every moment of a run exactly if none of its calls forgets a file
that is listed before two others. -/
theorem ordered_run_iff (calls : List Call) :
    (∀ n log s, after? calls n = some (log, s) → s.Ordered) ↔
      ∀ n file log s, calls[n]? = some (.forget file) → after? calls n = some (log, s) →
        ¬ s.Early file := by
  constructor
  · intro hordered n file log s hcall hrun
    have hnext : after? calls (n + 1) = some (log ++ [.forgot file], s.forget file) := by
      rw [after?_succ hcall, hrun]
      rfl
    exact (ordered_forget_iff (hordered n log s hrun) file).1 (hordered (n + 1) _ _ hnext)
  · intro hlate n
    induction n with
    | zero =>
      rintro log s ⟨⟩
      exact List.Pairwise.nil
    | succ n ih =>
      intro log' s' hrun
      cases hcall : calls[n]? with
      | none =>
        rw [after?_succ_of_none hcall] at hrun
        exact ih log' s' hrun
      | some call =>
        rw [after?_succ hcall] at hrun
        obtain ⟨⟨log, s⟩, hbefore, hrun⟩ := Option.bind_eq_some_iff.1 hrun
        obtain ⟨⟨event, next⟩, hstep, hrun⟩ := Option.map_eq_some_iff.1 hrun
        cases hrun
        have hs := ih log s hbefore
        cases call with
        | forget file =>
          cases hstep
          exact (ordered_forget_iff hs file).2 (hlate n file log s hcall hbefore)
        | register path =>
          obtain ⟨⟨file, next⟩, hregister, hs'⟩ := Option.map_eq_some_iff.1 hstep
          cases hs'
          exact ordered_register (follows_run _ follows_empty hbefore) hs hregister

/-- At every moment of a run, which goes on while there are numbers, the listing has the files that
have a path, each once. It is in order if it is what is left of all numbers in the order in which
they were assigned, and that is so at every moment exactly if no file is forgotten that is listed
before two others. -/
theorem listing_is_ordered_unless_early_file_is_forgotten (calls : List Call) :
    (∀ n, after? calls n = none →
      ∃ m path log s, m < n ∧ calls[m]? = some (.register path) ∧ after? calls m = some (log, s) ∧
        (fresh log).length + 1 = UInt32.size) ∧
    (∀ n log s, after? calls n = some (log, s) →
      s.files.Nodup ∧ (∀ file, file ∈ s.files ↔ ∃ path, Names log file path) ∧
      (s.Ordered ↔ s.files.Sublist (fresh log))) ∧
    ((∀ n log s, after? calls n = some (log, s) → s.Ordered) ↔
      ∀ n file log s, calls[n]? = some (.forget file) → after? calls n = some (log, s) →
        ¬ s.Early file) := by
  refine ⟨fun n => exists_of_after?_eq_none, fun n log s hrun => ?_, ordered_run_iff calls⟩
  have hfollows := follows_run _ follows_empty hrun
  have hfresh := increasing_fresh_run _ follows_empty List.Pairwise.nil hrun
  refine ⟨s.paths.nodup_keys, fun file => ?_, ordered_iff_sublist hfollows hfresh⟩
  rw [mem_files_iff]
  exact exists_congr fun path => hfollows.path_iff file path

/-- Forgetting the last but one and an unknown file keeps the order. -/
theorem listing_is_ordered_without_file_before_last :
    let calls := [.register "a", .register "b", .register "c", .forget ⟨1⟩, .register "b",
      .forget ⟨9⟩]
    ∃ log s, after? calls 6 = some (log, s) ∧ s.files = [⟨0⟩, ⟨2⟩, ⟨3⟩] ∧ s.Ordered ∧
      s.files.Sublist (fresh log) := by
  intro calls
  obtain ⟨-, hlisting, hordered⟩ := listing_is_ordered_unless_early_file_is_forgotten calls
  have hfiles : (after? calls 6).map (·.2.files) = some [⟨0⟩, ⟨2⟩, ⟨3⟩] := by decide +kernel
  obtain ⟨⟨log, s⟩, hrun, hs⟩ := Option.map_eq_some_iff.1 hfiles
  have hall := hordered.2 fun n file log s hcall hrun => by
    rcases n with _ | _ | _ | _ | _ | _ | n <;> cases hcall
    · have hsecond : (after? calls 3).map (fun r => decide (r.2.Early ⟨1⟩)) = some false := by
        decide +kernel
      rw [hrun] at hsecond
      exact of_decide_eq_false (Option.some.inj hsecond)
    · have hunknown : (after? calls 5).map (fun r => decide (r.2.Early ⟨9⟩)) = some false := by
        decide +kernel
      rw [hrun] at hunknown
      exact of_decide_eq_false (Option.some.inj hunknown)
  have hin := hall 6 log s hrun
  exact ⟨log, s, hrun, hs, hin, (hlisting 6 log s hrun).2.2.1 hin⟩

/-- **The last file takes the place of a forgotten one**: of three files the first is forgotten, and
the third is listed before the second. -/
theorem last_file_takes_first_place :
    let calls := [.register "a", .register "b", .register "c", .forget ⟨0⟩]
    ∃ log s, after? calls 4 = some (log, s) ∧ s.files = [⟨2⟩, ⟨1⟩] ∧
      fresh log = [⟨0⟩, ⟨1⟩, ⟨2⟩] ∧ ¬ s.Ordered := by
  intro calls
  have hfiles : (after? calls 4).map (fun r => (r.2.files, fresh r.1)) =
      some ([⟨2⟩, ⟨1⟩], [⟨0⟩, ⟨1⟩, ⟨2⟩]) := by decide +kernel
  obtain ⟨⟨log, s⟩, hrun, hs⟩ := Option.map_eq_some_iff.1 hfiles
  obtain ⟨hfiles, hfresh⟩ := Prod.mk.inj hs
  refine ⟨log, s, hrun, hfiles, hfresh, ?_⟩
  unfold Ordered
  rw [hfiles]
  decide

end FileSet

end NameScope
