import Mathlib.Data.List.Perm.Subperm
import NameScope.Proofs.Declared.Standing
import NameScope.Proofs.Source.FileNames

/-!
# Numbers and paths, one for one

A file set answers two calls: it numbers a path and it forgets a file. A run of calls is followed
here together with what was answered (`FileSet.run?`), and all that the file set holds is read off
the answers alone: a file has the path for which its number was given first (`Names`), until it is
forgotten. The two tables are inverse to each other as long as paths are compared by their parts,
that is, up to spelling (`PathPart.ofPath_eq_iff`).

* one call: `follows_step`;
* a run: `follows_run`, and `run?_eq_none` for the only way a run can stop, the end of the numbers.

**Results.**
* `Follows.size_eq`: both tables have as many entries;
* `Follows.register_known`, `Follows.register_new`: what a path gets, known or not;
* `Follows.faithful`: all of this of one moment;
* `numbering_is_faithful`: of every run.
-/
namespace NameScope

namespace FileSet

/-- What a file set can be asked to do. -/
inductive Call where
  | register (path : String)
  | forget (file : FileId)
  deriving DecidableEq, Repr

/-- What it did. -/
inductive Event where
  /-- The path was asked for, and this is its number. -/
  | given (path : String) (file : FileId)
  | forgot (file : FileId)
  deriving DecidableEq, Repr

/-- One call, unless the numbers are used up. -/
def step? (s : FileSet) : Call → Option (Event × FileSet)
  | .register path => (s.register? path).map fun (file, s') => (.given path file, s')
  | .forget file => some (.forgot file, s.forget file)

/-- Calls one after the other, after the events of `log`. -/
def run? (log : List Event) (s : FileSet) : List Call → Option (List Event × FileSet)
  | [] => some (log, s)
  | call :: calls =>
    match s.step? call with
    | none => none
    | some (event, s') => run? (log ++ [event]) s' calls

/-! ## Reading a log -/

def Event.given? : Event → Option FileId
  | .given _ file => some file
  | .forgot _ => none

/-- The numbers that were returned, as often as they were. -/
def returned (log : List Event) : List FileId := log.filterMap Event.given?

/-- One number for each path that was not known when it was registered: the numbers that were
returned, each once. -/
def fresh (log : List Event) : List FileId := (returned log).eraseDups

/-- The path is the spelling for which the number of the file was given first, and the file was not
forgotten since. -/
def Names (log : List Event) (file : FileId) (path : String) : Prop :=
  ∃ before after, log = before ++ .given path file :: after ∧ file ∉ returned before ∧
    .forgot file ∉ after

theorem returned_append (before after : List Event) :
    returned (before ++ after) = returned before ++ returned after :=
  List.filterMap_append

theorem returned_given (log : List Event) (path : String) (file : FileId) :
    returned (log ++ [.given path file]) = returned log ++ [file] :=
  returned_append log _

theorem returned_forgot (log : List Event) (file : FileId) :
    returned (log ++ [.forgot file]) = returned log :=
  (returned_append log _).trans (List.append_nil _)

theorem fresh_given (log : List Event) (path : String) (file : FileId) :
    fresh (log ++ [.given path file]) =
      if file ∈ returned log then fresh log else fresh log ++ [file] := by
  unfold fresh
  rw [returned_given, eraseDups_concat]

theorem fresh_forgot (log : List Event) (file : FileId) :
    fresh (log ++ [.forgot file]) = fresh log :=
  congrArg List.eraseDups (returned_forgot log file)

/-- An event of a longer log is the last one or one of the shorter log. -/
theorem concat_eq_iff {log before after : List Event} {last event : Event} :
    log ++ [last] = before ++ event :: after ↔
      (log = before ∧ last = event ∧ after = []) ∨
      ∃ mid, after = mid ++ [last] ∧ log = before ++ event :: mid := by
  constructor
  · intro h
    obtain rfl | ⟨mid, final, rfl⟩ := after.eq_nil_or_concat'
    · obtain ⟨hlog, hlast⟩ := List.append_inj' h rfl
      exact .inl ⟨hlog, List.head_eq_of_cons_eq hlast, rfl⟩
    · rw [← List.cons_append, ← List.append_assoc] at h
      obtain ⟨hlog, hlast⟩ := List.append_inj' h rfl
      rw [List.head_eq_of_cons_eq hlast]
      exact .inr ⟨mid, rfl, hlog⟩
  · rintro (⟨rfl, rfl, rfl⟩ | ⟨mid, rfl, rfl⟩)
    · rfl
    · rw [List.append_assoc, List.cons_append]

theorem names_concat {log : List Event} {event : Event} {file : FileId} {path : String} :
    Names (log ++ [event]) file path ↔
      (event = .given path file ∧ file ∉ returned log) ∨
      (event ≠ .forgot file ∧ Names log file path) := by
  constructor
  · rintro ⟨before, after, hsplit, hfirst, hsince⟩
    obtain ⟨rfl, hevent, -⟩ | ⟨mid, rfl, hlog⟩ := concat_eq_iff.1 hsplit
    · exact .inl ⟨hevent, hfirst⟩
    · rw [List.mem_append, not_or, List.mem_singleton] at hsince
      exact .inr ⟨Ne.symm hsince.2, before, mid, hlog, hfirst, hsince.1⟩
  · rintro (⟨rfl, hfirst⟩ | ⟨hevent, before, after, rfl, hfirst, hsince⟩)
    · exact ⟨log, [], rfl, hfirst, List.not_mem_nil⟩
    · refine ⟨before, after ++ [event], by rw [List.append_assoc, List.cons_append], hfirst, ?_⟩
      rw [List.mem_append, not_or, List.mem_singleton]
      exact ⟨hsince, Ne.symm hevent⟩

theorem Names.returned {log : List Event} {file : FileId} {path : String}
    (h : Names log file path) : file ∈ returned log := by
  obtain ⟨before, after, rfl, -, -⟩ := h
  exact List.mem_filterMap.2 ⟨_, List.mem_append_right before List.mem_cons_self, rfl⟩

/-- A file that has a path was not forgotten since its number was given. -/
theorem Names.not_forgotten {before after : List Event} {file : FileId} {path : String}
    (h : Names (before ++ .forgot file :: after) file path) : file ∉ FileSet.returned before := by
  obtain ⟨first, rest, hlog, hfirst, hsince⟩ := h
  intro hfile
  obtain ⟨mid, hbefore, hmid⟩ | ⟨mid, hbefore, hmid⟩ := List.append_eq_append_iff.1 hlog
  · -- the number would have been given before it was given first
    rw [hbefore, returned_append] at hfirst
    exact hfirst (List.mem_append_left _ hfile)
  · cases mid with
    | nil => cases hmid
    | cons event mid =>
      obtain ⟨-, rfl⟩ := List.cons_eq_cons.1 hmid
      exact hsince (List.mem_append_right mid List.mem_cons_self)

/-! ## Numbering a path -/

/-- The file set in which a new path has the next number. -/
def number (s : FileSet) (path : String) : FileSet :=
  ⟨s.ids.insert (PathPart.ofPath path) ⟨s.next⟩, s.paths.insert ⟨s.next⟩ path, s.next + 1⟩

theorem next_number (s : FileSet) (path : String) : (s.number path).next = s.next + 1 := rfl

theorem path?_number (s : FileSet) (path : String) (file : FileId) :
    (s.number path).path? file = if ⟨s.next⟩ = file then some path else s.path? file :=
  s.paths.get?_insert ⟨s.next⟩ file path

theorem ids_number (s : FileSet) (path : String) (parts : List PathPart) :
    (s.number path).ids.get? parts =
      if PathPart.ofPath path = parts then some ⟨s.next⟩ else s.ids.get? parts :=
  s.ids.get?_insert (PathPart.ofPath path) parts ⟨s.next⟩

theorem register?_eq_number {s : FileSet} {path : String}
    (hget : s.ids.get? (PathPart.ofPath path) = none) (hnext : s.next.toNat + 1 < UInt32.size) :
    s.register? path = some (⟨s.next⟩, s.number path) := by
  unfold register?
  simp only [hget, if_pos hnext]
  rfl

/-! ## What a file set remembers of a log -/

/-- The file set is what the calls of `log` made of an empty one. -/
structure Follows (log : List Event) (s : FileSet) : Prop where
  /-- Numbers count up. -/
  next_eq : s.next.toNat = (fresh log).length
  issued_iff : ∀ file, s.Issued file ↔ file ∈ returned log
  /-- The tables are inverse to each other. -/
  ids_iff : ∀ parts file, s.ids.get? parts = some file ↔
    ∃ path, s.path? file = some path ∧ PathPart.ofPath path = parts
  path_iff : ∀ file path, s.path? file = some path ↔ Names log file path
  /-- A number that was given and forgotten is not returned again. -/
  spent : ∀ before after file, log = before ++ .forgot file :: after →
    file ∈ returned before → file ∉ returned after

theorem follows_empty : Follows [] empty where
  next_eq := rfl
  issued_iff file := ⟨fun h => absurd h (UInt32.not_lt_zero), fun h => nomatch h⟩
  ids_iff parts file := ⟨fun h => (nomatch h), fun ⟨_, h, _⟩ => (nomatch h)⟩
  path_iff file path := by
    refine ⟨fun h => (nomatch h), ?_⟩
    rintro ⟨before, after, hlog, -⟩
    cases before <;> cases hlog
  spent before after file hlog := by
    cases before <;> cases hlog

section
variable {log : List Event} {s : FileSet}

theorem Follows.issued_of_path (h : Follows log s) {file : FileId} {path : String}
    (hpath : s.path? file = some path) : s.Issued file :=
  (h.issued_iff file).2 ((h.path_iff file path).1 hpath).returned

/-- Two spellings under one number are one path. -/
theorem Follows.ids_path (h : Follows log s) {file : FileId} {path : String}
    (hpath : s.path? file = some path) : s.ids.get? (PathPart.ofPath path) = some file :=
  (h.ids_iff _ file).2 ⟨path, hpath, rfl⟩

/-- Both tables have as many entries. -/
theorem Follows.size_eq (h : Follows log s) : s.size = s.files.length := by
  have hvalues : s.ids.values.Nodup := by
    refine (List.nodup_map_iff_inj_on s.ids.nodup_keys.of_map).2 ?_
    rintro ⟨parts, file⟩ hmem ⟨parts', file'⟩ hmem' rfl
    rw [← OrderedMap.get?_eq_some_iff, h.ids_iff] at hmem hmem'
    obtain ⟨path, hpath, rfl⟩ := hmem
    obtain ⟨path', hpath', rfl⟩ := hmem'
    cases hpath.symm.trans hpath'
    rfl
  have hfiles : ∀ file, file ∈ s.ids.values ↔ file ∈ s.files := by
    intro file
    constructor
    · intro hfile
      obtain ⟨⟨parts, file⟩, hmem, rfl⟩ := List.mem_map.1 hfile
      rw [← OrderedMap.get?_eq_some_iff, h.ids_iff] at hmem
      obtain ⟨path, hpath, -⟩ := hmem
      exact List.mem_map.2 ⟨_, (s.paths.get?_eq_some_iff _ _).1 hpath, rfl⟩
    · intro hfile
      obtain ⟨⟨file, path⟩, hmem, rfl⟩ := List.mem_map.1 hfile
      have hget := h.ids_path ((s.paths.get?_eq_some_iff _ _).2 hmem)
      exact List.mem_map.2 ⟨_, (s.ids.get?_eq_some_iff _ _).1 hget, rfl⟩
  have hperm : s.ids.values.Perm s.files :=
    (List.perm_ext_iff_of_nodup hvalues s.paths.nodup_keys).2 hfiles
  exact (List.length_map Prod.snd).symm.trans hperm.length_eq

/-! ## One call -/

/-- A path that is known, under any spelling, has the number it has. -/
theorem Follows.register_known (h : Follows log s) {file : FileId} {path first : String}
    (hpath : s.path? file = some first) (hparts : PathPart.ofPath first = PathPart.ofPath path) :
    s.register? path = some (file, s) := by
  unfold register?
  simp only [(h.ids_iff _ file).2 ⟨first, hpath, hparts⟩]

theorem Follows.get?_eq_none (h : Follows log s) {path : String}
    (hnew : ∀ file first, s.path? file = some first →
      PathPart.ofPath first ≠ PathPart.ofPath path) :
    s.ids.get? (PathPart.ofPath path) = none := by
  cases hget : s.ids.get? (PathPart.ofPath path) with
  | none => rfl
  | some file =>
    obtain ⟨first, hpath, hparts⟩ := (h.ids_iff _ file).1 hget
    exact absurd hparts (hnew file first hpath)

/-- A path that is not known gets a number above all that were ever returned. -/
theorem Follows.register_new (h : Follows log s) {path : String}
    (hnew : ∀ file first, s.path? file = some first →
      PathPart.ofPath first ≠ PathPart.ofPath path)
    (hroom : (fresh log).length + 1 < UInt32.size) :
    ∃ file s', s.register? path = some (file, s') ∧
      (∀ old, old ∈ returned log → old.index < file.index) := by
  have hnext : s.next.toNat + 1 < UInt32.size := h.next_eq ▸ hroom
  have hregister := register?_eq_number (h.get?_eq_none hnew) hnext
  exact ⟨⟨s.next⟩, _, hregister, fun old hold => (h.issued_iff old).2 hold⟩

/-- Registering fails for want of numbers only. -/
theorem Follows.register?_eq_none (h : Follows log s) {path : String}
    (hnone : s.register? path = none) :
    (∀ file first, s.path? file = some first → PathPart.ofPath first ≠ PathPart.ofPath path) ∧
      (fresh log).length + 1 = UInt32.size := by
  have hnew : ∀ file first, s.path? file = some first →
      PathPart.ofPath first ≠ PathPart.ofPath path := by
    intro file first hpath hparts
    rw [h.register_known hpath hparts] at hnone
    cases hnone
  refine ⟨hnew, ?_⟩
  have hlt : (fresh log).length < UInt32.size := h.next_eq ▸ s.next.toNat_lt
  by_contra hne
  obtain ⟨file, s', hsome, -⟩ := h.register_new hnew (by omega)
  rw [hsome] at hnone
  cases hnone

/-- One more event leaves spent numbers spent, unless it returns one. -/
theorem Follows.spent_concat (h : Follows log s) {event : Event}
    (hevent : ∀ path file, event = .given path file → ∀ before after,
      log = before ++ .forgot file :: after → file ∉ returned before)
    (before after : List Event) (file : FileId)
    (hsplit : log ++ [event] = before ++ .forgot file :: after)
    (hfile : file ∈ returned before) : file ∉ returned after := by
  obtain ⟨-, -, rfl⟩ | ⟨mid, rfl, hlog⟩ := concat_eq_iff.1 hsplit
  · exact List.not_mem_nil
  · have hmid := h.spent before mid file hlog hfile
    cases event with
    | forgot other => rwa [returned_forgot]
    | given path other =>
      rw [returned_given, List.mem_append, not_or, List.mem_singleton]
      refine ⟨hmid, ?_⟩
      rintro rfl
      exact hevent path file rfl before mid hlog hfile

/-- A known path is registered again. -/
theorem Follows.given_known (h : Follows log s) {path : String} {file : FileId}
    (hget : s.ids.get? (PathPart.ofPath path) = some file) :
    Follows (log ++ [.given path file]) s := by
  obtain ⟨first, hpath, -⟩ := (h.ids_iff _ file).1 hget
  have hnames := (h.path_iff file first).1 hpath
  have hreturned := hnames.returned
  refine ⟨?_, fun other => ?_, h.ids_iff, fun other name => ?_, h.spent_concat ?_⟩
  · rw [fresh_given, if_pos hreturned, h.next_eq]
  · rw [h.issued_iff, returned_given, List.mem_append, List.mem_singleton]
    refine ⟨.inl, fun hmem => hmem.elim id ?_⟩
    rintro rfl
    exact hreturned
  · rw [h.path_iff, names_concat]
    refine ⟨fun hold => .inr ⟨Event.noConfusion, hold⟩, fun hnew => ?_⟩
    obtain ⟨hgiven, hfirst⟩ | ⟨-, hold⟩ := hnew
    · cases hgiven
      exact absurd hreturned hfirst
    · exact hold
  · rintro _ _ ⟨⟩ before after rfl
    exact hnames.not_forgotten

theorem Follows.path?_next (h : Follows log s) : s.path? ⟨s.next⟩ = none := by
  cases hpath : s.path? ⟨s.next⟩ with
  | none => rfl
  | some path => exact absurd (h.issued_of_path hpath) (UInt32.lt_irrefl s.next)

theorem Follows.ids_iff_number (h : Follows log s) {path : String}
    (hget : s.ids.get? (PathPart.ofPath path) = none) (parts : List PathPart) (file : FileId) :
    (s.number path).ids.get? parts = some file ↔
      ∃ name, (s.number path).path? file = some name ∧ PathPart.ofPath name = parts := by
  simp only [ids_number, path?_number]
  constructor
  · intro hids
    split at hids
    · rename_i hparts
      cases hids
      exact ⟨path, if_pos rfl, hparts⟩
    · obtain ⟨name, hname, hparts⟩ := (h.ids_iff parts file).1 hids
      have hne : (⟨s.next⟩ : FileId) ≠ file := by
        rintro rfl
        rw [h.path?_next] at hname
        cases hname
      exact ⟨name, (if_neg hne).trans hname, hparts⟩
  · rintro ⟨name, hname, rfl⟩
    split at hname
    · rename_i hfile
      cases hname
      rw [if_pos rfl, hfile]
    · have hids := h.ids_path hname
      have hne : PathPart.ofPath path ≠ PathPart.ofPath name := by
        intro hparts
        rw [← hparts, hget] at hids
        cases hids
      exact (if_neg hne).trans hids

/-- A new path gets the next number. -/
theorem Follows.given_new (h : Follows log s) {path : String}
    (hget : s.ids.get? (PathPart.ofPath path) = none) (hnext : s.next.toNat + 1 < UInt32.size) :
    Follows (log ++ [.given path ⟨s.next⟩]) (s.number path) := by
  have hadd : (s.number path).next.toNat = s.next.toNat + 1 := by
    rw [next_number, UInt32.toNat_add]
    exact Nat.mod_eq_of_lt hnext
  have hfresh : (⟨s.next⟩ : FileId) ∉ returned log := by
    rw [← h.issued_iff]
    exact UInt32.lt_irrefl s.next
  refine ⟨?_, fun file => ?_, h.ids_iff_number hget, fun file name => ?_, h.spent_concat ?_⟩
  · rw [fresh_given, if_neg hfresh, List.length_append, ← h.next_eq]
    exact hadd
  · rw [returned_given, List.mem_append, List.mem_singleton, ← h.issued_iff]
    unfold Issued
    rw [UInt32.lt_iff_toNat_lt, UInt32.lt_iff_toNat_lt, hadd, Nat.lt_succ_iff_lt_or_eq]
    refine or_congr_right ⟨fun he => ?_, fun he => he ▸ rfl⟩
    cases file
    exact congrArg FileId.mk (UInt32.toNat_inj.1 he)
  · rw [path?_number, names_concat]
    by_cases he : (⟨s.next⟩ : FileId) = file
    · subst he
      rw [if_pos rfl]
      constructor
      · rintro ⟨⟩
        exact .inl ⟨rfl, hfresh⟩
      · rintro (⟨⟨⟩, -⟩ | ⟨-, hold⟩)
        · rfl
        · exact absurd hold.returned hfresh
    · rw [if_neg he, h.path_iff]
      refine ⟨fun hold => .inr ⟨Event.noConfusion, hold⟩, ?_⟩
      rintro (⟨⟨⟩, -⟩ | ⟨-, hold⟩)
      · exact absurd rfl he
      · exact hold
  · rintro _ _ ⟨⟩ before after rfl hmem
    rw [returned_append] at hfresh
    exact hfresh (List.mem_append_left _ hmem)

/-- Forgetting takes the entry of one file out of both tables. -/
theorem Follows.get?_forget (h : Follows log s) (file other : FileId) (parts : List PathPart) :
    (s.forget file).ids.get? parts = some other ↔
      file ≠ other ∧ s.ids.get? parts = some other := by
  unfold forget
  cases hpath : s.paths.get? file with
  | none =>
    refine ⟨fun hids => ⟨?_, hids⟩, And.right⟩
    rintro rfl
    obtain ⟨path, hname, -⟩ := (h.ids_iff parts file).1 hids
    exact absurd (hpath.symm.trans hname) (by simp)
  | some path =>
    have hids := h.ids_path hpath
    simp only [OrderedMap.get?_swapErase]
    split
    · rename_i hparts
      subst hparts
      constructor
      · intro hnone
        cases hnone
      · rintro ⟨hne, hother⟩
        exact absurd (Option.some.inj (hids.symm.trans hother)) hne
    · rename_i hparts
      refine ⟨fun hother => ⟨?_, hother⟩, And.right⟩
      rintro rfl
      obtain ⟨name, hname, rfl⟩ := (h.ids_iff parts file).1 hother
      cases hpath.symm.trans hname
      exact hparts rfl

theorem Follows.forgot (h : Follows log s) (file : FileId) :
    Follows (log ++ [.forgot file]) (s.forget file) where
  next_eq := by rw [s.next_forget, fresh_forgot, h.next_eq]
  issued_iff other := by
    unfold Issued
    rw [s.next_forget, returned_forgot]
    exact h.issued_iff other
  ids_iff parts other := by
    rw [h.get?_forget, h.ids_iff]
    simp only [s.path?_forget]
    constructor
    · rintro ⟨hne, name, hname, hparts⟩
      exact ⟨name, (if_neg hne).trans hname, hparts⟩
    · rintro ⟨name, hname, hparts⟩
      split at hname
      · cases hname
      · rename_i hne
        exact ⟨hne, name, hname, hparts⟩
  path_iff other name := by
    rw [s.path?_forget, names_concat]
    split
    · rename_i he
      subst he
      refine ⟨fun hnone => (nomatch hnone), ?_⟩
      rintro (⟨⟨⟩, -⟩ | ⟨hne, -⟩)
      exact absurd rfl hne
    · rename_i hne
      rw [h.path_iff]
      refine ⟨fun hold => .inr ⟨fun he => hne (Event.forgot.inj he), hold⟩, ?_⟩
      rintro (⟨⟨⟩, -⟩ | ⟨-, hold⟩)
      exact hold
  spent := h.spent_concat fun _ _ he => nomatch he

end

theorem follows_step {log : List Event} {s s' : FileSet} {call : Call} {event : Event}
    (h : Follows log s) (hstep : s.step? call = some (event, s')) :
    Follows (log ++ [event]) s' := by
  cases call with
  | forget file =>
    cases hstep
    exact h.forgot file
  | register path =>
    obtain ⟨⟨file, s'⟩, hregister, hs⟩ := Option.map_eq_some_iff.1 hstep
    cases hs
    obtain ⟨hget, rfl⟩ | ⟨hget, hnext, rfl, rfl⟩ := register?_cases hregister
    · exact h.given_known hget
    · exact h.given_new hget hnext

/-! ## A run -/

/-- What can be said of a file set at any moment of a run. -/
structure Faithful (log : List Event) (s : FileSet) : Prop extends Follows log s where
  /-- Both tables have as many entries. -/
  size_eq : s.size = s.files.length
  /-- A path that is known, under any spelling, has the number it has. -/
  register_known : ∀ file first path, s.path? file = some first →
    PathPart.ofPath first = PathPart.ofPath path → s.register? path = some (file, s)
  /-- A path that is not known gets a number above all that were ever returned. -/
  register_new : ∀ path, (∀ file first, s.path? file = some first →
      PathPart.ofPath first ≠ PathPart.ofPath path) →
    (fresh log).length + 1 < UInt32.size →
    ∃ file s', s.register? path = some (file, s') ∧
      ∀ old, old ∈ returned log → old.index < file.index
  /-- A file that is forgotten has no path. -/
  forget_path : ∀ file, (s.forget file).path? file = none
  /-- Forgetting a file changes no other pair, read either way. -/
  forget_other : ∀ file other, file ≠ other →
    (s.forget file).path? other = s.path? other ∧
      ∀ parts, (s.forget file).ids.get? parts = some other ↔ s.ids.get? parts = some other

theorem Follows.faithful {log : List Event} {s : FileSet} (h : Follows log s) : Faithful log s where
  toFollows := h
  size_eq := h.size_eq
  register_known _ _ _ := h.register_known
  register_new _ := h.register_new
  forget_path file := by rw [s.path?_forget, if_pos rfl]
  forget_other file other hne := by
    refine ⟨by rw [s.path?_forget, if_neg hne], fun parts => ?_⟩
    rw [h.get?_forget, and_iff_right hne]

theorem follows_run (calls : List Call) {log log' : List Event} {s s' : FileSet}
    (h : Follows log s) (hrun : run? log s calls = some (log', s')) : Follows log' s' := by
  induction calls generalizing log s with
  | nil =>
    cases hrun
    exact h
  | cons call calls ih =>
    unfold run? at hrun
    split at hrun
    · cases hrun
    · rename_i hstep
      exact ih (follows_step h hstep) hrun

/-- A run stops at a new path for which there is no number left, and nowhere else. -/
theorem run?_eq_none (calls : List Call) {log : List Event} {s : FileSet} (h : Follows log s)
    (hrun : run? log s calls = none) :
    ∃ before path after log' s', calls = before ++ .register path :: after ∧
      run? log s before = some (log', s') ∧ s'.register? path = none := by
  induction calls generalizing log s with
  | nil => cases hrun
  | cons call calls ih =>
    unfold run? at hrun
    split at hrun
    · rename_i hstep
      cases call with
      | forget file => cases hstep
      | register path =>
        exact ⟨[], path, calls, log, s, rfl, rfl, Option.map_eq_none_iff.1 hstep⟩
    · rename_i event next hstep
      obtain ⟨before, path, after, log', s', rfl, hbefore, hnone⟩ := ih (follows_step h hstep) hrun
      refine ⟨call :: before, path, after, log', s', rfl, ?_, hnone⟩
      unfold run?
      rw [hstep]
      exact hbefore

/-- However paths are registered and files forgotten, the two tables stay inverse to each other
and say what the answers said; a run that stops does so at the new path that would have taken the
last of the `2 ^ 32` numbers. -/
theorem numbering_is_faithful (calls : List Call) :
    (∃ log s, run? [] empty calls = some (log, s) ∧ Faithful log s) ∨
    ∃ before path after log s, calls = before ++ .register path :: after ∧
      run? [] empty before = some (log, s) ∧ Faithful log s ∧
      (∀ file first, s.path? file = some first →
        PathPart.ofPath first ≠ PathPart.ofPath path) ∧
      (fresh log).length + 1 = UInt32.size := by
  cases hrun : run? [] empty calls with
  | some result =>
    obtain ⟨log, s⟩ := result
    exact .inl ⟨log, s, rfl, (follows_run calls follows_empty hrun).faithful⟩
  | none =>
    obtain ⟨before, path, after, log, s, rfl, hbefore, hnone⟩ :=
      run?_eq_none calls follows_empty hrun
    have hfollows := follows_run before follows_empty hbefore
    obtain ⟨hnew, hlast⟩ := hfollows.register?_eq_none hnone
    exact .inr ⟨before, path, after, log, s, rfl, hbefore, hfollows.faithful, hnew, hlast⟩

/-- Two spellings are one path, which gets another number once it was forgotten. -/
example : (run? [] empty [.register "a/b", .register "a//b", .forget ⟨0⟩, .register "a/b"]).map
    Prod.fst = some [.given "a/b" ⟨0⟩, .given "a//b" ⟨0⟩, .forgot ⟨0⟩, .given "a/b" ⟨1⟩] := by
  decide +kernel

end FileSet

end NameScope
