import NameScope.Proofs.Session.Makes
import NameScope.Workspace

/-!
# The kept snapshot is the one a fresh build gives

`Session` is what a workspace stands for: settings and a plain list of scripts, one for each file.
Setting the script of a known file replaces its entry where it stands, and that of a new file comes
last; taking one out leaves the others in their order. No snapshot is kept in a session: what it has
is said by indexing and linking (`Session.HasSnapshot`), and linking may stop in some of its scripts
(`Session.Refuses`). If it stops in several, which of their refusals is told is left open.

A workspace and a session go through the same operations. `Workspace.Coherent` relates them: both
have the same settings and the same scripts in the same order, and a snapshot that is kept is the
one that these give. Each operation preserves it (`Coherent.step`), and so do all of them
(`Coherent.run`).

**Results.** * `analysis_is_a_fresh_build`: after any operations, `analyse` gives what indexing and
linking the present scripts gives; it is refused exactly if one of these scripts is, and that leaves
no trace.
-/
namespace NameScope

/-- Settings and scripts. -/
structure Session where
  config : Config
  scripts : List BundledScript

namespace Session

/-- Puts a script in the place of the one of the same file, or at the end. -/
def setScript (x : Session) (s : BundledScript) : Session :=
  { x with
    scripts :=
      if s.script.file ∈ x.scripts.map (·.script.file) then
        x.scripts.map fun t => if t.script.file = s.script.file then s else t
      else x.scripts ++ [s] }

def removeScript (x : Session) (file : FileId) : Session :=
  { x with scripts := x.scripts.filter (·.script.file ≠ file) }

/-- Indexes and links all scripts. -/
def build (x : Session) : Except LinkError Snapshot := Snapshot.build x.config x.scripts

/-- What is known once all scripts are indexed. -/
def indexed (x : Session) : Indexed := .ofScripts x.config x.scripts

/-- The parts of the snapshot: what indexing gives, the linked scripts by their files, and what is
reported, first by indexing and then by linking. -/
structure HasSnapshot (x : Session) (a : Snapshot) : Prop where
  registry : a.registry = x.indexed.registry
  types : a.types = x.indexed.types
  linked : ∃ trees reports,
    linkAll x.indexed.registry x.indexed.types x.config (x.scripts.map (·.script)) =
      .ok (trees, reports) ∧
    a.scripts = .ofList (trees.map fun t => (t.file, t)) ∧
    a.reports = x.indexed.diagnostics ++ reports

/-- Linking this script in the session stops, and tells why. -/
def Refuses (x : Session) (script : Script) (e : LinkError) : Prop :=
  script.linked x.indexed.registry x.indexed.types x.config = .error e

/-! ## What a build gives -/

variable {x : Session}

theorem build_eq_ok_iff {a : Snapshot} : x.build = .ok a ↔ x.HasSnapshot a := by
  constructor
  · intro h
    cases hall : linkAll x.indexed.registry x.indexed.types x.config (x.scripts.map (·.script)) with
    | error e => exact nomatch (Snapshot.build_of_refused hall).symm.trans h
    | ok result =>
      cases (Snapshot.build_of_linkAll hall).symm.trans h
      exact ⟨rfl, rfl, result.1, result.2, hall, rfl, rfl⟩
  · rintro ⟨hregistry, htypes, trees, reports, hall, hscripts, hreports⟩
    obtain ⟨registry, types, scripts, reports'⟩ := a
    cases hregistry
    cases htypes
    cases hscripts
    cases hreports
    exact Snapshot.build_of_linkAll hall

/-- A build that is refused is so because of a script. -/
theorem exists_refused_of_build {e : LinkError} (h : x.build = .error e) :
    ∃ s ∈ x.scripts, x.Refuses s.script e := by
  cases hall : linkAll x.indexed.registry x.indexed.types x.config (x.scripts.map (·.script)) with
  | error e' =>
    cases (Snapshot.build_of_refused hall).symm.trans h
    obtain ⟨script, hscript, he⟩ := exists_refused_of_linkAll hall
    obtain ⟨s, hs, rfl⟩ := List.mem_map.1 hscript
    exact ⟨s, hs, he⟩
  | ok result => exact nomatch (Snapshot.build_of_linkAll hall).symm.trans h

theorem exists_build_error_iff :
    (∃ e, x.build = .error e) ↔ ∃ s ∈ x.scripts, ∃ e, x.Refuses s.script e := by
  constructor
  · rintro ⟨e, h⟩
    obtain ⟨s, hs, he⟩ := exists_refused_of_build h
    exact ⟨s, hs, e, he⟩
  · rintro ⟨s, hs, e, he⟩
    cases hbuild : x.build with
    | error e' => exact ⟨e', rfl⟩
    | ok a =>
      obtain ⟨trees, reports, hall, -⟩ := (build_eq_ok_iff.1 hbuild).linked
      have hlinked := linked_of_linkAll hall s.script (List.mem_map_of_mem hs)
      exact nomatch hlinked.symm.trans he

end Session

namespace Workspace

/-- What a client can ask of a workspace. -/
inductive Op
  | register (path : String)
  | forget (file : FileId)
  | setConfig (config : Config)
  | setScript (bundle : BundleName) (script : Script)
  | removeScript (file : FileId)
  | analyse

/-- The answer to `analyse`, and the workspace after it: a refusal keeps the one there was. -/
def analyse (w : Workspace) : Except LinkError Snapshot × Workspace :=
  match w.analysis with
  | .ok (snapshot, w') => (.ok snapshot, w')
  | .error e => (.error e, w)

/-- The workspace after an operation. When the numbers of files are used up, `register` gives no
answer and changes nothing. -/
def step (w : Workspace) : Op → Workspace
  | .register path => ((w.register? path).map (·.2)).getD w
  | .forget file => w.forgetFile file
  | .setConfig config => w.setConfig config
  | .setScript bundle script => w.setScript bundle script
  | .removeScript file => (w.removeScript file).2
  | .analyse => w.analyse.2

/-- The workspace after operations, the first one first. -/
def run (w : Workspace) (ops : List Op) : Workspace := ops.foldl step w

end Workspace

namespace Session

/-- The session after an operation of a workspace. -/
def step (x : Session) : Workspace.Op → Session
  | .setConfig config => { x with config }
  | .setScript bundle script => x.setScript ⟨bundle, script⟩
  | .removeScript file => x.removeScript file
  | .register _ | .forget _ | .analyse => x

/-- The session after operations, the first one first. -/
def run (x : Session) (ops : List Workspace.Op) : Session := ops.foldl step x

end Session

/-- All that `analyse` can do: give out the kept snapshot, keep a fresh one, or be refused. -/
theorem Workspace.analyse_cases (w : Workspace) :
    (∃ snapshot, w.kept = some snapshot ∧ w.analyse = (.ok snapshot, w)) ∨
    (∃ snapshot, w.kept = none ∧ w.build = .ok snapshot ∧
      w.analyse = (.ok snapshot, { w with kept := some snapshot })) ∨
    ∃ e, w.kept = none ∧ w.build = .error e ∧ w.analyse = (.error e, w) := by
  unfold analyse
  cases hkept : w.kept with
  | some snapshot => exact .inl ⟨snapshot, rfl, by rw [analysis_of_kept hkept]⟩
  | none =>
    rw [analysis_of_not_kept hkept]
    cases hbuild : w.build with
    | ok snapshot => exact .inr (.inl ⟨snapshot, rfl, rfl, rfl⟩)
    | error e => exact .inr (.inr ⟨e, rfl, rfl, rfl⟩)

/-- A value read off the answer to `analysis` shows that there is one. -/
theorem Workspace.exists_of_analysis {β : Type} {w : Workspace} {f : Snapshot × Workspace → β}
    {v : β} (h : w.analysis.toOption.map f = some v) :
    ∃ a w', w.analysis = .ok (a, w') ∧ f (a, w') = v := by
  cases hanswer : w.analysis with
  | error e =>
    rw [hanswer] at h
    cases h
  | ok p =>
    rw [hanswer] at h
    exact ⟨p.1, p.2, rfl, Option.some.inj h⟩

/-! ## One entry for each file -/

namespace Workspace

/-- The entries of scripts, each under its file. -/
def entriesOf (scripts : List BundledScript) : List (FileId × BundledScript) :=
  scripts.map fun s => (s.script.file, s)

theorem files_entriesOf (scripts : List BundledScript) :
    (entriesOf scripts).map Prod.fst = scripts.map (·.script.file) := by
  simp [entriesOf, Function.comp_def]

/-- The workspace and the session have the same settings and scripts, and a kept snapshot is the one
that these give. -/
structure Coherent (w : Workspace) (x : Session) : Prop where
  config : w.config = x.config
  entries : w.scripts.entries = entriesOf x.scripts
  kept : ∀ snapshot, w.kept = some snapshot → x.build = .ok snapshot

namespace Coherent

variable {w : Workspace} {x : Session}

theorem files (h : Coherent w x) : w.scripts.keys = x.scripts.map (·.script.file) := by
  rw [OrderedMap.keys, h.entries, files_entriesOf]

theorem scripts (h : Coherent w x) : w.scripts.values = x.scripts := by
  simp [OrderedMap.values, h.entries, entriesOf, Function.comp_def]

theorem build (h : Coherent w x) : w.build = x.build := by
  rw [Workspace.build, Session.build, h.config, h.scripts]

theorem keys_eq (h : Coherent w x) : w.scripts.keys = w.scripts.values.map (·.script.file) := by
  rw [h.files, h.scripts]

/-- Each file has one script. -/
theorem nodup_files (h : Coherent w x) : (w.scripts.values.map (·.script.file)).Nodup :=
  h.keys_eq ▸ w.scripts.nodup_keys

/-- The files of a workspace play no part. -/
theorem withFiles (h : Coherent w x) (files : FileSet) : Coherent { w with files } x :=
  ⟨h.config, h.entries, h.kept⟩

theorem setConfig (h : Coherent w x) (config : Config) :
    Coherent (w.setConfig config) { x with config } :=
  ⟨rfl, h.entries, fun _ hkept => nomatch hkept⟩

theorem setScript (h : Coherent w x) (bundle : BundleName) (script : Script) :
    Coherent (w.setScript bundle script) (x.setScript ⟨bundle, script⟩) := by
  refine ⟨h.config, ?_, fun _ hkept => nomatch hkept⟩
  have hn := w.scripts.nodup_keys
  have hkeys : w.scripts.entries.map Prod.fst = x.scripts.map (·.script.file) := h.files
  change OrderedMap.insertEntry script.file ⟨bundle, script⟩ w.scripts.entries = _
  by_cases hfile : script.file ∈ x.scripts.map (·.script.file)
  · rw [OrderedMap.insertEntry_eq_replaceEntry _ hn (hkeys ▸ hfile), h.entries]
    simp only [OrderedMap.replaceEntry, entriesOf, Session.setScript, if_pos hfile, List.map_map]
    refine List.map_congr_left fun t _ => ?_
    simp only [Function.comp_apply]
    split <;> rfl
  · rw [OrderedMap.insertEntry_eq_append _ (hkeys ▸ hfile), h.entries]
    simp only [entriesOf, Session.setScript, if_neg hfile, List.map_append, List.map_cons,
      List.map_nil]

theorem removeScript (h : Coherent w x) (file : FileId) :
    Coherent (w.removeScript file).2 (x.removeScript file) := by
  unfold Workspace.removeScript
  cases hget : w.scripts.get? file with
  | none =>
    -- Nothing is taken out and the snapshot stays, so the session must stay as it is too.
    have hfile : file ∉ x.scripts.map (·.script.file) :=
      h.files ▸ (w.scripts.get?_eq_none_iff file).1 hget
    have hsame : x.removeScript file = x := by
      unfold Session.removeScript
      rw [List.filter_eq_self.2]
      exact fun t ht => decide_eq_true fun he => hfile (List.mem_map.2 ⟨t, ht, he⟩)
    rw [hsame]
    exact h
  | some s =>
    refine ⟨h.config, ?_, fun _ hkept => nomatch hkept⟩
    simp only [OrderedMap.erase, h.entries, entriesOf, Session.removeScript, List.filter_map]
    rfl

/-- The answer is a fresh build of the session, whether a snapshot was kept or not. -/
theorem analyse_fst (h : Coherent w x) : w.analyse.1 = x.build := by
  obtain ⟨snapshot, hkept, ha⟩ | ⟨snapshot, -, hb, ha⟩ | ⟨e, -, hb, ha⟩ := w.analyse_cases
  · rw [ha, h.kept snapshot hkept]
  · rw [ha, ← h.build, hb]
  · rw [ha, ← h.build, hb]

/-- So is a snapshot that was given out. -/
theorem build_of_analysis (h : Coherent w x) {a : Snapshot} {w' : Workspace}
    (ha : w.analysis = .ok (a, w')) : w.build = .ok a := by
  have hanswer : w.analyse.1 = .ok a := by
    unfold Workspace.analyse
    rw [ha]
  rw [h.build, ← h.analyse_fst, hanswer]

theorem analyse (h : Coherent w x) : Coherent w.analyse.2 x := by
  obtain ⟨snapshot, hkept, ha⟩ | ⟨snapshot, -, hb, ha⟩ | ⟨e, -, hb, ha⟩ := w.analyse_cases
  · rw [ha]
    exact h
  · rw [ha]
    exact ⟨h.config, h.entries, fun _ hkept => by rw [← h.build, hb, Option.some.inj hkept]⟩
  · rw [ha]
    exact h

/-- What one operation preserves. -/
theorem step (h : Coherent w x) (op : Op) : Coherent (w.step op) (x.step op) := by
  cases op with
  | register path =>
    simp only [Workspace.step, register?, Session.step]
    cases w.files.register? path with
    | none => exact h
    | some r => exact h.withFiles r.2
  | forget file => exact h.withFiles _
  | setConfig config => exact h.setConfig config
  | setScript bundle script => exact h.setScript bundle script
  | removeScript file => exact h.removeScript file
  | analyse => exact h.analyse

/-- What all operations preserve. -/
theorem run (h : Coherent w x) (ops : List Op) : Coherent (w.run ops) (x.run ops) := by
  induction ops generalizing w x with
  | nil => exact h
  | cons op ops ih => exact ih (h.step op)

/-- A workspace without scripts stands for a session without scripts. -/
theorem ofConfig (config : Config) : Coherent (Workspace.ofConfig config) ⟨config, []⟩ :=
  ⟨rfl, rfl, fun _ hkept => nomatch hkept⟩

end Coherent

/-- **The kept snapshot is always the right one.** After any operations on a workspace without
scripts, it holds the settings and the scripts of the session that went through the same
operations, in the same order. `analyse` gives the snapshot of the session, as building it afresh
does, and a snapshot that is kept is that one. It is refused exactly if one of the scripts is, and
tells what one of them tells. Then no snapshot was kept and the workspace stays as it is: whatever
follows goes as if the question had not been asked. -/
theorem analysis_is_a_fresh_build (config : Config) (ops : List Op) :
    let w := (ofConfig config).run ops
    let x := Session.run ⟨config, []⟩ ops
    w.config = x.config ∧ w.scripts.values = x.scripts ∧
      w.analyse.1.toOption = (Snapshot.build x.config x.scripts).toOption ∧
      (∀ a, w.analyse.1 = .ok a ↔ x.HasSnapshot a) ∧
      (∀ a, w.kept = some a → x.HasSnapshot a) ∧
      ((∃ e, w.analyse.1 = .error e) ↔ ∃ s ∈ x.scripts, ∃ e, x.Refuses s.script e) ∧
      ∀ e, w.analyse.1 = .error e →
        (∃ s ∈ x.scripts, x.Refuses s.script e) ∧ w.kept = none ∧ w.analyse.2 = w ∧
        ∀ later, (ofConfig config).run (ops ++ .analyse :: later) =
          (ofConfig config).run (ops ++ later) := by
  intro w x
  have h : Coherent w x := (Coherent.ofConfig config).run ops
  refine ⟨h.config, h.scripts, congrArg Except.toOption h.analyse_fst, fun a => ?_,
    fun a ha => Session.build_eq_ok_iff.1 (h.kept a ha), ?_, fun e he => ?_⟩
  · rw [h.analyse_fst]
    exact Session.build_eq_ok_iff
  · rw [h.analyse_fst]
    exact Session.exists_build_error_iff
  · have hbuild : x.build = .error e := h.analyse_fst.symm.trans he
    obtain ⟨a, -, ha⟩ | ⟨a, -, -, ha⟩ | ⟨e', hkept, -, ha⟩ := w.analyse_cases
    · exact nomatch (congrArg Prod.fst ha).symm.trans he
    · exact nomatch (congrArg Prod.fst ha).symm.trans he
    · refine ⟨Session.exists_refused_of_build hbuild, hkept, by rw [ha], fun later => ?_⟩
      have hstep : w.step .analyse = w := by rw [step, ha]
      simp only [run, List.foldl_append, List.foldl_cons]
      exact congrArg (List.foldl step · later) hstep

-- so this holds of the default workspace too
example : (default : Workspace) = ofConfig {} := rfl

/-- A struct `Point` with one field, in a script of the package `geo`. -/
def pointWith (type : TypeRef) : Script :=
  { file := ⟨0⟩
    package := ⟨["geo"]⟩
    structs := [{ name := { text := "Point" }, fields := [{ name := { text := "x" }, type }] }] }

/-- `func origin() { origin() }`, in which the call is linked already. -/
def linkedScript : Script :=
  { file := ⟨1⟩
    package := ⟨["game"]⟩
    funcs := [{
      name := { text := "origin" }
      body := [.call { name := { name := ⟨["origin"]⟩, target := some ⟨⟨⟨0⟩, {}⟩, none⟩ } } [] {}] }] }

/-- A snapshot with a report is kept. It is given up when its script is set anew, and the next one
has no report. With the linked script there is none, which is forgotten once that script is taken
out. -/
theorem snapshot_is_kept_then_replaced_then_refused :
    let asked := [.setScript ⟨"core"⟩ (pointWith (.named { name := ⟨["Vec"]⟩ })), Op.analyse]
    let edited := asked ++ [.setScript ⟨"core"⟩ (pointWith (.primitive .int {}))]
    let refused := edited ++ [.setScript ⟨"core"⟩ linkedScript]
    let after := fun ops => (ofConfig {}).run ops
    (∃ a, (after asked).kept = some a ∧ (Session.run ⟨{}, []⟩ asked).HasSnapshot a ∧
      a.reports.map (·.code) = [some "E0001"]) ∧
    ((after edited).kept = none ∧
      ∃ a, (after edited).analyse.1 = .ok a ∧ a.reports = []) ∧
    (∃ e, (after refused).analyse.1 = .error e) ∧
      after (refused ++ [.analyse, .removeScript ⟨1⟩]) = after (refused ++ [.removeScript ⟨1⟩]) := by
  intro asked edited refused after
  obtain ⟨-, -, -, -, hkept, -⟩ := analysis_is_a_fresh_build {} asked
  obtain ⟨-, -, -, hanswer, -⟩ := analysis_is_a_fresh_build {} edited
  obtain ⟨-, -, -, -, -, hrefused, hforgotten⟩ := analysis_is_a_fresh_build {} refused
  obtain ⟨e, he⟩ : ∃ e, (after refused).analyse.1 = .error e := by
    refine hrefused.2 ⟨⟨⟨"core"⟩, linkedScript⟩, ?_, _, rfl⟩
    exact List.mem_cons_of_mem _ List.mem_cons_self
  have hplain : (Session.run ⟨{}, []⟩ edited).HasSnapshot ⟨_, _, _, _⟩ :=
    ⟨rfl, rfl, _, _, rfl, rfl, rfl⟩
  refine ⟨⟨_, rfl, hkept _ rfl, by decide⟩, ⟨rfl, _, (hanswer _).2 hplain, by decide⟩, ⟨e, he⟩, ?_⟩
  exact (hforgotten e he).2.2.2 [.removeScript ⟨1⟩]

end Workspace

end NameScope
