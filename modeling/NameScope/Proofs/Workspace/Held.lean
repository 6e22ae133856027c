import Mathlib.Data.List.Basic
import NameScope.Proofs.Editor.Agreement
import NameScope.Proofs.Source.FileNames
import NameScope.Proofs.Workspace.Coherent

/-!
# A snapshot that is held while the workspace goes on

A client may hold a snapshot and ask it at any later time (`Inquiry`). The snapshot has its own
copies of scripts and diagnostics, but it does not hold paths: the tooltip of a document link names
the target's file as the workspace knows it when the question is asked. So an answer can change,
and there in tooltips only.

* `Script.documentLinks?_inWords`: the links under other file names are the links with other
  tooltips (`DocumentLink.inWords`);
* `files_step`, `files_run`: what operations do to the names of files.

**Results.**
* `held_snapshot_changes_in_tooltips_only`: which answers change, and what the new ones are;
* `forgotten_file_shows_in_held_snapshot`: a tooltip that does change.
-/
namespace NameScope

/-! ## Links under other file names -/

/-- The link with the tooltip that `files` give it. -/
def DocumentLink.inWords (files : FileSet) (link : DocumentLink) : DocumentLink :=
  { link with
    tooltip := "Go to " ++ files.displayName link.target.file ++ ":" ++
      (link.target.range.start.text?).getD "" }

theorem DocumentLink.inWords_inj (files files' : FileSet) (link : DocumentLink) :
    link.inWords files' = link.inWords files ↔
      files'.displayName link.target.file = files.displayName link.target.file := by
  constructor
  · intro h
    have htooltip := congrArg DocumentLink.tooltip h
    unfold inWords at htooltip
    simpa only [String.append_left_inj, String.append_right_inj] using htooltip
  · intro h
    unfold inWords
    rw [h]

theorem mapM_map {α β γ : Type} (f : α → Option β) (g : β → γ) (l : List α) :
    (l.mapM fun a => (f a).map g) = (l.mapM f).map (List.map g) := by
  induction l with
  | nil => rfl
  | cons a l ih =>
    rw [List.mapM_cons, List.mapM_cons, ih]
    cases f a with
    | none => rfl
    | some b => cases l.mapM f <;> rfl

/-- The links of a script without tooltips. -/
def Script.bareLinks? (script : Script) : Option (List DocumentLink) :=
  (script.references.filterMap fun r => r.target.map fun t => (r.range, t.location)).mapM
    fun (range, target) => target.range.start.text?.map fun _ => ⟨range, target, ""⟩

theorem Script.documentLinks?_eq (script : Script) (files : FileSet) :
    script.documentLinks? files = script.bareLinks?.map (List.map (DocumentLink.inWords files)) := by
  unfold documentLinks? bareLinks?
  rw [← mapM_map]
  congr 1
  funext p
  obtain ⟨range, target⟩ := p
  unfold DocumentLink.make? DocumentLink.inWords
  simp only
  cases hplace : target.range.start.text? with
  | none => rfl
  | some place => simp only [Option.map_some, hplace, Option.getD_some]

/-- Under other file names, only the tooltips of the links are others. -/
theorem Script.documentLinks?_inWords (script : Script) (files files' : FileSet) :
    script.documentLinks? files' =
      (script.documentLinks? files).map (List.map (DocumentLink.inWords files')) := by
  rw [script.documentLinks?_eq files, script.documentLinks?_eq files', Option.map_map]
  congr 1
  funext links
  rw [Function.comp_apply, List.map_map]
  rfl

theorem Snapshot.documentLinks?_inWords (a : Snapshot) (files files' : FileSet) (file : FileId) :
    a.documentLinks? files' file =
      (a.documentLinks? files file).map (List.map (DocumentLink.inWords files')) := by
  unfold documentLinks?
  cases a.script? file with
  | none => rfl
  | some script => exact script.documentLinks?_inWords files files'

/-! ## Questions to a snapshot -/

/-- What a client can ask of a snapshot. -/
inductive Inquiry
  | script (file : FileId)
  | diagnostics (file : FileId)
  | errorCount
  | hover (file : FileId) (position : Position)
  | definition (file : FileId) (position : Position)
  | documentLinks (file : FileId)

inductive Answer
  | script (script : Option Script)
  | diagnostics (diagnostics : List Diagnostic)
  | errorCount (count : Nat)
  | hover (hover : Option Hover)
  | definition (definition : Option Definition)
  | documentLinks (links : Option (List DocumentLink))

namespace Answer

/-- The document links of the answer. -/
def links : Answer → List DocumentLink
  | .documentLinks (some links) => links
  | _ => []

/-- The answer with the tooltips that `files` give its links. -/
def inWords (files : FileSet) : Answer → Answer
  | .documentLinks links => .documentLinks (links.map (List.map (DocumentLink.inWords files)))
  | answer => answer

theorem inWords_eq_iff {answer : Answer} {files files' : FileSet}
    (h : answer.inWords files = answer) : answer.inWords files' = answer ↔
      ∀ link ∈ answer.links,
        files'.displayName link.target.file = files.displayName link.target.file := by
  cases answer with
  | documentLinks links =>
    cases links with
    | none => simp [inWords, links]
    | some links =>
      have hsame : links.map (DocumentLink.inWords files) = links :=
        Option.some.inj (Answer.documentLinks.inj h)
      calc (documentLinks (some links)).inWords files' = documentLinks (some links)
        _ ↔ links.map (DocumentLink.inWords files') = links := by simp [inWords]
        _ ↔ links.map (DocumentLink.inWords files') = links.map (DocumentLink.inWords files) := by
          rw [hsame]
        _ ↔ _ := by simp only [List.map_inj_left, DocumentLink.inWords_inj, Answer.links]
  | script _ | diagnostics _ | errorCount _ | hover _ | definition _ => simp [inWords, links]

end Answer

namespace Workspace

/-- What a snapshot answers, when the files of the workspace are those of `w`. -/
def answer (w : Workspace) (a : Snapshot) : Inquiry → Answer
  | .script file => .script (a.script? file)
  | .diagnostics file => .diagnostics (a.diagnostics file)
  | .errorCount => .errorCount a.errorCount
  | .hover file position => .hover (a.hover file position)
  | .definition file position => .definition (a.definition file position)
  | .documentLinks file => .documentLinks (a.documentLinks? w.files file)

/-- At another time the answer is in the words of that time. -/
theorem answer_inWords (w w' : Workspace) (a : Snapshot) (inquiry : Inquiry) :
    w'.answer a inquiry = (w.answer a inquiry).inWords w'.files := by
  cases inquiry with
  | documentLinks file =>
    exact congrArg Answer.documentLinks (a.documentLinks?_inWords w.files w'.files file)
  | script _ | diagnostics _ | errorCount | hover _ _ | definition _ _ => rfl

/-- An answer stays the same exactly if all files that its links lead to keep their names. -/
theorem answer_eq_iff (w w' : Workspace) (a : Snapshot) (inquiry : Inquiry) :
    w'.answer a inquiry = w.answer a inquiry ↔ ∀ link ∈ (w.answer a inquiry).links,
      w'.files.displayName link.target.file = w.files.displayName link.target.file := by
  rw [answer_inWords w w' a inquiry]
  exact Answer.inWords_eq_iff (answer_inWords w w a inquiry).symm

/-! ## Files while the workspace goes on -/

/-- The file that an operation forgets. -/
def Op.forgotten? : Op → Option FileId
  | .forget file => some file
  | _ => none

theorem Op.mem_forgotten_iff {ops : List Op} {file : FileId} :
    file ∈ ops.filterMap Op.forgotten? ↔ .forget file ∈ ops := by
  rw [List.mem_filterMap]
  constructor
  · rintro ⟨op, hop, hfile⟩
    cases op with
    | forget other =>
      cases hfile
      exact hop
    | register _ | setConfig _ | setScript _ _ | removeScript _ | analyse => cases hfile
  · intro hop
    exact ⟨_, hop, rfl⟩

theorem files_analyse (w : Workspace) : w.analyse.2.files = w.files := by
  obtain ⟨a, -, h⟩ | ⟨a, -, -, h⟩ | ⟨e, -, -, h⟩ := w.analyse_cases <;> rw [h]

/-- What one operation does to the files. -/
theorem files_step (w : Workspace) (op : Op) :
    FileSet.Evolves op.forgotten?.toList w.files (w.step op).files := by
  cases op with
  | register path =>
    cases hregister : w.files.register? path with
    | none =>
      have hsame : (w.step (.register path)).files = w.files := by
        simp only [step, register?, hregister]
        rfl
      rw [hsame]
      exact .refl w.files
    | some p =>
      have hfiles : (w.step (.register path)).files = p.2 := by
        simp only [step, register?, hregister]
        rfl
      rw [hfiles]
      exact FileSet.evolves_register hregister
  | forget file => exact w.files.evolves_forget file
  | setConfig _ | setScript _ _ => exact .refl w.files
  | removeScript file =>
    have hsame : (w.step (.removeScript file)).files = w.files := by
      simp only [step, removeScript]
      split <;> rfl
    rw [hsame]
    exact .refl w.files
  | analyse =>
    have hsame : (w.step .analyse).files = w.files := w.files_analyse
    rw [hsame]
    exact .refl w.files

/-- What operations do to the files. -/
theorem files_run (w : Workspace) (ops : List Op) :
    FileSet.Evolves (ops.filterMap Op.forgotten?) w.files (w.run ops).files := by
  induction ops generalizing w with
  | nil => exact .refl w.files
  | cons op ops ih =>
    have h := (w.files_step op).trans (ih (w.step op))
    rwa [List.filterMap_eq_flatMap_toList, List.flatMap_cons, ← List.filterMap_eq_flatMap_toList]

/-- **A snapshot that is held changes in tooltips only.** Whatever is done to the workspace after it
was given out, it answers the same but for the names in the tooltips of document links, which are
those of the files at the time. So an answer is the same exactly if the files that its links lead to
still have their names. A file keeps its path until it is forgotten and has none from then on; one
whose number was not given out yet had none before. -/
theorem held_snapshot_changes_in_tooltips_only (config : Config) (ops later : List Op)
    {a : Snapshot} {w : Workspace} (h : ((ofConfig config).run ops).analysis = .ok (a, w)) :
    let w' := w.run later
    (∀ inquiry, w'.answer a inquiry = (w.answer a inquiry).inWords w'.files ∧
      (w'.answer a inquiry = w.answer a inquiry ↔ ∀ link ∈ (w.answer a inquiry).links,
        w'.files.displayName link.target.file = w.files.displayName link.target.file)) ∧
    (∀ file, w.files.Issued file →
      (.forget file ∈ later → w'.files.path? file = none) ∧
      (.forget file ∉ later → w'.files.path? file = w.files.path? file)) ∧
    ∀ file, ¬ w.files.Issued file → w.files.path? file = none := by
  intro w'
  have hlater := w.files_run later
  have hw : ((ofConfig config).run ops).analyse.2 = w := by
    unfold analyse
    rw [h]
  have hcounted : w.files.Counted := by
    rw [← hw, files_analyse]
    exact ((ofConfig config).files_run ops).counted FileSet.counted_empty
  refine ⟨fun inquiry => ⟨answer_inWords w w' a inquiry, answer_eq_iff w w' a inquiry⟩,
    fun file hfile => ⟨fun hmem => ?_, fun hmem => ?_⟩, fun file => hcounted.path?_eq_none⟩
  · exact hlater.gone file hfile (Op.mem_forgotten_iff.2 hmem)
  · exact hlater.stays file hfile fun hm => hmem (Op.mem_forgotten_iff.1 hm)

/-- `func main(p: int) { p }`. -/
def mainScript : Script :=
  { file := ⟨0⟩
    package := ⟨["game"]⟩
    funcs := [{
      name := { text := "main", range := ⟨⟨0, 5⟩, ⟨0, 9⟩⟩ }
      range := ⟨⟨0, 0⟩, ⟨0, 24⟩⟩
      params := [{
        name := { text := "p", range := ⟨⟨0, 10⟩, ⟨0, 11⟩⟩ }
        type := .primitive .int ⟨⟨0, 13⟩, ⟨0, 16⟩⟩
        range := ⟨⟨0, 10⟩, ⟨0, 16⟩⟩ }]
      body := [.identifier { name := { name := ⟨["p"]⟩, range := ⟨⟨0, 20⟩, ⟨0, 21⟩⟩ } }] }] }

/-- Opens `game/main.sk`. -/
def openMain : List Op := [.register "game/main.sk", .setScript ⟨"game"⟩ mainScript]

theorem openMain_analysis : ∃ a w, ((ofConfig {}).run openMain).analysis = .ok (a, w) ∧
    w.files.Issued ⟨0⟩ ∧
    w.answer a (.documentLinks ⟨0⟩) = .documentLinks (some
      [⟨⟨⟨0, 20⟩, ⟨0, 21⟩⟩, ⟨⟨0⟩, ⟨⟨0, 10⟩, ⟨0, 16⟩⟩⟩, "Go to game/main.sk:1:11"⟩]) := by
  have hanswer : ((ofConfig {}).run openMain).analysis.toOption.map
      (fun (p : Snapshot × Workspace) =>
        (decide (p.2.files.Issued ⟨0⟩), p.1.documentLinks? p.2.files ⟨0⟩)) =
      some (true, some [⟨⟨⟨0, 20⟩, ⟨0, 21⟩⟩, ⟨⟨0⟩, ⟨⟨0, 10⟩, ⟨0, 16⟩⟩⟩,
        "Go to game/main.sk:1:11"⟩]) := by
    decide +kernel
  obtain ⟨a, w, h, hboth⟩ := exists_of_analysis hanswer
  obtain ⟨hissued, hlinks⟩ := Prod.mk.inj hboth
  exact ⟨a, w, h, of_decide_eq_true hissued, congrArg Answer.documentLinks hlinks⟩

/-- The file is forgotten and its script is taken out. What is shown on hover stays as it was. -/
theorem hover_stays_when_main_is_closed :
    let later := [Op.forget ⟨0⟩, .removeScript ⟨0⟩, .analyse]
    ∃ a w, ((ofConfig {}).run openMain).analysis = .ok (a, w) ∧
      (w.run later).answer a (.hover ⟨0⟩ ⟨0, 20⟩) = w.answer a (.hover ⟨0⟩ ⟨0, 20⟩) ∧
      (w.run later).files.path? ⟨0⟩ = none := by
  intro later
  obtain ⟨a, w, h, hissued, -⟩ := openMain_analysis
  obtain ⟨hanswers, hfiles, -⟩ := held_snapshot_changes_in_tooltips_only {} openMain later h
  refine ⟨a, w, h, ?_, (hfiles ⟨0⟩ hissued).1 (.head _)⟩
  exact (hanswers (.hover ⟨0⟩ ⟨0, 20⟩)).2.2 fun link hlink => nomatch hlink

/-- **Forgetting a file shows in a snapshot that was given out before.** -/
theorem forgotten_file_shows_in_held_snapshot :
    ∃ a w, ((ofConfig {}).run openMain).analysis = .ok (a, w) ∧
      w.answer a (.documentLinks ⟨0⟩) = .documentLinks (some
        [⟨⟨⟨0, 20⟩, ⟨0, 21⟩⟩, ⟨⟨0⟩, ⟨⟨0, 10⟩, ⟨0, 16⟩⟩⟩, "Go to game/main.sk:1:11"⟩]) ∧
      (w.run [.forget ⟨0⟩]).answer a (.documentLinks ⟨0⟩) = .documentLinks (some
        [⟨⟨⟨0, 20⟩, ⟨0, 21⟩⟩, ⟨⟨0⟩, ⟨⟨0, 10⟩, ⟨0, 16⟩⟩⟩, "Go to file#0:1:11"⟩]) ∧
      (w.run [.forget ⟨0⟩]).answer a (.documentLinks ⟨0⟩) ≠
        w.answer a (.documentLinks ⟨0⟩) := by
  obtain ⟨a, w, h, -, hbefore⟩ := openMain_analysis
  have hpath : (w.run [.forget ⟨0⟩]).files.path? ⟨0⟩ = none := by
    show (w.files.forget ⟨0⟩).path? ⟨0⟩ = none
    rw [w.files.path?_forget, if_pos rfl]
  have hafter : (w.run [.forget ⟨0⟩]).answer a (.documentLinks ⟨0⟩) = .documentLinks (some
      [⟨⟨⟨0, 20⟩, ⟨0, 21⟩⟩, ⟨⟨0⟩, ⟨⟨0, 10⟩, ⟨0, 16⟩⟩⟩, "Go to file#0:1:11"⟩]) := by
    have htooltip : "Go to " ++ FileId.text ⟨0⟩ ++ ":" ++ (Position.text? ⟨0, 10⟩).getD "" =
        "Go to file#0:1:11" := by decide +kernel
    rw [answer_inWords w, hbefore]
    simp only [Answer.inWords, Option.map_some, List.map_cons, List.map_nil, DocumentLink.inWords,
      FileSet.displayName, hpath, Option.getD_none, htooltip]
  refine ⟨a, w, h, hbefore, hafter, ?_⟩
  rw [hbefore, hafter]
  intro he
  simp only [Answer.documentLinks.injEq, Option.some.injEq, List.cons.injEq, and_true,
    DocumentLink.mk.injEq, true_and] at he
  exact absurd he (by decide)

end Workspace

end NameScope
