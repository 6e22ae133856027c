import Mathlib
import NameScope.Proofs.Session.Bystander
import NameScope.Proofs.Workspace.Coherent

/-!
# Whose diagnostics a snapshot shows

A snapshot keeps all diagnostics in one list, first those of indexing and then those of linking,
and the diagnostics of a file are picked out of it by the file that each of them names. Nothing is
lost, doubled or moved to another file by that: each file has one script, and whatever is reported
of a script names its file.

* `Snapshot.reports_of_build`: where linking ends well, it does so for each script on its own,
  whatever is linked in the scripts already;
* `countP_eq_sum_filter`: a list is counted part by part, where the parts are those of a key.

**Results.** * `diagnostics_are_shared_out_by_file`.
-/
namespace NameScope

/-- Of a list whose elements have keys among `keys`, the parts with one key make up the whole. -/
theorem countP_eq_sum_filter {α κ : Type} [DecidableEq κ] (key : α → κ) (p : α → Bool)
    {keys : List κ} (hn : keys.Nodup) {l : List α} (h : ∀ a ∈ l, key a ∈ keys) :
    l.countP p = (keys.map fun k => (l.filter (key · == k)).countP p).sum := by
  induction keys generalizing l with
  | nil =>
    have hl : l = [] := List.eq_nil_iff_forall_not_mem.2 fun a ha => nomatch h a ha
    rw [hl]
    rfl
  | cons k keys ih =>
    obtain ⟨hk, hn⟩ := List.nodup_cons.1 hn
    let others := l.filter fun a => !key a == k
    have hothers : ∀ a ∈ others, key a ∈ keys := by
      intro a ha
      obtain ⟨ha, hne⟩ := List.mem_filter.1 ha
      have hne : key a ≠ k := by simpa using hne
      exact (List.mem_cons.1 (h a ha)).resolve_left hne
    have hparts : ∀ k' ∈ keys, (others.filter (key · == k')).countP p =
        (l.filter (key · == k')).countP p := by
      intro k' hk'
      have hne : k' ≠ k := fun he => hk (he ▸ hk')
      rw [List.filter_filter]
      congr 1
      refine List.filter_congr fun a _ => ?_
      by_cases ha : key a = k'
      · simp [ha, hne]
      · simp [ha]
    have hrest : others.countP p = (keys.map fun k' => (l.filter (key · == k')).countP p).sum := by
      rw [ih hn hothers, List.map_congr_left hparts]
    rw [List.countP_eq_countP_filter_add l p (key · == k), List.map_cons, List.sum_cons, ← hrest]

/-! ## Linking that ends well -/

namespace Snapshot

section

variable {config : Config} {scripts : List BundledScript} {a : Snapshot}

/-- What a snapshot that was built keeps of the reports. -/
theorem reports_of_build (h : Snapshot.build config scripts = .ok a) :
    let x := Indexed.ofScripts config scripts
    let reports := fun s : Script => (s.link x.registry x.types config).reports
    (∀ s ∈ scripts, s.script.linked x.registry x.types config =
      .ok ((s.script.link x.registry x.types config).node, reports s.script)) ∧
    a.reports = x.diagnostics ++ (scripts.map (·.script)).flatMap reports := by
  intro x reports
  have hlinked : ∀ s ∈ scripts.map (·.script), s.linked x.registry x.types config =
      .ok ((s.link x.registry x.types config).node, reports s) := by
    cases hall : linkAll x.registry x.types config (scripts.map (·.script)) with
    | error e => exact nomatch (build_of_refused hall).symm.trans h
    | ok result => exact linked_of_linkAll hall
  have ha := (build_of_linked config scripts (f := fun s =>
    ((s.link x.registry x.types config).node, reports s)) hlinked).symm.trans h
  refine ⟨fun s hs => hlinked s.script (List.mem_map_of_mem hs), ?_⟩
  rw [← Except.ok.inj ha]

/-- Each report is within a script of the snapshot. -/
theorem within_of_mem_reports (h : Snapshot.build config scripts = .ok a) :
    ∀ d ∈ a.reports, ∃ s ∈ scripts, d.Within s.script := by
  obtain ⟨hlinked, hreports⟩ := reports_of_build h
  rw [hreports]
  refine List.forall_mem_append.2 ⟨Indexed.within_of_mem_addScripts, fun d hd => ?_⟩
  obtain ⟨script, hscript, hd⟩ := List.mem_flatMap.1 hd
  obtain ⟨s, hs, rfl⟩ := List.mem_map.1 hscript
  exact ⟨s, hs, (Script.within_of_linked (hlinked s hs)).2 d hd⟩

theorem file_of_mem_reports (h : Snapshot.build config scripts = .ok a) :
    ∀ d ∈ a.reports, d.file ∈ scripts.map (·.script.file) := by
  intro d hd
  obtain ⟨s, hs, hwithin⟩ := within_of_mem_reports h d hd
  rw [hwithin.file]
  exact List.mem_map_of_mem hs

/-- The diagnostics of a file are those of its script: of indexing, then of linking. -/
theorem diagnostics_of_build (h : Snapshot.build config scripts = .ok a)
    (hfiles : (scripts.map (·.script.file)).Nodup) {before after : List BundledScript}
    {s : BundledScript} (hs : scripts = before ++ s :: after) :
    let x := Indexed.ofScripts config scripts
    ∃ tree linking, s.script.linked x.registry x.types config = .ok (tree, linking) ∧
      a.diagnostics s.script.file = Indexed.reportsAfter config x.types before s ++ linking := by
  intro x
  obtain ⟨hlinked, hreports⟩ := reports_of_build h
  have hmem : s ∈ scripts := by
    rw [hs]
    exact List.mem_append_right _ List.mem_cons_self
  have hindexing : x.diagnostics.filter (·.file == s.script.file) =
      Indexed.reportsAfter config x.types before s := by
    have hdiagnostics : x.diagnostics =
        (Indexed.addScripts config x.types .empty (before ++ s :: after)).2 := by
      rw [← hs]
      rfl
    rw [hdiagnostics]
    exact Indexed.filter_addScripts (hs ▸ hfiles)
  have hnodup : ((scripts.map (·.script)).map Script.file).Nodup := by
    rw [List.map_map]
    exact hfiles
  have hlinking : ((scripts.map (·.script)).flatMap fun t =>
      (t.link x.registry x.types config).reports).filter (·.file == s.script.file) =
        (s.script.link x.registry x.types config).reports := by
    refine filter_flatMap_file hnodup (fun script hscript d hd => ?_) (List.mem_map_of_mem hmem)
    obtain ⟨t, ht, rfl⟩ := List.mem_map.1 hscript
    exact ((Script.within_of_linked (hlinked t ht)).2 d hd).file
  refine ⟨_, _, hlinked s hmem, ?_⟩
  unfold diagnostics
  rw [hreports, List.filter_append]
  exact congrArg₂ (· ++ ·) hindexing hlinking

end

end Snapshot

/-! ## Workspaces -/

namespace Workspace

/-- **The diagnostics of a snapshot are shared out by file**, whatever is linked in the scripts
already. A file that has a script shows what indexing returned for it in its turn and then what
linking returned for it, all of it at names and references of this script; any other file shows
nothing. The errors of all these files are as many as the snapshot counts. -/
theorem diagnostics_are_shared_out_by_file (config : Config) (ops : List Op) {a : Snapshot}
    {w' : Workspace} (h : ((ofConfig config).run ops).analysis = .ok (a, w')) :
    let w := (ofConfig config).run ops
    let x := Indexed.ofScripts w.config w.scripts.values
    (∀ before s after, w.scripts.values = before ++ s :: after → ∃ tree linking,
      s.script.linked x.registry x.types w.config = .ok (tree, linking) ∧
      a.diagnostics s.script.file =
        Indexed.reportsAfter w.config x.types before s ++ linking ∧
      ∀ d ∈ a.diagnostics s.script.file, d.Within s.script) ∧
    (∀ file, file ∉ w.scripts.keys → a.diagnostics file = []) ∧
    a.errorCount =
      (w.scripts.keys.map fun file => (a.diagnostics file).countP Diagnostic.isError).sum := by
  intro w x
  have hcoherent : Coherent w (Session.run ⟨config, []⟩ ops) := (Coherent.ofConfig config).run ops
  have hbuild : Snapshot.build w.config w.scripts.values = .ok a := hcoherent.build_of_analysis h
  have hfile := Snapshot.file_of_mem_reports hbuild
  rw [← hcoherent.keys_eq] at hfile
  refine ⟨fun before s after hs => ?_, fun file hnot => ?_, ?_⟩
  · obtain ⟨tree, linking, hlinked, hdiagnostics⟩ :=
      Snapshot.diagnostics_of_build hbuild hcoherent.nodup_files hs
    refine ⟨tree, linking, hlinked, hdiagnostics, ?_⟩
    rw [hdiagnostics]
    exact List.forall_mem_append.2
      ⟨Indexed.within_of_mem_addScript, (Script.within_of_linked hlinked).2⟩
  · refine List.filter_eq_nil_iff.2 fun d hd he => hnot ?_
    rw [← beq_iff_eq.1 he]
    exact hfile d hd
  · exact countP_eq_sum_filter Diagnostic.file Diagnostic.isError w.scripts.nodup_keys hfile

/-- Two scripts of one package declare `main`. The second one is reported for that, with a pointer
to the first, and each for its call of `helper`. -/
theorem diagnostics_of_two_callers :
    let ops := [Op.setScript ⟨"core"⟩ (callersOf ⟨0⟩ ["main"]).script,
      .setScript ⟨"core"⟩ (callersOf ⟨1⟩ ["main"]).script]
    ∃ a w', ((ofConfig {}).run ops).analysis = .ok (a, w') ∧
      (a.diagnostics ⟨0⟩).map (·.code) = [some "E0001"] ∧
      (a.diagnostics ⟨1⟩).map (fun d => (d.code, d.related.map (·.location.file))) =
        [(some "E0005", [⟨0⟩]), (some "E0001", [])] ∧
      a.diagnostics ⟨2⟩ = [] ∧ a.errorCount = 3 := by
  intro ops
  have hanswer : ((ofConfig {}).run ops).analysis.toOption.map
      (fun (p : Snapshot × Workspace) => ((p.1.diagnostics ⟨0⟩).map (·.code),
        (p.1.diagnostics ⟨1⟩).map (fun d => (d.code, d.related.map (·.location.file))),
        [⟨0⟩, ⟨1⟩].map fun file => (p.1.diagnostics file).countP Diagnostic.isError)) =
      some ([some "E0001"], [(some "E0005", [⟨0⟩]), (some "E0001", [])], [1, 2]) := by
    decide
  obtain ⟨a, w', h, hcodes⟩ := exists_of_analysis hanswer
  obtain ⟨hfirst, hsecond, herrors⟩ := by simpa only [Prod.mk.injEq] using hcodes
  obtain ⟨-, hothers, hcount⟩ := diagnostics_are_shared_out_by_file {} ops h
  refine ⟨a, w', h, hfirst, hsecond, hothers ⟨2⟩ (by decide), ?_⟩
  have hkeys : ((ofConfig {}).run ops).scripts.keys = [⟨0⟩, ⟨1⟩] := rfl
  rw [hcount, hkeys, herrors]
  rfl

end Workspace

end NameScope
