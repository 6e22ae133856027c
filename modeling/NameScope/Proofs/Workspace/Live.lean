import NameScope.Proofs.Editor.Agreement
import NameScope.Proofs.Linking.Targets
import NameScope.Proofs.Session.Makes
import NameScope.Proofs.Workspace.Coherent

/-!
# The links of a snapshot are live

A workspace goes through any operations, and then it is analysed. Each link of the snapshot targets
a declaration of the scripts that the workspace has now, the one that stands there under the
settings that it has now: nothing is left of scripts that were replaced or taken out.

The setting is a workspace in whose scripts nothing is linked yet.

* `Script.live_of_linked`: the links of one script;
* `Snapshot.live_of_unlinked`: those of all scripts of a snapshot.

**Results.** * `links_are_live`: so it is after any operations, and the file that an editor goes to
has a script in the snapshot.
-/
namespace NameScope

/-- The tree is the script with links, and each of these targets a declaration that stands. -/
structure Snapshot.Live (a : Snapshot) (config : Config) (scripts : List BundledScript)
    (script tree : Script) : Prop where
  same : tree.erase = script.erase
  /-- The references of the tree, each beside its site in the script. -/
  links : List.Forall₂
    (fun (site : Site) (r : Reference) => ∀ target, r.target = some target →
      site.Means config scripts script target)
    (script.sites (.ofScript a.registry a.types config script)) tree.references

section

variable {config : Config} {scripts : List BundledScript}

/-- A link of the tree targets what its site means. -/
theorem Snapshot.Live.exists_site {a : Snapshot} {script tree : Script}
    (h : a.Live config scripts script tree) {r : Reference} (hr : r ∈ tree.references)
    {target : Target} (htarget : r.target = some target) :
    ∃ site : Site, site.Means config scripts script target := by
  have hmem : ∀ {sites : List Site} {rs : List Reference}, List.Forall₂
      (fun (site : Site) (r : Reference) => ∀ target, r.target = some target →
        site.Means config scripts script target) sites rs → r ∈ rs →
      ∃ site : Site, site.Means config scripts script target := by
    intro sites rs hrs hr
    induction hrs with
    | nil => cases hr
    | cons hlink _ ih =>
      rcases List.mem_cons.1 hr with rfl | hr
      · exact ⟨_, hlink target htarget⟩
      · exact ih hr
  exact hmem h.links hr

/-! ## All links of a snapshot -/

/-- The links of one script. -/
theorem Script.live_of_linked {script tree : Script} {reports : List Diagnostic}
    (hunlinked : ∀ r ∈ script.references, r.target = none)
    (hlinked : script.linked (Indexed.ofScripts config scripts).registry
      (Indexed.ofScripts config scripts).types config = .ok (tree, reports)) {a : Snapshot}
    (hregistry : a.registry = (Indexed.ofScripts config scripts).registry)
    (htypes : a.types = (Indexed.ofScripts config scripts).types) :
    a.Live config scripts script tree := by
  refine ⟨Script.erase_of_linked hlinked, ?_⟩
  obtain ⟨tree', hok, hreferences⟩ := script.linked_of_unlinked
    (Indexed.ofScripts config scripts).registry (Indexed.ofScripts config scripts).types config
    hunlinked
  rw [hlinked] at hok
  cases hok
  rw [hregistry, htypes, hreferences, List.forall₂_map_right_iff, List.forall₂_same]
  intro site hsite target htarget
  have hsame := script.references_sites (.ofScript (Indexed.ofScripts config scripts).registry
    (Indexed.ofScripts config scripts).types config script)
  have hnone : site.reference.target = none :=
    hunlinked _ (hsame ▸ List.mem_map_of_mem hsite)
  rw [Site.target_settled _ _ hnone] at htarget
  exact Site.means_of_target? hsite htarget

/-- **The links of a snapshot are live.** It has a tree for each script and no other trees. -/
theorem Snapshot.live_of_unlinked (config : Config)
    (hfiles : (scripts.map (·.script.file)).Nodup)
    (hunlinked : ∀ s ∈ scripts, ∀ r ∈ s.script.references, r.target = none) :
    ∃ a, Snapshot.build config scripts = .ok a ∧
      (∀ s ∈ scripts, ∃ tree, a.script? s.script.file = some tree) ∧
      ∀ file tree, a.script? file = some tree →
        ∃ s ∈ scripts, s.script.file = file ∧ a.Live config scripts s.script tree := by
  let x := Indexed.ofScripts config scripts
  let f : Script → Script × List Diagnostic := fun s =>
    ((s.link x.registry x.types config).node, (s.link x.registry x.types config).reports)
  have hlinked : ∀ s ∈ scripts, s.script.linked x.registry x.types config = .ok (f s.script) ∧
      (f s.script).1.file = s.script.file := by
    intro s hs
    obtain ⟨tree, reports, hok, hfile, -⟩ := Script.linked_of_unlinked_file (hunlinked s hs)
    obtain ⟨rfl, rfl⟩ := Script.eq_of_linked hok
    exact ⟨hok, hfile⟩
  have hbuild := Snapshot.build_of_linked config scripts (f := f)
    fun script hscript => by
      obtain ⟨s, hs, rfl⟩ := List.mem_map.1 hscript
      exact (hlinked s hs).1
  let trees := (scripts.map (·.script)).map fun s => (f s).1
  have hkeys : (trees.map fun t => (t.file, t)).map Prod.fst = scripts.map (·.script.file) := by
    simp only [trees, List.map_map]
    exact List.map_congr_left fun s hs => (hlinked s hs).2
  have hnodup : ((trees.map fun t => (t.file, t)).map Prod.fst).Nodup := hkeys ▸ hfiles
  refine ⟨_, hbuild, fun s hs => ⟨(f s.script).1, ?_⟩, fun file tree htree => ?_⟩
  · refine OrderedMap.get?_ofList_of_mem hnodup (List.mem_map.2 ⟨(f s.script).1, ?_, ?_⟩)
    · exact List.mem_map_of_mem (List.mem_map_of_mem hs)
    · rw [(hlinked s hs).2]
  · have hentry := (OrderedMap.get?_eq_some_iff _ _ _).1 htree
    rw [OrderedMap.entries_ofList hnodup] at hentry
    obtain ⟨t, ht, he⟩ := List.mem_map.1 hentry
    cases he
    obtain ⟨script, hscript, rfl⟩ := List.mem_map.1 ht
    obtain ⟨s, hs, rfl⟩ := List.mem_map.1 hscript
    exact ⟨s, hs, (hlinked s hs).2.symm,
      Script.live_of_linked (hunlinked s hs) (hlinked s hs).1 rfl rfl⟩

end

namespace Workspace

theorem analysis_of_analyse {w : Workspace} {a : Snapshot} (h : w.analyse.1 = .ok a) :
    w.analysis = .ok (a, w.analyse.2) := by
  unfold analyse at h ⊢
  split at h
  · rename_i snapshot w' hanalysis
    cases h
    rw [hanalysis]
  · cases h

/-- **Links are sound and live.** After any operations on a workspace without scripts, its present
scripts being unlinked, there is a snapshot. Its trees are these scripts with links, each link
targets a declaration that stands in them, and wherever an editor goes there is a script. -/
theorem links_are_live (config : Config) (ops : List Op)
    (h : ∀ s ∈ ((ofConfig config).run ops).scripts.values,
      ∀ r ∈ s.script.references, r.target = none) :
    let w := (ofConfig config).run ops
    let scripts := w.scripts.values
    ∃ a w', w.analysis = .ok (a, w') ∧
      (∀ s ∈ scripts, ∃ tree, a.script? s.script.file = some tree) ∧
      (∀ file tree, a.script? file = some tree →
        ∃ s ∈ scripts, s.script.file = file ∧ a.Live w.config scripts s.script tree) ∧
      ∀ file position definition, a.definition file position = some definition →
        ∃ tree, a.script? definition.target.file = some tree := by
  intro w scripts
  have hcoherent : Coherent w (Session.run ⟨config, []⟩ ops) := (Coherent.ofConfig config).run ops
  obtain ⟨a, hbuild, hfound, hlive⟩ := Snapshot.live_of_unlinked w.config hcoherent.nodup_files h
  have hanswer : w.analyse.1 = .ok a := by
    rw [hcoherent.analyse_fst, ← hcoherent.build]
    exact hbuild
  refine ⟨a, _, analysis_of_analyse hanswer, hfound, hlive, ?_⟩
  intro file position definition hdefinition
  obtain ⟨tree, htree, hgoes⟩ := Option.bind_eq_some_iff.1 hdefinition
  obtain ⟨s, hs, -, hlinks⟩ := hlive file tree htree
  obtain ⟨r, hr, target, htarget, hsame⟩ := Script.exists_reference_of_definition hgoes
  obtain ⟨site, hmeans⟩ := hlinks.exists_site hr htarget
  rw [hsame]
  rcases hmeans.file with hfile | ⟨t, ht, hfile⟩
  · rw [hfile]
    exact hfound s hs
  · rw [← hfile]
    exact hfound t ht

/-- `struct Point { x: int }` in the package `util`, on some line of a file. -/
def pointOn (line : UInt32) : Script :=
  { file := ⟨0⟩
    package := ⟨["util"]⟩
    structs := [{
      name := { text := "Point" }
      range := ⟨⟨line, 0⟩, ⟨line, 24⟩⟩
      fields := [{
        name := { text := "x" }
        type := .primitive .int {}
        range := ⟨⟨line, 15⟩, ⟨line, 21⟩⟩ }] }] }

/-- `func main(p: Point) { p.x }`, in a script that imports `util`. -/
def pointReader : Script :=
  { file := ⟨1⟩
    package := ⟨["game"]⟩
    imports := [{ name := ⟨["util"]⟩ }]
    funcs := [{
      name := { text := "main" }
      params := [{
        name := { text := "p" }
        type := .named { name := ⟨["Point"]⟩ }
        range := ⟨⟨0, 10⟩, ⟨0, 18⟩⟩ }]
      body := [.field (.identifier { name := { name := ⟨["p"]⟩ } }) { name := ⟨["x"]⟩ }] }] }

/-- The script of `Point` is replaced after an analysis. The links then go to its new line. -/
theorem links_follow_moved_point :
    let ops := [Op.setScript ⟨"core"⟩ (pointOn 1), .setScript ⟨"core"⟩ pointReader, .analyse,
      .setScript ⟨"core"⟩ (pointOn 7)]
    let w := (ofConfig {}).run ops
    (∀ s ∈ w.scripts.values, ∀ r ∈ s.script.references, r.target = none) ∧
    ∃ a w' tree, w.analysis = .ok (a, w') ∧ a.script? ⟨1⟩ = some tree ∧
      a.Live w.config w.scripts.values pointReader tree ∧
      tree.references.map (fun r => r.target.map (·.location)) =
        [some ⟨⟨0⟩, ⟨⟨7, 0⟩, ⟨7, 24⟩⟩⟩, some ⟨⟨1⟩, ⟨⟨0, 10⟩, ⟨0, 18⟩⟩⟩,
          some ⟨⟨0⟩, ⟨⟨7, 15⟩, ⟨7, 21⟩⟩⟩] := by
  intro ops w
  have h : ∀ s ∈ w.scripts.values, ∀ r ∈ s.script.references, r.target = none := by decide
  obtain ⟨a, w', hanswer, hfound, hlive, -⟩ := links_are_live {} ops h
  have hvalues : w.scripts.values = [⟨⟨"core"⟩, pointOn 7⟩, ⟨⟨"core"⟩, pointReader⟩] := rfl
  have hreader : (⟨⟨"core"⟩, pointReader⟩ : BundledScript) ∈ w.scripts.values := by
    rw [hvalues]
    exact .tail _ (.head _)
  obtain ⟨tree, htree⟩ := hfound _ hreader
  obtain ⟨s, hs, hfile, hlinks⟩ := hlive _ tree htree
  have hs : s = ⟨⟨"core"⟩, pointReader⟩ := by
    rw [hvalues] at hs
    rcases List.mem_pair.1 hs with rfl | rfl
    · cases hfile
    · rfl
  have htargets : ((w.analysis.toOption.bind fun p => p.1.script? ⟨1⟩).map fun tree =>
      tree.references.map fun r => r.target.map (·.location)) =
        some [some ⟨⟨0⟩, ⟨⟨7, 0⟩, ⟨7, 24⟩⟩⟩, some ⟨⟨1⟩, ⟨⟨0, 10⟩, ⟨0, 18⟩⟩⟩,
          some ⟨⟨0⟩, ⟨⟨7, 15⟩, ⟨7, 21⟩⟩⟩] := by decide
  have htree : a.script? ⟨1⟩ = some tree := htree
  have hsnapshot : (w.analysis.toOption.bind fun p => p.1.script? ⟨1⟩) = some tree := by
    rw [hanswer]
    exact htree
  rw [hsnapshot] at htargets
  rw [hs] at hlinks
  exact ⟨h, a, w', tree, hanswer, htree, hlinks, Option.some.inj htargets⟩

end Workspace

end NameScope
