import NameScope.Proofs.Declared.Reordered
import NameScope.Proofs.Linking.Accounts
import NameScope.Proofs.Linking.Relink
import NameScope.Workspace

/-!
# What a session makes of a script

A session gives each of its scripts a linked tree and two lists of diagnostics, those of indexing
and those of linking (`Indexed.Makes`). A snapshot keeps the trees by file and all diagnostics in
one list. Where each file has one script, both can be read off the snapshot again.

**Results.**
* `Script.within_of_linked`: linking keeps the file of a script and reports at its references;
* `linkAll_of_linked`, `linked_of_linkAll`, `exists_refused_of_linkAll`: scripts are linked
  independently of one another;
* `Snapshot.build_of_unlinked`: if no reference is linked yet, there is a snapshot, and it holds
  of each file what the session makes of its script.
-/
namespace NameScope

/-- What a session makes of a script: the linked tree, what indexing reports in its file, and what
linking reports. -/
structure Indexed.Makes (x : Indexed) (config : Config) (script tree : Script)
    (indexing linking : List Diagnostic) : Prop where
  indexing : x.diagnostics.filter (·.file == script.file) = indexing
  linking : script.linked x.registry x.types config = .ok (tree, linking)

/-! ## Linking one script -/

section

variable {registry : Registry} {types : TypeIndex} {config : Config} {script : Script}

/-- Linking keeps the file of a script, and reports at its references. -/
theorem Script.within_of_linked {tree : Script} {reports : List Diagnostic}
    (h : script.linked registry types config = .ok (tree, reports)) :
    tree.file = script.file ∧ ∀ d ∈ reports, d.Within script := by
  have hfile : tree.erase.file = script.erase.file :=
    congrArg Script.file (Script.erase_of_linked h)
  refine ⟨hfile, fun d hd => ?_⟩
  rw [(Script.eq_of_linked h).2, (script.link_follows registry types config).reports] at hd
  obtain ⟨site, hsite, hreport⟩ :=
    List.mem_filterMap.1 ((Site.linkAll_reports_prefix _ _).subset hd)
  have hreported := Site.reported_of_report? hreport
  refine ⟨hreported.file, .inr ⟨site.reference, ?_, hreported.range⟩⟩
  rw [← script.references_sites]
  exact List.mem_map_of_mem hsite

theorem Script.linked_of_unlinked_file (h : ∀ r ∈ script.references, r.target = none) :
    ∃ tree reports, script.linked registry types config = .ok (tree, reports) ∧
      tree.file = script.file ∧ ∀ d ∈ reports, d.file = script.file := by
  obtain ⟨tree, hok, -⟩ := script.linked_of_unlinked registry types config h
  obtain ⟨hfile, hreports⟩ := Script.within_of_linked hok
  exact ⟨tree, _, hok, hfile, fun d hd => (hreports d hd).file⟩

/-- Scripts are linked independently of one another. -/
theorem linkAll_of_linked {f : Script → Script × List Diagnostic} {scripts : List Script}
    (h : ∀ s ∈ scripts, s.linked registry types config = .ok (f s)) :
    linkAll registry types config scripts =
      .ok (scripts.map fun s => (f s).1, scripts.flatMap fun s => (f s).2) := by
  induction scripts with
  | nil => rfl
  | cons s scripts ih =>
    unfold linkAll
    rw [h s List.mem_cons_self, ih fun s' hs' => h s' (List.mem_cons_of_mem _ hs')]
    rfl

/-- All that linking one more script can lead to. -/
theorem linkAll_cases (registry : Registry) (types : TypeIndex) (config : Config) (s : Script)
    (scripts : List Script) :
    (∃ e, s.linked registry types config = .error e ∧
      linkAll registry types config (s :: scripts) = .error e) ∨
    (∃ e, linkAll registry types config scripts = .error e ∧
      linkAll registry types config (s :: scripts) = .error e) ∨
    ∃ p rest, s.linked registry types config = .ok p ∧
      linkAll registry types config scripts = .ok rest ∧
      linkAll registry types config (s :: scripts) = .ok (p.1 :: rest.1, p.2 ++ rest.2) := by
  rw [linkAll]
  cases s.linked registry types config with
  | error e => exact .inl ⟨e, rfl, rfl⟩
  | ok p =>
    cases linkAll registry types config scripts with
    | error e => exact .inr (.inl ⟨e, rfl, rfl⟩)
    | ok rest => exact .inr (.inr ⟨p, rest, rfl, rfl, rfl⟩)

/-- If linking ends well, it does so in each script. -/
theorem linked_of_linkAll {scripts : List Script} {result : List Script × List Diagnostic}
    (h : linkAll registry types config scripts = .ok result) :
    ∀ s ∈ scripts, s.linked registry types config =
      .ok ((s.link registry types config).node, (s.link registry types config).reports) := by
  induction scripts generalizing result with
  | nil => exact fun s hs => nomatch hs
  | cons s scripts ih =>
    obtain ⟨e, -, hall⟩ | ⟨e, -, hall⟩ | ⟨p, rest, hs, hrest, -⟩ :=
      linkAll_cases registry types config s scripts
    · exact nomatch hall.symm.trans h
    · exact nomatch hall.symm.trans h
    · refine List.forall_mem_cons.2 ⟨?_, ih hrest⟩
      obtain ⟨hnode, hreports⟩ := Script.eq_of_linked hs
      rw [hs, ← hnode, ← hreports]

/-- If linking stops, one of the scripts tells why. -/
theorem exists_refused_of_linkAll {scripts : List Script} {e : LinkError}
    (h : linkAll registry types config scripts = .error e) :
    ∃ s ∈ scripts, s.linked registry types config = .error e := by
  induction scripts with
  | nil => cases h
  | cons s scripts ih =>
    obtain ⟨e', hs, hall⟩ | ⟨e', hrest, hall⟩ | ⟨p, rest, -, -, hall⟩ :=
      linkAll_cases registry types config s scripts
    · cases hall.symm.trans h
      exact ⟨s, List.mem_cons_self, hs⟩
    · cases hall.symm.trans h
      obtain ⟨s', hs', he⟩ := ih hrest
      exact ⟨s', List.mem_cons_of_mem _ hs', he⟩
    · exact nomatch hall.symm.trans h

end

/-! ## Linking all of them -/

/-- Of the reports of all scripts, those in one file are those of its script. -/
theorem filter_flatMap_file {α : Type} {file : α → FileId} {reports : α → List Diagnostic}
    {l : List α} (hn : (l.map file).Nodup) (hfile : ∀ a ∈ l, ∀ d ∈ reports a, d.file = file a)
    {a : α} (ha : a ∈ l) : (l.flatMap reports).filter (·.file == file a) = reports a := by
  have hother : ∀ b ∈ l, file b ≠ file a → (reports b).filter (·.file == file a) = [] := by
    intro b hb hne
    refine List.filter_eq_nil_iff.2 fun d hd => ?_
    rw [hfile b hb d hd]
    simpa using hne
  have hown : (reports a).filter (·.file == file a) = reports a :=
    List.filter_eq_self.2 fun d hd => by simp [hfile a ha d hd]
  induction l with
  | nil => cases ha
  | cons b l ih =>
    rw [List.map_cons, List.nodup_cons] at hn
    rw [List.flatMap_cons, List.filter_append]
    rcases List.mem_cons.1 ha with rfl | ha
    · have hrest : (l.flatMap reports).filter (·.file == file a) = [] := by
        rw [List.filter_flatMap, List.flatMap_eq_nil_iff]
        exact fun c hc => hother c (List.mem_cons_of_mem _ hc) fun he =>
          hn.1 (he ▸ List.mem_map_of_mem hc)
      rw [hown, hrest, List.append_nil]
    · have hb : file b ≠ file a := fun he => hn.1 (he ▸ List.mem_map_of_mem ha)
      rw [hother b List.mem_cons_self hb, List.nil_append]
      exact ih hn.2 (fun c hc => hfile c (List.mem_cons_of_mem _ hc)) ha
        fun c hc => hother c (List.mem_cons_of_mem _ hc)

/-- The snapshot holds what the session makes of a script. -/
structure Snapshot.Holds (a : Snapshot) (config : Config) (scripts : List BundledScript)
    (script tree : Script) (indexing linking : List Diagnostic) : Prop where
  makes : (Indexed.ofScripts config scripts).Makes config script tree indexing linking
  found : a.script? script.file = some tree
  diagnostics : a.diagnostics script.file = indexing ++ linking

theorem Snapshot.build_of_refused {config : Config} {scripts : List BundledScript} {e : LinkError}
    (h : linkAll (Indexed.ofScripts config scripts).registry
      (Indexed.ofScripts config scripts).types config (scripts.map (·.script)) = .error e) :
    Snapshot.build config scripts = .error e := by
  simp only [Snapshot.build]
  rw [h]
  rfl

theorem Snapshot.build_of_linkAll {config : Config} {scripts : List BundledScript}
    {trees : List Script} {reports : List Diagnostic}
    (h : linkAll (Indexed.ofScripts config scripts).registry
      (Indexed.ofScripts config scripts).types config (scripts.map (·.script)) =
        .ok (trees, reports)) :
    Snapshot.build config scripts = .ok {
      registry := (Indexed.ofScripts config scripts).registry
      types := (Indexed.ofScripts config scripts).types
      scripts := .ofList (trees.map fun t => (t.file, t))
      reports := (Indexed.ofScripts config scripts).diagnostics ++ reports } := by
  simp only [Snapshot.build]
  rw [h]
  rfl

/-- The snapshot of scripts that can be linked one by one. -/
theorem Snapshot.build_of_linked (config : Config) (scripts : List BundledScript)
    {f : Script → Script × List Diagnostic}
    (h : ∀ s ∈ scripts.map (·.script), s.linked (Indexed.ofScripts config scripts).registry
      (Indexed.ofScripts config scripts).types config = .ok (f s)) :
    Snapshot.build config scripts = .ok {
      registry := (Indexed.ofScripts config scripts).registry
      types := (Indexed.ofScripts config scripts).types
      scripts := .ofList (((scripts.map (·.script)).map fun s => (f s).1).map fun t => (t.file, t))
      reports := (Indexed.ofScripts config scripts).diagnostics ++
        (scripts.map (·.script)).flatMap fun s => (f s).2 } :=
  build_of_linkAll (linkAll_of_linked h)

/-- **Of scripts in which nothing is linked yet there is a snapshot**, and it holds what the session
makes of each of them. -/
theorem Snapshot.build_of_unlinked (config : Config) (scripts : List BundledScript)
    (hfiles : (scripts.map (·.script.file)).Nodup)
    (hunlinked : ∀ s ∈ scripts, ∀ r ∈ s.script.references, r.target = none) :
    ∃ a, Snapshot.build config scripts = .ok a ∧
      ∀ s ∈ scripts, ∀ tree indexing linking,
        (Indexed.ofScripts config scripts).Makes config s.script tree indexing linking →
        a.Holds config scripts s.script tree indexing linking := by
  let x := Indexed.ofScripts config scripts
  let f : Script → Script × List Diagnostic := fun s =>
    ((s.link x.registry x.types config).node, (s.link x.registry x.types config).reports)
  have hlinked : ∀ s ∈ scripts.map (·.script), s.linked x.registry x.types config = .ok (f s) ∧
      (f s).1.file = s.file ∧ ∀ d ∈ (f s).2, d.file = s.file := by
    intro script hscript
    obtain ⟨s, hs, rfl⟩ := List.mem_map.1 hscript
    obtain ⟨tree, reports, hok, hfile, hreports⟩ :=
      Script.linked_of_unlinked_file (hunlinked s hs)
    obtain ⟨rfl, rfl⟩ := Script.eq_of_linked hok
    exact ⟨hok, hfile, hreports⟩
  refine ⟨_, build_of_linked config scripts fun s hs => (hlinked s hs).1, ?_⟩
  intro s hs tree indexing linking hmakes
  have hmem : s.script ∈ scripts.map (·.script) := List.mem_map_of_mem hs
  obtain ⟨htree, hlinking⟩ := Script.eq_of_linked hmakes.linking
  refine ⟨hmakes, ?_, ?_⟩
  · let trees := (scripts.map (·.script)).map fun s => (f s).1
    have hkeys : (trees.map fun t => (t.file, t)).map Prod.fst = scripts.map (·.script.file) := by
      simp only [trees, List.map_map]
      exact List.map_congr_left fun s hs => (hlinked s.script (List.mem_map_of_mem hs)).2.1
    refine OrderedMap.get?_ofList_of_mem (hkeys ▸ hfiles) ?_
    refine List.mem_map.2 ⟨(f s.script).1, List.mem_map_of_mem hmem, ?_⟩
    rw [(hlinked s.script hmem).2.1, htree]
  · have hown : ((scripts.map (·.script)).flatMap fun s => (f s).2).filter
        (·.file == s.script.file) = (f s.script).2 :=
      filter_flatMap_file (by simpa [Function.comp_def] using hfiles)
        (fun s hs => (hlinked s hs).2.2) hmem
    simp only [Snapshot.diagnostics, List.filter_append]
    rw [hown, hlinking, ← hmakes.indexing]

end NameScope
