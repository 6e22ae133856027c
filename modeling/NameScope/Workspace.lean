import NameScope.Declared.Session
import NameScope.Editor.Query
import NameScope.Linking.Script

/-!
# Workspaces and their snapshots

A workspace holds the scripts of a session as they were set, unlinked. A snapshot is what indexing
and linking all of them gives; it is kept until a script or the settings change. A snapshot does
not hold paths: the files of the workspace at the time of the question supply them.

**Results.** * `analysis_of_kept`, `analysis_of_not_kept`: a kept snapshot is given out again, and
otherwise a fresh build is.
-/
namespace NameScope

/-- All scripts of a session, indexed and linked. -/
structure Snapshot where
  registry : Registry
  types : TypeIndex
  scripts : OrderedMap FileId Script
  /-- The diagnostics of all scripts: first those of indexing, then those of linking. -/
  reports : List Diagnostic
  deriving Repr

namespace Snapshot

/-- Indexes and links scripts. -/
def build (config : Config) (scripts : List BundledScript) : Except LinkError Snapshot := do
  let indexed := Indexed.ofScripts config scripts
  let (linked, reports) ←
    linkAll indexed.registry indexed.types config (scripts.map (·.script))
  return {
    registry := indexed.registry
    types := indexed.types
    scripts := .ofList (linked.map fun s => (s.file, s))
    reports := indexed.diagnostics ++ reports }

/-- The linked script of a file. -/
def script? (s : Snapshot) (file : FileId) : Option Script := s.scripts.get? file

/-- The diagnostics of a file. -/
def diagnostics (s : Snapshot) (file : FileId) : List Diagnostic :=
  s.reports.filter (·.file == file)

/-- The number of errors in all files. -/
def errorCount (s : Snapshot) : Nat := s.reports.countP Diagnostic.isError

def hover (s : Snapshot) (file : FileId) (position : Position) : Option Hover :=
  (s.script? file).bind (·.hover position)

def definition (s : Snapshot) (file : FileId) (position : Position) : Option Definition :=
  (s.script? file).bind (·.definition position)

/-- The links of a file's script, with the paths that `files` knows. -/
def documentLinks? (s : Snapshot) (files : FileSet) (file : FileId) : Option (List DocumentLink) :=
  match s.script? file with
  | none => some []
  | some script => script.documentLinks? files

end Snapshot

/-- The files, settings and scripts of a session. -/
structure Workspace where
  files : FileSet := .empty
  config : Config := {}
  scripts : OrderedMap FileId BundledScript := .empty
  /-- The snapshot of these settings and scripts, once it was asked for. -/
  kept : Option Snapshot := none

instance : Inhabited Workspace := ⟨{}⟩

namespace Workspace

/-- A workspace without scripts. -/
def ofConfig (config : Config) : Workspace := { config }

/-- The number of a path. -/
def register? (w : Workspace) (path : String) : Option (FileId × Workspace) :=
  (w.files.register? path).map fun (id, files) => (id, { w with files })

/-- Forgets the path of a file; its script stays. -/
def forgetFile (w : Workspace) (file : FileId) : Workspace :=
  { w with files := w.files.forget file }

def setConfig (w : Workspace) (config : Config) : Workspace := { w with config, kept := none }

/-- Sets the script of its file, in the place of an earlier one. -/
def setScript (w : Workspace) (bundle : BundleName) (script : Script) : Workspace :=
  { w with scripts := w.scripts.insert script.file ⟨bundle, script⟩, kept := none }

/-- Takes the script of a file out, if there is one. -/
def removeScript (w : Workspace) (file : FileId) : Option Script × Workspace :=
  match w.scripts.get? file with
  | none => (none, w)
  | some s => (some s.script, { w with scripts := w.scripts.erase file, kept := none })

/-- The number of scripts. -/
def size (w : Workspace) : Nat := w.scripts.size

/-- Indexes and links the scripts afresh. -/
def build (w : Workspace) : Except LinkError Snapshot :=
  Snapshot.build w.config w.scripts.values

/-- Whether the last snapshot still stands. -/
def isFresh (w : Workspace) : Bool := w.kept.isSome

/-- The snapshot of the workspace, and the workspace that keeps it. -/
def analysis (w : Workspace) : Except LinkError (Snapshot × Workspace) :=
  match w.kept with
  | some snapshot => .ok (snapshot, w)
  | none => w.build.map fun snapshot => (snapshot, { w with kept := some snapshot })

theorem analysis_of_kept {w : Workspace} {s : Snapshot} (h : w.kept = some s) :
    w.analysis = .ok (s, w) := by
  simp [analysis, h]

theorem analysis_of_not_kept {w : Workspace} (h : w.kept = none) :
    w.analysis = w.build.map fun snapshot => (snapshot, { w with kept := some snapshot }) := by
  simp [analysis, h]

end Workspace

end NameScope
