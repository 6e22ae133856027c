import NameScope.Declared.Index

/-!
# Indexing a session

All scripts of a session are indexed in two passes: the first records the names of all structs, so
that the second can resolve the type of every member, wherever the struct it names is declared.
-/
namespace NameScope

/-- A script and the bundle it belongs to. -/
structure BundledScript where
  bundle : BundleName
  script : Script
  deriving Repr

/-- The package that the script adds to. -/
def BundledScript.id (s : BundledScript) : PackageId := ⟨s.bundle, s.script.package⟩

/-- What is known of a session once all its scripts are indexed. -/
structure Indexed where
  registry : Registry := .empty
  types : TypeIndex := .empty
  /-- The diagnostics of all scripts, in the order of the scripts. -/
  diagnostics : List Diagnostic := []
  deriving Repr

namespace Indexed

/-- Records the struct names of one more script. -/
def declareTypes (policy : DuplicatePolicy) (types : TypeIndex) (s : BundledScript) : TypeIndex :=
  types.update s.id .empty (·.declare policy s.script)

/-- The names of all structs. -/
def typesOf (policy : DuplicatePolicy) (scripts : List BundledScript) : TypeIndex :=
  scripts.foldl (declareTypes policy) .empty

/-- Indexes one more script. -/
def addScript (config : Config) (types : TypeIndex) (registry : Registry) (s : BundledScript) :
    Registry × List Diagnostic :=
  let index := (registry.get? s.id).getD (.empty s.script.package)
  let (index, reports) := index.add config types s.script
  (registry.insert s.id index, reports)

/-- Indexes scripts one after the other. -/
def addScripts (config : Config) (types : TypeIndex) (registry : Registry) :
    List BundledScript → Registry × List Diagnostic
  | [] => (registry, [])
  | s :: scripts =>
    let (registry, reports) := addScript config types registry s
    let (registry, rest) := addScripts config types registry scripts
    (registry, reports ++ rest)

/-- Indexes all scripts. -/
def ofScripts (config : Config) (scripts : List BundledScript) : Indexed :=
  let types := typesOf config.duplicates scripts
  let (registry, diagnostics) := addScripts config types .empty scripts
  { registry, types, diagnostics }

end Indexed

end NameScope
