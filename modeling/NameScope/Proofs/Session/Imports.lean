import NameScope.Proofs.Session.Order

/-!
# What import lines decide

Import lines enter a run in two places, where a script is indexed and where it is linked. Both times
only a set of packages is made of them, to which the settings may add the script's own. Two runs
over the same scripts with other import lines are compared, perhaps under the other setting: where
each script has the same set in both, the runs are the same.

* one look-up: it depends on which packages are imported (`Bundles.lookup_congr`);
* a script, in either round: `IndexScope.alike_of_imports`, `LinkScope.alike_of_imports`;
* a session: `sameButImports_of_mem`.

**Results.** * `imports_act_as_a_set`.
-/
namespace NameScope

/-- Import lines that name the same packages, in any order and any number of times. -/
def SamePackages (lines lines' : List Import) : Prop :=
  ∀ p, p ∈ lines'.map (·.name) ↔ p ∈ lines.map (·.name)

instance (lines lines' : List Import) : Decidable (SamePackages lines lines') :=
  decidable_of_iff (lines'.map (·.name) ⊆ lines.map (·.name) ∧
      lines.map (·.name) ⊆ lines'.map (·.name))
    ⟨fun h _ => ⟨fun hp => h.1 hp, fun hp => h.2 hp⟩,
      fun h => ⟨fun p hp => (h p).1 hp, fun p hp => (h p).2 hp⟩⟩

/-- Two runs over scripts that differ in their import lines make the same of them: the same
registry, type names and diagnostics, and every script is linked the same, or refused the same. -/
structure SameButImports (config config' : Config) (scripts scripts' : List BundledScript) :
    Prop where
  registry : (Indexed.ofScripts config' scripts').registry =
    (Indexed.ofScripts config scripts).registry
  types : (Indexed.ofScripts config' scripts').types = (Indexed.ofScripts config scripts).types
  indexing : (Indexed.ofScripts config' scripts').diagnostics =
    (Indexed.ofScripts config scripts).diagnostics
  /-- Script by script: the same tree, but for the import lines in it, and the same reports. -/
  linking : List.Forall₂ (fun s s' =>
    s'.script.linked (Indexed.ofScripts config' scripts').registry
        (Indexed.ofScripts config' scripts').types config' =
      (s.script.linked (Indexed.ofScripts config scripts).registry
        (Indexed.ofScripts config scripts).types config).map fun (tree, reports) =>
          (tree.importing s'.script.imports, reports)) scripts scripts'
  /-- All scripts one after the other. -/
  all : linkAll (Indexed.ofScripts config' scripts').registry
      (Indexed.ofScripts config' scripts').types config' (scripts'.map (·.script)) =
    (linkAll (Indexed.ofScripts config scripts).registry (Indexed.ofScripts config scripts).types
      config (scripts.map (·.script))).map fun (trees, reports) =>
        (trees.zipWith (fun tree s' => tree.importing s'.script.imports) scripts', reports)

section

variable {script : Script} {lines : List Import}

theorem SamePackages.mem_importedPackages (h : SamePackages script.imports lines) (own : Bool)
    (p : QualifiedName) :
    p ∈ (script.importing lines).importedPackages own ↔ p ∈ script.importedPackages own := by
  simp only [Script.importedPackages, ImportSet.mem_ofList, List.mem_append]
  exact or_congr Iff.rfl (h p)

/-- A line for the own package does what the setting does. -/
theorem SamePackages.mem_importedPackages_own
    (h : SamePackages ({ name := script.package } :: script.imports) lines) (p : QualifiedName) :
    p ∈ (script.importing lines).importedPackages false ↔ p ∈ script.importedPackages true :=
  h p

end

/-! ## One look-up -/

section

variable {imports imports' : ImportSet} (h : ∀ p, p ∈ imports' ↔ p ∈ imports)

include h

theorem Bundles.lookup_congr [Searchable τ] (b : Bundles τ) (q : Query) :
    b.lookup imports' q = b.lookup imports q := by
  have hadmits : (fun p => decide (p ∈ imports')) = fun p => decide (p ∈ imports) :=
    funext fun p => decide_eq_decide.2 (h p)
  unfold lookup
  rw [hadmits]

theorem Registry.lookupFunc_congr (r : Registry) (n : QualifiedName) :
    r.lookupFunc imports' n = r.lookupFunc imports n := by
  unfold lookupFunc
  rw [r.lookup_congr h]

theorem Registry.lookupStruct_congr (r : Registry) (n : QualifiedName) :
    r.lookupStruct imports' n = r.lookupStruct imports n := by
  unfold lookupStruct
  rw [r.lookup_congr h]

theorem TypeIndex.lookupRef_congr (types : TypeIndex) (type : TypeRef) :
    types.lookupRef imports' type = types.lookupRef imports type := by
  cases type with
  | primitive kind range => rfl
  | named name =>
    unfold lookupRef lookupType
    simp only [types.lookup_congr h]

end

/-! ## One script -/

section

variable (config : Config) {own own' : Bool}

/-- Whether the own package is imported is nothing to a look-up that is done. -/
theorem Lookup.alike_of_selfImport [Matched α] (l : Lookup α) :
    l.Alike Eq { config with selfImport := own } { config with selfImport := own' } l :=
  ⟨rfl, fun _ _ _ _ _ => option_rel_refl (fun _ => rfl) _⟩

section

variable {script : Script} {lines : List Import}
  (h : ∀ p, p ∈ (script.importing lines).importedPackages own' ↔ p ∈ script.importedPackages own)

include h

theorem IndexScope.alike_of_imports (types : TypeIndex) :
    (ofScript { config with selfImport := own } types script).Alike Eq
      (ofScript { config with selfImport := own' } types (script.importing lines)) where
  refl _ _ := rfl
  file := rfl
  replaces := rfl
  duplicate _ _ _ _ := option_rel_refl (fun _ => rfl) _
  types type := by
    simp only [ofScript, TypeIndex.lookupRef_congr h]
    exact Lookup.alike_of_selfImport config _

theorem LinkScope.alike_of_imports (registry : Registry) (types : TypeIndex) :
    (ofScript registry types { config with selfImport := own } script).Alike Eq
      (ofScript registry types { config with selfImport := own' } (script.importing lines)) where
  refl _ _ := rfl
  file := rfl
  types type := by simp only [ofScript, TypeIndex.lookupRef_congr h]
  funcs n := by
    simp only [ofScript, funcs, Registry.lookupFunc_congr h]
    exact Lookup.alike_of_selfImport config _
  structs n := by
    simp only [ofScript, structs, Registry.lookupStruct_congr h]
    exact Lookup.alike_of_selfImport config _
  owner _ _ := rfl

theorem Script.linked_of_imports (registry : Registry) (types : TypeIndex) :
    (script.importing lines).linked registry types { config with selfImport := own' } =
      (script.linked registry types { config with selfImport := own }).map fun (tree, reports) =>
        (tree.importing lines, reports) := by
  obtain ⟨hnode, houtcome, hreports⟩ :=
    script.link_importing lines (LinkScope.alike_of_imports config h registry types)
  rw [List.forall₂_eq_eq_eq] at hreports
  unfold linked
  simp only [hnode, houtcome, ← hreports]
  cases (script.link registry types { config with selfImport := own }).outcome with
  | error e => rfl
  | ok u => rfl

end

/-! ## All scripts -/

/-- The names of structs do not depend on imports. -/
theorem Indexed.typesOf_importing (policy : DuplicatePolicy) {scripts scripts' : List BundledScript}
    (h : List.Forall₂ (fun s s' => ∃ lines, s' = s.importing lines) scripts scripts') :
    typesOf policy scripts' = typesOf policy scripts := by
  have hfold : ∀ types, scripts'.foldl (declareTypes policy) types =
      scripts.foldl (declareTypes policy) types := by
    induction h with
    | nil => exact fun _ => rfl
    | @cons s s' scripts scripts' hs _ ih =>
      obtain ⟨lines, rfl⟩ := hs
      exact fun types => ih (declareTypes policy types s)
  exact hfold .empty

/-- Scripts that are linked the same one by one are linked the same one after the other. -/
theorem linkAll_of_imports {registry : Registry} {types : TypeIndex} {config config' : Config}
    {scripts scripts' : List BundledScript}
    (h : List.Forall₂ (fun s s' => s'.script.linked registry types config' =
      (s.script.linked registry types config).map fun (tree, reports) =>
        (tree.importing s'.script.imports, reports)) scripts scripts') :
    linkAll registry types config' (scripts'.map (·.script)) =
      (linkAll registry types config (scripts.map (·.script))).map fun (trees, reports) =>
        (trees.zipWith (fun tree s' => tree.importing s'.script.imports) scripts', reports) := by
  induction h with
  | nil => rfl
  | @cons s s' scripts scripts' hs _ ih =>
    simp only [List.map_cons, linkAll, hs, ih]
    cases s.script.linked registry types config with
    | error e => rfl
    | ok found =>
      cases linkAll registry types config (scripts.map (·.script)) with
      | error e => rfl
      | ok rest => rfl

/-- **Runs in which each script sees the same packages are the same.** -/
theorem sameButImports_of_mem {scripts scripts' : List BundledScript}
    (h : List.Forall₂ (fun s s' => ∃ lines, s' = s.importing lines ∧
      ∀ p, p ∈ s'.script.importedPackages own' ↔ p ∈ s.script.importedPackages own)
      scripts scripts') :
    SameButImports { config with selfImport := own } { config with selfImport := own' }
      scripts scripts' := by
  let x := Indexed.ofScripts { config with selfImport := own } scripts
  let x' := Indexed.ofScripts { config with selfImport := own' } scripts'
  have htypes : x'.types = x.types :=
    Indexed.typesOf_importing config.duplicates (h.imp fun _ _ ⟨lines, hs, _⟩ => ⟨lines, hs⟩)
  obtain ⟨hregistry, hreports⟩ : x'.registry = x.registry ∧
      List.Forall₂ Eq x.diagnostics x'.diagnostics := by
    have hx' : Indexed.addScripts { config with selfImport := own' } x'.types .empty scripts' =
        (x'.registry, x'.diagnostics) := rfl
    have hadd := Indexed.addScripts_importing (h.imp fun s s' hs => by
      obtain ⟨lines, rfl, hmem⟩ := hs
      exact ⟨lines, rfl, IndexScope.alike_of_imports config hmem x.types⟩) .empty
    rw [← htypes, hx', htypes] at hadd
    exact hadd
  have hlinking : List.Forall₂ (fun s s' =>
      s'.script.linked x.registry x.types { config with selfImport := own' } =
        (s.script.linked x.registry x.types { config with selfImport := own }).map
          fun (tree, reports) => (tree.importing s'.script.imports, reports)) scripts scripts' :=
    h.imp fun s s' hs => by
      obtain ⟨lines, rfl, hmem⟩ := hs
      exact Script.linked_of_imports config hmem x.registry x.types
  refine ⟨hregistry, htypes, (List.forall₂_eq_eq_eq ▸ hreports).symm, ?_, ?_⟩
  · rw [hregistry, htypes]
    exact hlinking
  · rw [hregistry, htypes]
    exact linkAll_of_imports hlinking

end

/-- **Imports act as a set**, and the import of the own package that a setting adds is one like any
other. A run stays the same, up to the import lines themselves, if in every script these are put in
another order or repeated; and under either setting, if without it every script has a line for its
own package besides. -/
theorem imports_act_as_a_set (config : Config) {scripts scripts' : List BundledScript} :
    (List.Forall₂ (fun s s' => ∃ lines, s' = s.importing lines ∧
        SamePackages s.script.imports lines) scripts scripts' →
      SameButImports config config scripts scripts') ∧
    (List.Forall₂ (fun s s' => ∃ lines, s' = s.importing lines ∧
        SamePackages ({ name := s.script.package } :: s.script.imports) lines) scripts scripts' →
      SameButImports { config with selfImport := true } { config with selfImport := false }
        scripts scripts') := by
  refine ⟨fun h => sameButImports_of_mem config (h.imp ?_),
    fun h => sameButImports_of_mem config (h.imp ?_)⟩
  · rintro s s' ⟨lines, rfl, hsame⟩
    exact ⟨lines, rfl, hsame.mem_importedPackages config.selfImport⟩
  · rintro s s' ⟨lines, rfl, hsame⟩
    exact ⟨lines, rfl, hsame.mem_importedPackages_own⟩

/-- `pointUser` calls a func of its own package. Without the setting, and without a line for the
package, that func is out of scope; with a line it is found again. -/
theorem main_is_found_by_its_own_import :
    let util : Import := { name := ⟨["util"]⟩ }
    let game : Import := { name := ⟨["game"]⟩ }
    let point := pointIn "core" ⟨0⟩
    let scripts := [point, pointUser]
    let repeated := [point, pointUser.importing [util, util]]
    let explicit := [point.importing [util], pointUser.importing [util, game, util]]
    let codes (config : Config) (scripts : List BundledScript) :=
      (Snapshot.build config scripts).toOption.map fun a => a.reports.map (·.code)
    SameButImports {} {} scripts repeated ∧
    SameButImports { selfImport := true } { selfImport := false } scripts explicit ∧
    codes { selfImport := true } scripts = some [] ∧
    codes { selfImport := false } scripts = some [some "E0003"] ∧
    codes { selfImport := false } explicit = some [] := by
  intro util game point scripts repeated explicit codes
  refine ⟨(imports_act_as_a_set {}).1 ?_, (imports_act_as_a_set {}).2 ?_, by decide, by decide,
    by decide⟩
  · exact .cons ⟨[], rfl, by decide⟩ (.cons ⟨[util, util], rfl, by decide⟩ .nil)
  · exact .cons ⟨[util], rfl, by decide⟩ (.cons ⟨[util, game, util], rfl, by decide⟩ .nil)

end NameScope
