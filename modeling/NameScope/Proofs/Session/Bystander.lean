import NameScope.Proofs.Session.Compared

/-!
# A package that nobody imports

A script is added at the end of a session, in a package that none of the other scripts imports. Its
declarations enter both tables, maybe under names and in a package that the session has already,
and the second pass of a look-up sees them. They reach no link and no type.

* one look-up: written among the imports that leave the package out, a name finds the same
  alternatives; only where there are none, more candidates may be suggested (`Lookup.Widened`);
* a session: a struct that a script can name is in a package that some script imports, so that its
  declarations are those from before (`declares_addScript`).

**Results.** * `unimported_package_cannot_disturb`.
-/
namespace NameScope

/-! ## Diagnostics that gain suggestions -/

/-- A report that is left alone, or that was out of candidates and now suggests some. -/
structure Diagnostic.Undisturbed (d d' : Diagnostic) : Prop where
  file : d'.file = d.file
  range : d'.range = d.range
  severity : d'.severity = d.severity
  code : d'.code = d.code ∨ (d.code = some "E0001" ∧ d'.code = some "E0003")
  /-- Ambiguous names and duplicates. -/
  settled : d.code = some "E0002" ∨ d.code = some "E0004" ∨ d.code = some "E0005" → d' = d
  /-- Fields that a struct does not have. -/
  unknownField : ∀ field owner, d.message = (SemanticError.unknownField field owner).message → d' = d

theorem Diagnostic.Undisturbed.refl (d : Diagnostic) : d.Undisturbed d :=
  ⟨rfl, rfl, rfl, .inl rfl, fun _ => rfl, fun _ _ _ => rfl⟩

/-- What a reference to a func, a struct or a type reports is not taken for an unknown field. -/
theorem SemanticError.could_not_resolve_ne {kind : ReferenceKind} (h : kind ≠ .field)
    (rest field owner : String) : "could not resolve " ++ kind.text ++ rest ≠
      "could not resolve field " ++ field ++ " of struct " ++ owner := by
  intro he
  have he := congrArg String.toList he
  cases kind <;> simp [ReferenceKind.text, String.toList_append] at he h

theorem SemanticError.message_outOfScope (kind : ReferenceKind) (name : String)
    (suggestions : List (List PackageId)) (omitted : Nat) :
    ∃ rest, (outOfScope kind name suggestions omitted).message =
      "could not resolve " ++ kind.text ++ rest := by
  have h : (outOfScope kind name suggestions omitted).message =
      "could not resolve " ++ kind.text ++ " " ++ name ++ "; try one of the following:" ++
        suggestionLines suggestions omitted := rfl
  rw [h, String.append_assoc, String.append_assoc, String.append_assoc]
  exact ⟨_, rfl⟩

/-- A report of a missing declaration may gain suggestions, or other ones. -/
theorem Diagnostic.undisturbed_of_missing {kind : ReferenceKind} (hkind : kind ≠ .field)
    {e : SemanticError} (hcode : e.code = "E0001" ∨ e.code = "E0003")
    (hmessage : ∃ rest, e.message = "could not resolve " ++ kind.text ++ rest) (file : FileId)
    (range : Range) (name : String) (suggestions : List (List PackageId)) (omitted : Nat)
    (related related' : List Related) :
    (ofError file range .error e related).Undisturbed
      (ofError file range .error (.outOfScope kind name suggestions omitted) related') where
  file := rfl
  range := rfl
  severity := rfl
  code := by
    rcases hcode with h | h
    · exact .inr ⟨congrArg some h, rfl⟩
    · exact .inl (congrArg some h).symm
  settled h := by
    simp only [ofError, Option.some.injEq] at h
    rcases hcode with hc | hc <;> simp [hc] at h
  unknownField field owner h := by
    obtain ⟨rest, hrest⟩ := hmessage
    exact absurd (hrest.symm.trans h)
      (SemanticError.could_not_resolve_ne hkind rest field owner.text)

/-! ## Look-ups that gain candidates -/

/-- Two look-ups with the same alternatives, of which the second has candidates if the first has. -/
inductive Lookup.Widened : Lookup α → Lookup α → Prop
  | same (l : Lookup α) : Widened l l
  | notImported {candidates candidates' : List (Alternative α)}
      (h : candidates ≠ [] → candidates' ≠ []) :
      Widened (.notImported candidates) (.notImported candidates')

theorem Lookup.widened_ofSearch {search search' : (QualifiedName → Bool) → List (Alternative α)}
    {imports : ImportSet}
    (himported : search' (fun package => decide (package ∈ imports)) =
      search fun package => decide (package ∈ imports))
    (hall : search (fun _ => true) ≠ [] → search' (fun _ => true) ≠ []) :
    (ofSearch search imports).Widened (ofSearch search' imports) := by
  unfold ofSearch
  rw [himported]
  cases search fun package => decide (package ∈ imports) with
  | nil => exact .notImported hall
  | cons a as => exact .same _

namespace Lookup.Widened

theorem map {α β : Type} {l l' : Lookup α} (h : l.Widened l') (f : α → β) :
    (l.map f).Widened (l'.map f) := by
  cases h with
  | same => exact .same _
  | notImported h =>
    exact .notImported fun hne => by simpa using h (by simpa using hne)

theorem report? {α : Type} [Matched α] {l l' : Lookup α} (h : l.Widened l') (config : Config)
    (file : FileId) {kind : ReferenceKind} (hkind : kind ≠ .field) (name : String) (range : Range) :
    Option.Rel Diagnostic.Undisturbed (l.report? config file kind name range)
      (l'.report? config file kind name range) := by
  cases h with
  | same => exact option_rel_refl .refl _
  | @notImported as as' h =>
    have hsuggest : ∀ (a : Alternative α) (as : List (Alternative α)), ∃ suggestions omitted related,
        (Lookup.notImported (a :: as)).report? config file kind name range =
          some (.ofError file range .error (.outOfScope kind name suggestions omitted) related) :=
      fun _ _ => ⟨_, _, _, rfl⟩
    rcases as' with _ | ⟨a', as'⟩
    · rcases as with _ | ⟨a, as⟩
      · exact option_rel_refl .refl _
      · exact absurd rfl (h (List.cons_ne_nil a as))
    · obtain ⟨suggestions', omitted', related', hreport'⟩ := hsuggest a' as'
      rw [hreport']
      rcases as with _ | ⟨a, as⟩
      · have hcode : (SemanticError.unresolved kind name).code = "E0001" := rfl
        exact .some (Diagnostic.undisturbed_of_missing hkind (.inl hcode)
          ⟨_, String.append_assoc⟩ ..)
      · obtain ⟨suggestions, omitted, related, hreport⟩ := hsuggest a as
        have hcode : (SemanticError.outOfScope kind name suggestions omitted).code = "E0003" := rfl
        rw [hreport]
        exact .some (Diagnostic.undisturbed_of_missing hkind (.inr hcode)
          (SemanticError.message_outOfScope kind name suggestions omitted) ..)

theorem alike {α : Type} [Matched α] {l l' : Lookup α} (h : l.Widened l') (config : Config) :
    l.Alike Diagnostic.Undisturbed config config l' := by
  refine ⟨?_, fun file kind name range hkind => h.report? config file hkind name range⟩
  cases h with
  | same => rfl
  | notImported => rfl

end Lookup.Widened

/-! ## Registries that gain a script -/

section

variable {config : Config} {types : TypeIndex}

theorem OrderedMap.isSome_get?_declareAll {δ ι : Type} {policy : DuplicatePolicy}
    {name : ι → String} {define : ι → δ} {table : OrderedMap String δ} {key : String}
    (h : (table.get? key).isSome = true) (decls : List ι) :
    ((table.declareAll policy name define decls).get? key).isSome = true := by
  induction decls generalizing table with
  | nil => exact h
  | cons decl decls ih =>
    refine ih ?_
    rw [get?_declare]
    split
    · rfl
    · exact h

namespace Registry

/-- What a package has declared stays declared, though maybe by another declaration. -/
theorem isSome_find?_addScript {δ : Type} {table : PackageIndex → OrderedMap String δ}
    (htable : ∀ (index : PackageIndex) (script : Script) (name : String),
      ((table index).get? name).isSome = true →
      ((table (index.add config types script).1).get? name).isSome = true)
    {r : Registry} (s : BundledScript) {id : PackageId} {name : String}
    (h : (r.find? table id name).isSome = true) :
    (find? (Indexed.addScript config types r s).1 table id name).isSome = true := by
  unfold find? at h ⊢
  rw [Indexed.get?_addScript]
  split
  · rename_i hid
    rw [← hid] at h
    cases hget : r.get? s.id with
    | none => simp [hget] at h
    | some index =>
      rw [hget] at h
      exact htable index s.script name h
  · exact h

variable {r : Registry} {s : BundledScript} {imports : ImportSet}

/-- A look-up with imports that leave the package of a script out. -/
theorem widened_addScript {δ α : Type} {table : PackageIndex → OrderedMap String δ}
    {wrap : QualifiedName → String → δ → α}
    (htable : ∀ (index : PackageIndex) (script : Script) (name : String),
      ((table index).get? name).isSome = true →
      ((table (index.add config types script).1).get? name).isSome = true)
    (h : s.script.package ∉ imports) (n : QualifiedName) :
    (Lookup.ofSearch (r.hits table wrap n) imports).Widened
      (.ofSearch (hits (Indexed.addScript config types r s).1 table wrap n) imports) := by
  refine Lookup.widened_ofSearch (hits_insert r s.id _ n (decide_eq_false h)) fun hne => ?_
  obtain ⟨id, ha, hs, hfind⟩ := hits_ne_nil_iff.1 hne
  exact hits_ne_nil_iff.2 ⟨id, ha, hs, isSome_find?_addScript htable s hfind⟩

theorem lookupStruct_addScript (h : s.script.package ∉ imports) (n : QualifiedName) :
    (r.lookupStruct imports n).Widened
      (lookupStruct (Indexed.addScript config types r s).1 imports n) := by
  rw [lookupStruct_eq, lookupStruct_eq]
  refine widened_addScript (fun index script name hget => ?_) h n
  simp only [PackageIndex.add, IndexScope.addStructs_fst]
  exact OrderedMap.isSome_get?_declareAll hget _

theorem lookupFunc_addScript (h : s.script.package ∉ imports) (n : QualifiedName) :
    (r.lookupFunc imports n).Widened
      (lookupFunc (Indexed.addScript config types r s).1 imports n) := by
  rw [lookupFunc_eq, lookupFunc_eq]
  refine widened_addScript (fun index script name hget => ?_) h n
  simp only [PackageIndex.add, IndexScope.addFuncs_fst]
  exact OrderedMap.isSome_get?_declareAll hget _

/-- A struct that can be named under some imports is in an imported package. -/
theorem NamedUnder.imported {q package : QualifiedName} {name : String}
    (h : r.NamedUnder imports q) (hq : package.append name = q) : package ∈ imports := by
  obtain ⟨n, m, hm, rfl⟩ := h
  obtain ⟨ids, hmem⟩ := Lookup.mem_of_single? hm
  obtain ⟨id, index, name', d, -, -, himp, -, -, he⟩ := mem_alternatives_lookupStruct.1 hmem
  cases he
  obtain ⟨rfl, -⟩ := QualifiedName.append_inj hq
  exact himp

/-- Declarations of such a struct are not touched by a script of a package that is left out. -/
theorem declares_addScript {q : QualifiedName} (hq : r.NamedUnder imports q)
    (h : s.script.package ∉ imports) (id : PackageId) (d : StructDef) :
    Declares (Indexed.addScript config types r s).1 id q d ↔ r.Declares id q d := by
  simp only [declares_iff_find?]
  refine exists_congr fun name => and_congr_left fun hname => ?_
  have hid : s.id ≠ id := fun he => h (hq.imported (he ▸ hname))
  unfold find?
  rw [Indexed.get?_addScript, if_neg hid]

end Registry

end

/-! ## Sessions -/

section

variable {config : Config} {scripts : List BundledScript} {added : BundledScript}

/-- To scripts that do not import the package, the type names answer as before. -/
theorem lookupType_added {imports : ImportSet} (h : added.script.package ∉ imports)
    (n : QualifiedName) :
    ((Indexed.ofScripts config scripts).types.lookupType imports n).Widened
      ((Indexed.ofScripts config (scripts ++ [added])).types.lookupType imports n) := by
  rw [lookupType_ofScripts config scripts .empty,
    lookupType_ofScripts config (scripts ++ [added]) .empty, Indexed.addScripts_append]
  exact (Registry.lookupStruct_addScript h n).map _

/-- The session is indexed as before, and then the script that is added. -/
theorem ofScripts_added (hnone : ∀ s ∈ scripts, added.script.package ∉ s.imports config) :
    let x := Indexed.ofScripts config scripts
    let x' := Indexed.ofScripts config (scripts ++ [added])
    x'.registry = (Indexed.addScript config x'.types x.registry added).1 ∧
      ∃ reports, List.Forall₂ Diagnostic.Undisturbed x.diagnostics reports ∧
        x'.diagnostics =
          reports ++ (Indexed.addScript config x'.types x.registry added).2 := by
  intro x x'
  have halike : ∀ s ∈ scripts, IndexScope.Alike Diagnostic.Undisturbed
      (.ofScript config x.types s.script) (.ofScript config x'.types s.script) := fun s hs =>
    IndexScope.alike_of_types Diagnostic.Undisturbed.refl fun n =>
      (lookupType_added (hnone s hs) n).alike config
  obtain ⟨hregistry, hreports⟩ := Indexed.addScripts_alike .empty halike
  have happend := Indexed.addScripts_append config x'.types .empty scripts [added]
  simp only [hregistry, Indexed.addScripts, List.append_nil] at happend
  refine ⟨?_, _, hreports, ?_⟩
  · change (Indexed.addScripts config x'.types .empty (scripts ++ [added])).1 = _
    rw [happend]
    rfl
  · change (Indexed.addScripts config x'.types .empty (scripts ++ [added])).2 = _
    rw [happend]
    rfl

/-- **A package that nobody imports cannot disturb a session.** Whatever a further script declares in
it, each of the other scripts is linked to the same tree, and what is reported of them stays, but
for references without any match, to which the new declarations may be suggested. -/
theorem unimported_package_cannot_disturb (config : Config) (scripts : List BundledScript)
    (added : BundledScript) (hfile : ∀ s ∈ scripts, s.script.file ≠ added.script.file)
    (hunlinked : ∀ s ∈ scripts, ∀ r ∈ s.script.references, r.target = none)
    (hnone : ∀ s ∈ scripts,
      added.script.package ∉ s.script.importedPackages config.selfImport) :
    ∀ s ∈ scripts, ∃ tree indexing indexing' linking linking',
      (Indexed.ofScripts config scripts).Makes config s.script tree indexing linking ∧
      (Indexed.ofScripts config (scripts ++ [added])).Makes config s.script tree indexing'
        linking' ∧
      List.Forall₂ Diagnostic.Undisturbed indexing indexing' ∧
      List.Forall₂ Diagnostic.Undisturbed linking linking' := by
  intro s hs
  obtain ⟨hregistry, reports, hreports, hdiagnostics⟩ := ofScripts_added hnone
  have halike := LinkScope.alike_of_sessions Diagnostic.Undisturbed.refl rfl hs
    (fun n => (lookupType_added (hnone s hs) n).alike config)
    (fun n => hregistry ▸ (Registry.lookupFunc_addScript (hnone s hs) n).alike config)
    (fun n => hregistry ▸ (Registry.lookupStruct_addScript (hnone s hs) n).alike config)
    fun t ht q hq id d => hregistry ▸ Registry.declares_addScript hq (hnone t ht) id d
  obtain ⟨tree, linking, linking', hok, hok', hlinking⟩ :=
    Script.linked_alike halike (hunlinked s hs)
  refine ⟨tree, _, _, linking, linking', ⟨rfl, hok⟩, ⟨rfl, hok'⟩, ?_, hlinking⟩
  have hadded : (Indexed.addScript config (Indexed.ofScripts config (scripts ++ [added])).types
      (Indexed.ofScripts config scripts).registry added).2.filter
      (·.file == s.script.file) = [] := by
    refine List.filter_eq_nil_iff.2 fun d hd => ?_
    rw [Indexed.file_of_mem_addScript d hd]
    simpa using (hfile s hs).symm
  rw [hdiagnostics, List.filter_append, hadded, List.append_nil]
  exact filter_file_rel (fun hd => hd.file) hreports s.script.file

end

/-- A script of the package `game` with funcs of these names, each of which calls `helper`. -/
def callersOf (file : FileId) (names : List String) : BundledScript :=
  ⟨⟨"core"⟩, {
    file
    package := ⟨["game"]⟩
    funcs := names.map fun text => {
      name := { text }
      body := [.call { name := { name := ⟨["helper"]⟩ } } [] {}] } }⟩

/-- Where scripts do not import their own package, not even a script of the same package disturbs:
the call of `helper` stays unresolved, with a suggestion now. -/
theorem second_script_cannot_disturb_caller :
    let config : Config := { selfImport := false }
    let scripts := [callersOf ⟨0⟩ ["main"]]
    let added := callersOf ⟨1⟩ ["main", "helper"]
    ((∀ s ∈ scripts, s.script.file ≠ added.script.file) ∧
      (∀ s ∈ scripts, ∀ r ∈ s.script.references, r.target = none) ∧
      ∀ s ∈ scripts, added.script.package ∉ s.script.importedPackages config.selfImport) ∧
    ∃ tree indexing indexing' linking linking',
      (Indexed.ofScripts config scripts).Makes config (callersOf ⟨0⟩ ["main"]).script tree indexing
        linking ∧
      (Indexed.ofScripts config (scripts ++ [added])).Makes config (callersOf ⟨0⟩ ["main"]).script
        tree indexing' linking' ∧
      linking.map (·.code) = [some "E0001"] ∧ linking'.map (·.code) = [some "E0003"] := by
  intro config scripts added
  have hfile : ∀ s ∈ scripts, s.script.file ≠ added.script.file := by decide
  have hunlinked : ∀ s ∈ scripts, ∀ r ∈ s.script.references, r.target = none := by decide
  have hnone : ∀ s ∈ scripts,
      added.script.package ∉ s.script.importedPackages config.selfImport := by decide
  obtain ⟨tree, indexing, indexing', linking, linking', h, h', -⟩ :=
    unimported_package_cannot_disturb config scripts added hfile hunlinked hnone
      (callersOf ⟨0⟩ ["main"]) List.mem_cons_self
  have hcodes : ∀ (x : Indexed) {linking : List Diagnostic} {code : String},
      (callersOf ⟨0⟩ ["main"]).script.linked x.registry x.types config = .ok (tree, linking) →
      ((callersOf ⟨0⟩ ["main"]).script.linked x.registry x.types config).toOption.map
        (fun p => p.2.map (·.code)) = some [some code] →
      linking.map (·.code) = [some code] := by
    intro x linking code hok hcode
    rw [hok] at hcode
    exact Option.some.inj hcode
  exact ⟨⟨hfile, hunlinked, hnone⟩, tree, indexing, indexing', linking, linking', h, h',
    hcodes _ h.linking (by decide), hcodes _ h'.linking (by decide)⟩

end NameScope
