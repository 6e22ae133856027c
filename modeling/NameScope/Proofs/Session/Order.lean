import NameScope.Proofs.Session.Compared

/-!
# The order of scripts

The order in which scripts are set decides in which order packages and names stand in the tables of
a session, and of several declarations of one name which one counts. If no two scripts of a package
declare the same name, only the first is left, and that shows nowhere but in lists of candidates.

* one look-up: in two registries with the same definitions it finds the same, in another order
  (`Lookup.Permuted`);
* a session: both rounds of the comparison (`IndexScope.alike_of_types`,
  `LinkScope.alike_of_sessions`) need no more than that.

**Results.** * `order_of_scripts_does_not_matter`.
-/
namespace NameScope

/-! ## Diagnostics up to the order of candidates -/

/-- The same error, with its candidates in another order. -/
inductive SemanticError.Reordered : SemanticError → SemanticError → Prop
  | same (e : SemanticError) : e.Reordered e
  | ambiguous (kind : ReferenceKind) (name : String) {candidates candidates' : List String}
      (h : candidates.Perm candidates') :
      (SemanticError.ambiguous kind name candidates).Reordered (.ambiguous kind name candidates')
  | ambiguousType (member : String) {candidates candidates' : List String}
      (h : candidates.Perm candidates') :
      (SemanticError.ambiguousType member candidates).Reordered (.ambiguousType member candidates')
  | outOfScope (kind : ReferenceKind) (name : String) (omitted : Nat)
      {suggestions suggestions' : List (List PackageId)} (h : suggestions.Perm suggestions') :
      (SemanticError.outOfScope kind name suggestions omitted).Reordered
        (.outOfScope kind name suggestions' omitted)

/-- Two reports of one error that name the same candidates, whatever their order. -/
inductive Diagnostic.SameCandidates : Diagnostic → Diagnostic → Prop
  | same (d : Diagnostic) : d.SameCandidates d
  | reordered (file : FileId) (range : Range) (severity : Severity) {e e' : SemanticError}
      {related related' : List Related} (he : e.Reordered e') (hr : related.Perm related') :
      (ofError file range severity e related).SameCandidates
        (ofError file range severity e' related')

/-- Two reports that differ in the order of candidates at most; or, where not all candidates are
shown, in the choice of them. -/
structure Diagnostic.Reordered (config : Config) (d d' : Diagnostic) : Prop where
  file : d'.file = d.file
  range : d'.range = d.range
  severity : d'.severity = d.severity
  code : d'.code = d.code
  candidates : config.maxSuggestions = none → d.SameCandidates d'

theorem Diagnostic.Reordered.refl {config : Config} (d : Diagnostic) : d.Reordered config d :=
  ⟨rfl, rfl, rfl, rfl, fun _ => .same d⟩

/-! ## Look-ups up to order -/

/-- Two look-ups that find the same, in some order. -/
inductive Lookup.Permuted : Lookup α → Lookup α → Prop
  | imported {alternatives alternatives' : List (Alternative α)}
      (h : alternatives.Perm alternatives') :
      Permuted (.imported alternatives) (.imported alternatives')
  | notImported {candidates candidates' : List (Alternative α)} (h : candidates.Perm candidates') :
      Permuted (.notImported candidates) (.notImported candidates')

theorem Lookup.permuted_ofSearch {search search' : (QualifiedName → Bool) → List (Alternative α)}
    (h : ∀ admits, (search admits).Perm (search' admits)) (imports : ImportSet) :
    (ofSearch search imports).Permuted (ofSearch search' imports) := by
  have himported := h fun package => decide (package ∈ imports)
  unfold ofSearch
  cases hs : search fun package => decide (package ∈ imports) with
  | nil =>
    rw [hs] at himported
    rw [← himported.nil_eq]
    exact .notImported (h _)
  | cons a as =>
    rw [hs] at himported
    cases hs' : search' fun package => decide (package ∈ imports) with
    | nil =>
      rw [hs'] at himported
      exact absurd himported.eq_nil (List.cons_ne_nil a as)
    | cons a' as' =>
      rw [hs'] at himported
      exact .imported himported

namespace Lookup.Permuted

theorem map {α β : Type} {l l' : Lookup α} (h : l.Permuted l') (f : α → β) :
    (l.map f).Permuted (l'.map f) := by
  cases h with
  | imported h => exact .imported (h.map _)
  | notImported h => exact .notImported (h.map _)

/-- Only one of two lists in another order can be a match alone if the other is. -/
theorem single? {l l' : Lookup α} (h : l.Permuted l') : l'.single? = l.single? := by
  cases h with
  | notImported h => rfl
  | @imported as as' h =>
    rcases as with _ | ⟨a, _ | ⟨b, as⟩⟩
    · rw [h.nil_eq]
    · rw [List.perm_singleton.1 h.symm]
    · rcases as' with _ | ⟨a', _ | ⟨b', as'⟩⟩
      · exact nomatch h.length_eq
      · exact nomatch h.length_eq
      · rfl

variable {α : Type} [Matched α] {l l' : Lookup α}

theorem related {as as' : List (Alternative α)} (h : as.Perm as') :
    (Alternative.related as).Perm (Alternative.related as') :=
  h.filterMap _

/-- Both are the same kind of error, and name the same unless some are left out. -/
theorem error? (h : l.Permuted l') (config : Config) (kind : ReferenceKind) (name : String) :
    Option.Rel (fun p p' => p'.1.code = p.1.code ∧
        (config.maxSuggestions = none → p.1.Reordered p'.1 ∧ p.2.Perm p'.2))
      (l.error? config kind name) (l'.error? config kind name) := by
  cases h with
  | @imported as as' h =>
    rcases as with _ | ⟨a, _ | ⟨b, as⟩⟩
    · rw [← h.nil_eq]
      exact .some ⟨rfl, fun _ => ⟨.same _, .refl _⟩⟩
    · rw [List.perm_singleton.1 h.symm]
      exact .none
    · rcases as' with _ | ⟨a', _ | ⟨b', as'⟩⟩
      · exact nomatch h.length_eq
      · exact nomatch h.length_eq
      · have hnames := h.map fun a => Matched.qualifiedText a.value
        refine .some ⟨by cases kind <;> rfl, fun _ => ⟨?_, related h⟩⟩
        cases kind with
        | typeOf => exact .ambiguousType name hnames
        | func | struct | field => exact .ambiguous _ name hnames
  | @notImported as as' h =>
    rcases as with _ | ⟨a, as⟩
    · rw [← h.nil_eq]
      exact .some ⟨rfl, fun _ => ⟨.same _, .refl _⟩⟩
    · rcases as' with _ | ⟨a', as'⟩
      · exact nomatch h.length_eq
      · refine .some ⟨rfl, fun hall => ?_⟩
        have hshown : ∀ as : List (Alternative α), as.take (config.shown as.length) = as :=
          fun as => by simp [Config.shown, hall]
        rw [hshown, hshown, h.length_eq]
        exact ⟨.outOfScope kind name _ (h.map _), related h⟩

theorem report? (h : l.Permuted l') (config : Config) (file : FileId) (kind : ReferenceKind)
    (name : String) (range : Range) : Option.Rel (Diagnostic.Reordered config)
      (l.report? config file kind name range) (l'.report? config file kind name range) := by
  have herror := h.error? config kind name
  unfold Lookup.report?
  generalize l.error? config kind name = p at herror
  generalize l'.error? config kind name = p' at herror
  cases herror with
  | none => exact .none
  | some hp =>
    obtain ⟨hcode, hnamed⟩ := hp
    refine .some ⟨rfl, rfl, rfl, congrArg some hcode, fun hall => ?_⟩
    obtain ⟨he, hr⟩ := hnamed hall
    exact .reordered _ _ _ he hr

theorem alike (h : l.Permuted l') (config : Config) :
    l.Alike (Diagnostic.Reordered config) config config l' :=
  ⟨h.single?, fun file kind name range _ => h.report? config file kind name range⟩

end Lookup.Permuted

namespace Registry.Same

variable {r r' : Registry}

theorem find?_structs (h : r.Same r') (id : PackageId) (name : String) :
    r'.find? (·.structs) id name = r.find? (·.structs) id name :=
  h.find? (fun hs => hs.structs) id name

theorem find?_funcs (h : r.Same r') (id : PackageId) (name : String) :
    r'.find? (·.funcs) id name = r.find? (·.funcs) id name :=
  h.find? (fun hs => hs.funcs) id name

theorem lookupStruct (h : r.Same r') (imports : ImportSet) (n : QualifiedName) :
    (r.lookupStruct imports n).Permuted (r'.lookupStruct imports n) := by
  rw [lookupStruct_eq, lookupStruct_eq]
  exact Lookup.permuted_ofSearch (fun admits => hits_perm h.ids h.find?_structs n admits) imports

theorem lookupFunc (h : r.Same r') (imports : ImportSet) (n : QualifiedName) :
    (r.lookupFunc imports n).Permuted (r'.lookupFunc imports n) := by
  rw [lookupFunc_eq, lookupFunc_eq]
  exact Lookup.permuted_ofSearch (fun admits => hits_perm h.ids h.find?_funcs n admits) imports

theorem declares_iff (h : r.Same r') (id : PackageId) (q : QualifiedName) (d : StructDef) :
    r'.Declares id q d ↔ r.Declares id q d := by
  simp only [declares_iff_find?, h.find?_structs]

end Registry.Same

/-! ## Sessions -/

section

variable {config : Config} {scripts scripts' : List BundledScript}

/-- The type names of both sessions answer alike. -/
theorem lookupType_perm (hp : scripts.Perm scripts') (hapart : scripts.Pairwise BundledScript.Apart)
    (hfiles : (scripts.map (·.script.file)).Nodup) (imports : ImportSet) (n : QualifiedName) :
    ((Indexed.ofScripts config scripts).types.lookupType imports n).Permuted
      ((Indexed.ofScripts config scripts').types.lookupType imports n) := by
  rw [lookupType_ofScripts config scripts .empty, lookupType_ofScripts config scripts' .empty]
  exact ((Indexed.addScripts_perm hp hapart hfiles (.refl .empty)).1.lookupStruct imports n).map _

/-- Both sessions hold the same definitions, and report the same in each file up to the order of
candidates. -/
theorem ofScripts_perm (config : Config) (hp : scripts.Perm scripts')
    (hapart : scripts.Pairwise BundledScript.Apart)
    (hfiles : (scripts.map (·.script.file)).Nodup) :
    (Indexed.ofScripts config scripts).registry.Same
        (Indexed.ofScripts config scripts').registry ∧
      ∀ file, List.Forall₂ (Diagnostic.Reordered config)
        ((Indexed.ofScripts config scripts).diagnostics.filter (·.file == file))
        ((Indexed.ofScripts config scripts').diagnostics.filter (·.file == file)) := by
  let types := (Indexed.ofScripts config scripts).types
  let types' := (Indexed.ofScripts config scripts').types
  have halike : ∀ s ∈ scripts, IndexScope.Alike (Diagnostic.Reordered config)
      (.ofScript config types s.script) (.ofScript config types' s.script) := fun s _ =>
    IndexScope.alike_of_types Diagnostic.Reordered.refl fun n =>
      (lookupType_perm hp hapart hfiles (s.imports config) n).alike config
  -- first the types of the other session, then its order
  obtain ⟨hregistry, hreports⟩ := Indexed.addScripts_alike .empty halike
  obtain ⟨hsame, hfiltered⟩ :=
    Indexed.addScripts_perm hp hapart hfiles (Registry.Same.refl .empty)
  rw [hregistry] at hsame
  refine ⟨hsame, fun file => ?_⟩
  have hfilter := filter_file_rel (fun hd => hd.file) hreports file
  rw [hfiltered file] at hfilter
  exact hfilter

/-- **The order of scripts does not matter** where no two of a package declare the same struct or
func. Each script is linked to the same tree, and has the same diagnostics but for the candidates
that they name: their order and, if there is a limit, the choice of them. -/
theorem order_of_scripts_does_not_matter (config : Config) (hp : scripts.Perm scripts')
    (hfiles : (scripts.map (·.script.file)).Nodup)
    (hunlinked : ∀ s ∈ scripts, ∀ r ∈ s.script.references, r.target = none)
    (hapart : scripts.Pairwise BundledScript.Apart) :
    ∃ a a', Snapshot.build config scripts = .ok a ∧ Snapshot.build config scripts' = .ok a' ∧
      ∀ s ∈ scripts, ∃ tree indexing indexing' linking linking',
        a.Holds config scripts s.script tree indexing linking ∧
        a'.Holds config scripts' s.script tree indexing' linking' ∧
        List.Forall₂ (Diagnostic.Reordered config) indexing indexing' ∧
        List.Forall₂ (Diagnostic.Reordered config) linking linking' := by
  obtain ⟨a, ha, hholds⟩ := Snapshot.build_of_unlinked config scripts hfiles hunlinked
  obtain ⟨a', ha', hholds'⟩ := Snapshot.build_of_unlinked config scripts'
    ((hp.map _).nodup_iff.1 hfiles) fun s hs => hunlinked s (hp.mem_iff.2 hs)
  obtain ⟨hsame, hindexing⟩ := ofScripts_perm config hp hapart hfiles
  refine ⟨a, a', ha, ha', fun s hs => ?_⟩
  have halike := LinkScope.alike_of_sessions Diagnostic.Reordered.refl rfl hs
    (fun n => (lookupType_perm hp hapart hfiles (s.imports config) n).alike config)
    (fun n => (hsame.lookupFunc (s.imports config) n).alike config)
    (fun n => (hsame.lookupStruct (s.imports config) n).alike config)
    fun t _ q _ id d => hsame.declares_iff id q d
  obtain ⟨tree, linking, linking', hok, hok', hlinking⟩ :=
    Script.linked_alike halike (hunlinked s hs)
  exact ⟨tree, _, _, linking, linking', hholds s hs _ _ _ ⟨rfl, hok⟩,
    hholds' s (hp.mem_iff.1 hs) _ _ _ ⟨rfl, hok'⟩, hindexing s.script.file, hlinking⟩

end

/-- `struct Point` in the package `util` of a bundle. -/
def pointIn (bundle : String) (file : FileId) : BundledScript :=
  ⟨⟨bundle⟩, { file, package := ⟨["util"]⟩, structs := [{ name := { text := "Point" } }] }⟩

/-- `func main(p: Point) { main(p) }`, in a script that imports `util`. -/
def pointUser : BundledScript :=
  ⟨⟨"core"⟩, {
    file := ⟨2⟩
    package := ⟨["game"]⟩
    imports := [{ name := ⟨["util"]⟩ }]
    funcs := [{
      name := { text := "main" }
      params := [{ name := { text := "p" }, type := .named { name := ⟨["Point"]⟩ } }]
      body := [.call { name := { name := ⟨["main"]⟩ } }
        [.identifier { name := { name := ⟨["p"]⟩ } }] {}] }] }⟩

/-- Which of two bundles declares `Point` first shows in no link, and `Point` is ambiguous in either
order. -/
theorem order_of_two_points_does_not_matter :
    let points := [pointIn "core" ⟨0⟩, pointIn "mods" ⟨1⟩, pointUser]
    let swapped := [pointIn "mods" ⟨1⟩, pointIn "core" ⟨0⟩, pointUser]
    (points.Perm swapped ∧ (points.map (·.script.file)).Nodup ∧
      (∀ s ∈ points, ∀ r ∈ s.script.references, r.target = none) ∧
      points.Pairwise BundledScript.Apart) ∧
    ∃ a a', Snapshot.build {} points = .ok a ∧ Snapshot.build {} swapped = .ok a' ∧
      (∃ tree, a.script? ⟨2⟩ = some tree ∧ a'.script? ⟨2⟩ = some tree) ∧
      (a.diagnostics ⟨2⟩).map (·.code) = [some "E0002"] ∧
      (a'.diagnostics ⟨2⟩).map (·.code) = [some "E0002"] := by
  intro points swapped
  have hp : points.Perm swapped := .swap _ _ _
  have hfiles : (points.map (·.script.file)).Nodup := by decide
  have hunlinked : ∀ s ∈ points, ∀ r ∈ s.script.references, r.target = none := by decide
  have hids : points.Pairwise fun a b => a.id ≠ b.id := by decide
  have hapart : points.Pairwise BundledScript.Apart := hids.imp fun hne hid => absurd hid hne
  obtain ⟨a, a', ha, ha', hall⟩ := order_of_scripts_does_not_matter {} hp hfiles hunlinked hapart
  have huser : pointUser ∈ points := by simp [points]
  obtain ⟨tree, indexing, indexing', linking, linking', h, h', -⟩ := hall pointUser huser
  refine ⟨⟨hp, hfiles, hunlinked, hapart⟩, a, a', ha, ha', ⟨tree, h.found, h'.found⟩, ?_, ?_⟩
  · have hcodes : (Snapshot.build {} points).toOption.map
        (fun a => (a.diagnostics ⟨2⟩).map (·.code)) = some [some "E0002"] := by decide
    rw [ha] at hcodes
    exact Option.some.inj hcodes
  · have hcodes : (Snapshot.build {} swapped).toOption.map
        (fun a => (a.diagnostics ⟨2⟩).map (·.code)) = some [some "E0002"] := by decide
    rw [ha'] at hcodes
    exact Option.some.inj hcodes

end NameScope
