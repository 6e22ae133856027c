import Mathlib.Data.List.Pairwise
import NameScope.Proofs.Declared.Located
import NameScope.Proofs.Lookup.Keyed

/-!
# Indexing scripts in another order

Two scripts of one package are apart if neither declares a name that the other does
(`Script.Apart`). Then neither finds a name of the other taken: each is indexed with the same reports
before and after the other, and both orders leave the same definitions under the same names, though
not in the same order of names (`Registry.Same`).

* one step: two scripts change places (`addScript_comm`, `addScript_reports_after`);
* a run: any other order of scripts that are apart (`addScripts_perm`), by induction on how it is
  made of such steps.

**Results.**
* `addScripts_perm`: scripts that are apart give the same definitions in every order, and of each
  file the same reports;
* `Registry.Same.find?`, `Registry.Same.ids`: what look-ups read is the same, up to order.
-/
namespace NameScope

/-- Neither script declares a struct or a func that the other one declares too. -/
structure Script.Apart (a b : Script) : Prop where
  structs : ∀ d ∈ a.structs, ∀ d' ∈ b.structs, d.name.text ≠ d'.name.text
  funcs : ∀ d ∈ a.funcs, ∀ d' ∈ b.funcs, d.name.text ≠ d'.name.text

theorem Script.Apart.symm {a b : Script} (h : a.Apart b) : b.Apart a :=
  ⟨fun d hd d' hd' he => h.structs d' hd' d hd he.symm,
    fun d hd d' hd' he => h.funcs d' hd' d hd he.symm⟩

/-- The same, of scripts of one package. -/
def BundledScript.Apart (a b : BundledScript) : Prop := a.id = b.id → a.script.Apart b.script

theorem BundledScript.Apart.symm {a b : BundledScript} (h : a.Apart b) : b.Apart a :=
  fun hid => (h hid.symm).symm

/-! ## Tables with the same definitions -/

/-- Two indices of a package with the same definitions under the same names. -/
structure PackageIndex.Same (index index' : PackageIndex) : Prop where
  package : index'.package = index.package
  structs : ∀ name, index'.structs.get? name = index.structs.get? name
  funcs : ∀ name, index'.funcs.get? name = index.funcs.get? name

namespace PackageIndex.Same

theorem refl (index : PackageIndex) : index.Same index := ⟨rfl, fun _ => rfl, fun _ => rfl⟩

theorem trans {a b c : PackageIndex} (h : a.Same b) (h' : b.Same c) : a.Same c :=
  ⟨h'.package.trans h.package, fun name => (h'.structs name).trans (h.structs name),
    fun name => (h'.funcs name).trans (h.funcs name)⟩

theorem agreeOn {a b : PackageIndex} (h : a.Same b) (script : Script) : AgreeOn script a b :=
  ⟨h.package, fun _ _ => h.structs _, fun _ _ => h.funcs _⟩

end PackageIndex.Same

/-- Two registries with the same packages, and in each the same definitions under the same names. -/
def Registry.Same (r r' : Registry) : Prop :=
  ∀ id, Option.Rel PackageIndex.Same (r.get? id) (r'.get? id)

namespace Registry.Same

theorem refl (r : Registry) : r.Same r := by
  intro id
  cases r.get? id with
  | none => exact .none
  | some index => exact .some (.refl index)

theorem trans {a b c : Registry} (h : a.Same b) (h' : b.Same c) : a.Same c := by
  intro id
  have h := h id
  have h' := h' id
  generalize a.get? id = x at h
  generalize b.get? id = y at h h'
  generalize c.get? id = z at h'
  cases h with
  | none => exact h'
  | some h =>
    cases h' with
    | some h' => exact .some (h.trans h')

/-- The index of a package, where a missing one stands for an empty one. -/
theorem getD {r r' : Registry} (h : r.Same r') (id : PackageId) (init : PackageIndex) :
    PackageIndex.Same ((r.get? id).getD init) ((r'.get? id).getD init) := by
  have h := h id
  generalize r.get? id = x at h
  generalize r'.get? id = y at h
  cases h with
  | none => exact .refl init
  | some h => exact h

theorem ids {r r' : Registry} (h : r.Same r') : r.ids.Perm r'.ids := by
  have hn : r.ids.Nodup := r.nodup_ids
  have hn' : r'.ids.Nodup := r'.nodup_ids
  refine (List.perm_ext_iff_of_nodup hn hn').2 fun id => ?_
  have h := h id
  rw [Bundles.mem_ids_iff, Bundles.mem_ids_iff]
  generalize r.get? id = x at h
  generalize r'.get? id = y at h
  cases h with
  | none => exact Iff.rfl
  | some h => exact Iff.rfl

/-- Tables of indices that are the same hold the same. -/
theorem find? {δ : Type} {table : PackageIndex → OrderedMap String δ} {r r' : Registry}
    (h : r.Same r')
    (htable : ∀ {a b : PackageIndex}, a.Same b → ∀ name, (table b).get? name = (table a).get? name)
    (id : PackageId) (name : String) : r'.find? table id name = r.find? table id name := by
  have h := h id
  unfold Registry.find?
  generalize r.get? id = x at h
  generalize r'.get? id = y at h
  cases h with
  | none => rfl
  | some h => exact htable h name

end Registry.Same

/-! ## One step: two scripts -/

section

variable {config : Config} {types : TypeIndex}

theorem IndexScope.alike_refl (s : IndexScope) : s.Alike Eq s where
  refl _ _ := rfl
  file := rfl
  replaces := rfl
  duplicate _ _ _ _ := option_rel_refl (fun _ => rfl) _
  types _ := ⟨rfl, fun _ _ _ _ _ => option_rel_refl (fun _ => rfl) _⟩

namespace PackageIndex

/-- What is reported of a script depends on the names that it finds taken, and on nothing else of
the index. -/
theorem add_reports_eq {script : Script} {index index' : PackageIndex}
    (h : AgreeOn script index index') :
    (index'.add config types script).2 = (index.add config types script).2 := by
  have hreports := add_reports rfl rfl (IndexScope.alike_refl (.ofScript config types script)) h
  rw [List.forall₂_eq_eq_eq] at hreports
  exact hreports.symm

theorem Same.add {index index' : PackageIndex} (h : index.Same index') (script : Script) :
    Same (index.add config types script).1 (index'.add config types script).1 := by
  refine ⟨h.package, fun name => ?_, fun name => ?_⟩
  · simp only [PackageIndex.add, IndexScope.addStructs_fst]
    exact OrderedMap.get?_declareAll_congr (h.structs name) _
  · simp only [PackageIndex.add, IndexScope.addFuncs_fst]
    exact OrderedMap.get?_declareAll_congr (h.funcs name) _

/-- A script leaves the names of another one alone. -/
theorem agreeOn_add {a b : Script} (h : a.Apart b) (index : PackageIndex) :
    AgreeOn b index (index.add config types a).1 := by
  refine ⟨rfl, fun d' hd' => ?_, fun d' hd' => ?_⟩
  · simp only [add, IndexScope.addStructs_fst]
    exact OrderedMap.get?_declareAll_of_not_mem fun d hd => h.structs d hd d' hd'
  · simp only [add, IndexScope.addFuncs_fst]
    exact OrderedMap.get?_declareAll_of_not_mem fun d hd => h.funcs d hd d' hd'

end PackageIndex

/-- Declarations under other names may come first. -/
theorem OrderedMap.get?_declareAll_comm {δ ι : Type} {policy : DuplicatePolicy} {name : ι → String}
    {define define' : ι → δ} {decls decls' : List ι}
    (h : ∀ d ∈ decls, ∀ d' ∈ decls', name d ≠ name d') (table : OrderedMap String δ)
    (key : String) :
    ((table.declareAll policy name define' decls').declareAll policy name define decls).get? key =
      ((table.declareAll policy name define decls).declareAll policy name define' decls').get?
        key := by
  by_cases hk : ∃ d ∈ decls, name d = key
  · obtain ⟨d, hd, rfl⟩ := hk
    have hskip : ∀ table : OrderedMap String δ,
        (table.declareAll policy name define' decls').get? (name d) = table.get? (name d) :=
      fun table => get?_declareAll_of_not_mem fun d' hd' he => h d hd d' hd' he.symm
    rw [hskip]
    exact get?_declareAll_congr (hskip table) decls
  · have hskip : ∀ table : OrderedMap String δ,
        (table.declareAll policy name define decls).get? key = table.get? key :=
      fun table => get?_declareAll_of_not_mem fun d hd he => hk ⟨d, hd, he⟩
    rw [hskip]
    exact (get?_declareAll_congr (hskip table) decls').symm

theorem PackageIndex.add_comm {a b : Script} (h : a.Apart b) (index : PackageIndex) :
    Same ((index.add config types a).1.add config types b).1
      ((index.add config types b).1.add config types a).1 := by
  refine ⟨rfl, fun name => ?_, fun name => ?_⟩
  · simp only [add, IndexScope.addStructs_fst]
    exact OrderedMap.get?_declareAll_comm h.structs _ name
  · simp only [add, IndexScope.addFuncs_fst]
    exact OrderedMap.get?_declareAll_comm h.funcs _ name

namespace Indexed

theorem addScript_same {r r' : Registry} (h : r.Same r') (s : BundledScript) :
    (addScript config types r s).1.Same (addScript config types r' s).1 ∧
      (addScript config types r' s).2 = (addScript config types r s).2 := by
  have hindex := h.getD s.id (.empty s.script.package)
  constructor
  · intro id
    rw [get?_addScript, get?_addScript]
    split
    · exact .some (hindex.add s.script)
    · exact h id
  · exact PackageIndex.add_reports_eq (hindex.agreeOn s.script)

/-- Two scripts that are apart may change places. -/
theorem addScript_comm {a b : BundledScript} (h : a.Apart b) (r : Registry) :
    Registry.Same (addScript config types (addScript config types r a).1 b).1
      (addScript config types (addScript config types r b).1 a).1 := by
  intro id
  simp only [get?_addScript]
  by_cases hid : a.id = b.id
  · have hpackage : a.script.package = b.script.package := congrArg PackageId.package hid
    by_cases hb : b.id = id
    · simp only [hid, hb, if_true, Option.getD_some, hpackage]
      exact .some (PackageIndex.add_comm (h hid) _)
    · simp only [hid, hb, if_false]
      exact Registry.Same.refl r id
  · have hid' : b.id ≠ a.id := fun he => hid he.symm
    simp only [hid, hid', if_false]
    by_cases ha : a.id = id
    · simp only [← ha, hid', if_true, if_false]
      exact .some (.refl _)
    · by_cases hb : b.id = id
      · simp only [hb, ha, if_true, if_false]
        exact .some (.refl _)
      · simp only [hb, ha, if_false]
        exact Registry.Same.refl r id

/-- A script that is apart does not show in the reports of the next one. -/
theorem addScript_reports_after {a b : BundledScript} (h : a.Apart b) (r : Registry) :
    (addScript config types (addScript config types r a).1 b).2 =
      (addScript config types r b).2 := by
  have hget : ((addScript config types r a).1.get? b.id).getD (.empty b.script.package) =
      if a.id = b.id then
        (((r.get? b.id).getD (.empty b.script.package)).add config types a.script).1
      else (r.get? b.id).getD (.empty b.script.package) := by
    rw [get?_addScript]
    split
    · rename_i hid
      have hpackage : a.script.package = b.script.package := congrArg PackageId.package hid
      rw [hid, hpackage]
      rfl
    · rfl
  unfold addScript at hget ⊢
  simp only [hget]
  split
  · rename_i hid
    exact PackageIndex.add_reports_eq (PackageIndex.agreeOn_add (h hid) _)
  · rfl

end Indexed

end

/-! ## A run: any other order -/

/-- The reports of two different files do not mix. -/
theorem filter_file_comm {f f' : FileId} (hne : f ≠ f') {ds ds' : List Diagnostic}
    (hds : ∀ d ∈ ds, d.file = f) (hds' : ∀ d ∈ ds', d.file = f') (file : FileId) :
    (ds ++ ds').filter (·.file == file) = (ds' ++ ds).filter (·.file == file) := by
  have hnil : ∀ {ds : List Diagnostic} {f : FileId}, (∀ d ∈ ds, d.file = f) → f ≠ file →
      ds.filter (·.file == file) = [] := by
    intro ds f hds hf
    refine List.filter_eq_nil_iff.2 fun d hd => ?_
    rw [hds d hd]
    simpa using hf
  rw [List.filter_append, List.filter_append]
  by_cases hf : f = file
  · rw [hnil hds' fun h => hne (hf.trans h.symm), List.append_nil, List.nil_append]
  · rw [hnil hds hf, List.append_nil, List.nil_append]

theorem Indexed.addScripts_same {config : Config} {types : TypeIndex} {r r' : Registry}
    (h : r.Same r') (scripts : List BundledScript) :
    (addScripts config types r scripts).1.Same (addScripts config types r' scripts).1 ∧
      (addScripts config types r' scripts).2 = (addScripts config types r scripts).2 := by
  induction scripts generalizing r r' with
  | nil => exact ⟨h, rfl⟩
  | cons s scripts ih =>
    obtain ⟨hsame, hreports⟩ := addScript_same h s
    obtain ⟨hrest, hrests⟩ := ih hsame
    exact ⟨hrest, by simp only [addScripts, hreports, hrests]⟩

/-- **The order of scripts that are apart** shows neither in what is declared nor, file by file, in
what is reported. -/
theorem Indexed.addScripts_perm {config : Config} {types : TypeIndex}
    {scripts scripts' : List BundledScript} (hp : scripts.Perm scripts')
    (hapart : scripts.Pairwise BundledScript.Apart)
    (hfiles : (scripts.map (·.script.file)).Nodup) {r r' : Registry} (hr : r.Same r') :
    (addScripts config types r scripts).1.Same (addScripts config types r' scripts').1 ∧
      ∀ file, (addScripts config types r scripts).2.filter (·.file == file) =
        (addScripts config types r' scripts').2.filter (·.file == file) := by
  induction hp generalizing r r' with
  | nil => exact ⟨hr, fun _ => rfl⟩
  | cons s _ ih =>
    obtain ⟨hsame, hreports⟩ := addScript_same hr s
    obtain ⟨hrest, hrests⟩ := ih (List.pairwise_cons.1 hapart).2 (List.nodup_cons.1 hfiles).2 hsame
    refine ⟨hrest, fun file => ?_⟩
    simp only [addScripts, List.filter_append, hreports, hrests file]
  | swap a b l =>
    have hab : b.Apart a := (List.pairwise_cons.1 hapart).1 a List.mem_cons_self
    have hfile : b.script.file ≠ a.script.file := by
      intro he
      simp only [List.map_cons, List.nodup_cons, List.mem_cons, not_or] at hfiles
      exact hfiles.1.1 he
    have hfirst : ∀ s, (addScript config types r' s).2 = (addScript config types r s).2 :=
      fun s => (addScript_same hr s).2
    have hchange : Registry.Same (addScript config types (addScript config types r b).1 a).1
        (addScript config types (addScript config types r' a).1 b).1 :=
      (addScript_comm hab r).trans (addScript_same (addScript_same hr a).1 b).1
    obtain ⟨hrest, hreports⟩ := addScripts_same hchange l
    refine ⟨hrest, fun file => ?_⟩
    simp only [addScripts, hreports, addScript_reports_after hab, addScript_reports_after hab.symm,
      hfirst]
    rw [← List.append_assoc, ← List.append_assoc, List.filter_append,
      filter_file_comm hfile file_of_mem_addScript file_of_mem_addScript, ← List.filter_append]
  | trans hp _ ih ih' =>
    obtain ⟨hsame, hreports⟩ := ih hapart hfiles (.refl r)
    obtain ⟨hsame', hreports'⟩ := ih'
      (hp.pairwise hapart fun h => h.symm) ((hp.map _).nodup_iff.1 hfiles) hr
    exact ⟨hsame.trans hsame', fun file => (hreports file).trans (hreports' file)⟩

end NameScope
