import NameScope.Proofs.Linking.Alike
import NameScope.Proofs.Linking.Anchored
import NameScope.Proofs.Session.Makes

/-!
# Two sessions compared

What a script becomes in two sessions is compared in two rounds, as sessions are indexed in two
passes. The first round is about types: if the type names of both sessions answer alike, the script
is indexed alike. The second is about the registries that result. There it is enough to compare
single look-ups, and the declarations of those structs that scripts of the first session can name:
no other struct is the type of an expression (`Expr.namedUnder_of_type`).

**Results.**
* `lookupType_ofScripts`: what a session's type names answer does not depend on types, so that the
  first round does not need the second;
* `Registry.findStruct?_congr`: a struct that can be named is found wherever the same declare it;
* `IndexScope.alike_of_types`, `LinkScope.alike_of_sessions`: the two rounds.
-/
namespace NameScope

/-- The packages that a script of a session imports. -/
abbrev BundledScript.imports (s : BundledScript) (config : Config) : ImportSet :=
  s.script.importedPackages config.selfImport

theorem Lookup.Alike.refl [Matched α] {D : Diagnostic → Diagnostic → Prop} (hD : ∀ d, D d d)
    (config : Config) (l : Lookup α) : l.Alike D config config l :=
  ⟨rfl, fun _ _ _ _ _ => option_rel_refl hD _⟩

/-- Related lists, restricted to a file. -/
theorem filter_file_rel {D : Diagnostic → Diagnostic → Prop}
    (hD : ∀ {d d'}, D d d' → d'.file = d.file) {ds ds' : List Diagnostic}
    (h : List.Forall₂ D ds ds') (file : FileId) :
    List.Forall₂ D (ds.filter (·.file == file)) (ds'.filter (·.file == file)) := by
  induction h with
  | nil => exact .nil
  | @cons d d' ds ds' hd _ ih =>
    have hfile := hD hd
    by_cases hf : d.file = file
    · rw [List.filter_cons_of_pos (by simpa using hf),
        List.filter_cons_of_pos (by simpa [hfile] using hf)]
      exact .cons hd ih
    · rw [List.filter_cons_of_neg (by simpa using hf),
        List.filter_cons_of_neg (by simpa [hfile] using hf)]
      exact ih

/-! ## The first round: types -/

/-- A type is looked up like a struct, in a registry for which any types may have been used. -/
theorem lookupType_ofScripts (config : Config) (scripts : List BundledScript) (types : TypeIndex)
    (imports : ImportSet) (n : QualifiedName) :
    (Indexed.ofScripts config scripts).types.lookupType imports n =
      (Registry.lookupStruct (Indexed.addScripts config types .empty scripts).1 imports n).map
        StructMatch.asType := by
  rw [← lookupType_typeNames, typeNames_addScripts config types .empty scripts]
  rfl

theorem TypeIndex.lookupRef_alike {D : Diagnostic → Diagnostic → Prop} (hD : ∀ d, D d d)
    {config : Config} {types types' : TypeIndex} {imports : ImportSet}
    (h : ∀ n, (types.lookupType imports n).Alike D config config (types'.lookupType imports n))
    (type : TypeRef) :
    (types.lookupRef imports type).Alike D config config (types'.lookupRef imports type) := by
  cases type with
  | primitive kind range => exact .refl hD config _
  | named name => exact h name.name

theorem IndexScope.alike_of_types {D : Diagnostic → Diagnostic → Prop} (hD : ∀ d, D d d)
    {config : Config} {types types' : TypeIndex} {script : Script}
    (h : ∀ n, (types.lookupType (script.importedPackages config.selfImport) n).Alike D config config
      (types'.lookupType (script.importedPackages config.selfImport) n)) :
    (IndexScope.ofScript config types script).Alike D (IndexScope.ofScript config types' script) where
  refl d _ := hD d
  file := rfl
  replaces := rfl
  duplicate _ _ _ _ := option_rel_refl hD _
  types := TypeIndex.lookupRef_alike hD h

/-! ## The second round: registries -/

theorem Registry.declares_iff_find? {r : Registry} {id : PackageId} {q : QualifiedName}
    {d : StructDef} : r.Declares id q d ↔
      ∃ name, r.find? (·.structs) id name = some d ∧ id.package.append name = q := by
  constructor
  · rintro ⟨index, name, hindex, hd, hq⟩
    exact ⟨name, Option.bind_eq_some_iff.2 ⟨index, hindex, hd⟩, hq⟩
  · rintro ⟨name, hfind, hq⟩
    obtain ⟨index, hindex, hd⟩ := Option.bind_eq_some_iff.1 hfind
    exact ⟨index, name, hindex, hd, hq⟩

/-- A struct that can be named is declared once, so it is found whatever the order of packages. -/
theorem Registry.findStruct?_congr {r r' : Registry} {q : QualifiedName} (hq : r.Named q)
    (h : ∀ id d, r'.Declares id q d ↔ r.Declares id q d) : r'.findStruct? q = r.findStruct? q := by
  obtain ⟨imports, n, m, hm, rfl⟩ := hq
  obtain ⟨id, hdeclares, honce⟩ := declares_once hm
  obtain ⟨d, hd⟩ := exists_findStruct? hdeclares
  obtain ⟨d', hd'⟩ := exists_findStruct? ((h id _).2 hdeclares)
  obtain ⟨id₁, hd₁⟩ := declares_of_findStruct? hd
  obtain ⟨id₂, hd₂⟩ := declares_of_findStruct? hd'
  rw [hd, hd', (honce id₁ d hd₁).2, (honce id₂ d' ((h id₂ d').1 hd₂)).2]

/-- **A script is linked alike in two sessions** in which its names are looked up alike, and which
agree on the structs that scripts of the first one can name. -/
theorem LinkScope.alike_of_sessions {D : Diagnostic → Diagnostic → Prop} (hD : ∀ d, D d d)
    {config : Config} {scripts : List BundledScript} {x x' : Indexed}
    (hx : x = Indexed.ofScripts config scripts) {s : BundledScript} (hs : s ∈ scripts)
    (htypes : ∀ n, (x.types.lookupType (s.imports config) n).Alike D config config
      (x'.types.lookupType (s.imports config) n))
    (hfuncs : ∀ n, (x.registry.lookupFunc (s.imports config) n).Alike D config config
      (x'.registry.lookupFunc (s.imports config) n))
    (hstructs : ∀ n, (x.registry.lookupStruct (s.imports config) n).Alike D config config
      (x'.registry.lookupStruct (s.imports config) n))
    (hdeclares : ∀ t ∈ scripts, ∀ q, x.registry.NamedUnder (t.imports config) q →
      ∀ id d, x'.registry.Declares id q d ↔ x.registry.Declares id q d) :
    (LinkScope.ofScript x.registry x.types config s.script).Alike D
      (LinkScope.ofScript x'.registry x'.types config s.script) where
  refl d _ := hD d
  file := rfl
  types type := (TypeIndex.lookupRef_alike hD htypes type).single
  funcs := hfuncs
  structs := hstructs
  owner params e := by
    cases he : e.type (LinkScope.ofScript x.registry x.types config s.script) params with
    | none => rfl
    | some type =>
      cases type with
      | primitive kind => rfl
      | struct q =>
        subst hx
        obtain ⟨t, ht, hnamed⟩ : ∃ t ∈ scripts,
            (Indexed.ofScripts config scripts).registry.NamedUnder (t.imports config) q := by
          rcases Expr.namedUnder_of_type (typeNames_ofScripts config scripts)
            (madeFrom_ofScripts config scripts) he with h | h
          · exact ⟨s, hs, h⟩
          · exact h
        exact congrArg (Option.map (Owner.mk q))
          (Registry.findStruct?_congr hnamed.named (hdeclares t ht q hnamed))

end NameScope
