import NameScope.Proofs.Declared.Tables
import NameScope.Proofs.Lookup.Exact

/-!
# The type names of a session are those of its registry

A session is indexed in two passes that handle duplicates on their own: one records the names of
structs, the other their definitions. Forgetting all of a definition but its place
(`Registry.typeNames`) turns the second table into the first.

* one step: indexing a script and forgetting is forgetting and recording its names
  (`typeNames_add`, `typeNames_addScript`);
* a run: so it is for a session (`typeNames_addScripts`, `typeNames_ofScripts`).

**Results.**
* `typeNames_ofScripts`: the registry that a session builds has the type names that it builds;
* `lookupType_typeNames`: over such tables a name means the same as a type and as a struct;
* `types_agree_with_structs`: both together.
-/
namespace NameScope

/-! ## Forgetting definitions -/

section

variable {τ υ : Type}

/-- Changes the table of each package; packages and their order stay. -/
def Bundles.map (f : τ → υ) (b : Bundles τ) : Bundles υ :=
  ⟨b.table.mapValues (·.mapValues f)⟩

theorem Bundles.bundleNames_map (f : τ → υ) (b : Bundles τ) :
    (b.map f).bundleNames = b.bundleNames := by
  simp [bundleNames, map, OrderedMap.keys, OrderedMap.mapValues, Function.comp_def]

theorem Bundles.toList_map (f : τ → υ) (b : Bundles τ) :
    (b.map f).toList = b.toList.map fun e => (e.1, f e.2) := by
  unfold toList map OrderedMap.mapValues
  simp [List.map_flatMap, List.flatMap_map, Function.comp_def]

theorem Bundles.get?_map (f : τ → υ) (b : Bundles τ) (id : PackageId) :
    (b.map f).get? id = (b.get? id).map f := by
  unfold get? map
  simp only [OrderedMap.get?_mapValues]
  cases b.table.get? id.bundle with
  | none => rfl
  | some packages => exact OrderedMap.get?_mapValues f packages id.package

theorem Bundles.map_insert (f : τ → υ) (b : Bundles τ) (id : PackageId) (value : τ) :
    (b.insert id value).map f = (b.map f).insert id (f value) := by
  unfold insert update map OrderedMap.update
  simp only [OrderedMap.mapValues_insert, OrderedMap.get?_mapValues]
  cases b.table.get? id.bundle with
  | none => rfl
  | some packages => rfl

theorem Bundles.update_eq_insert (b : Bundles τ) (id : PackageId) (init : τ) (f : τ → τ) :
    b.update id init f = b.insert id (f ((b.get? id).getD init)) := by
  unfold insert update get? OrderedMap.update
  cases b.table.get? id.bundle with
  | none => rfl
  | some packages => rfl

end

/-- The structs of an index, without their fields. -/
def PackageIndex.typeNames (index : PackageIndex) : TypeNames :=
  ⟨index.structs.mapValues (·.toTarget)⟩

/-- The structs of a registry, without their fields. -/
def Registry.typeNames (r : Registry) : TypeIndex := r.map PackageIndex.typeNames

/-! ## One step: a declaration, a script -/

theorem OrderedMap.mapValues_declare {δ ε : Type} (f : δ → ε) (policy : DuplicatePolicy)
    (table : OrderedMap String δ) (name : String) (definition : δ) :
    (table.declare policy name definition).mapValues f =
      (table.mapValues f).declare policy name (f definition) := by
  unfold declare
  rw [get?_mapValues]
  cases table.get? name with
  | none => exact mapValues_insert f table name definition
  | some old =>
    cases policy.severity? with
    | none => exact mapValues_insert f table name definition
    | some severity => rfl

theorem IndexScope.toTarget_structDef (s : IndexScope) (decl : StructDecl) :
    (s.structDef decl).1.toTarget = ⟨⟨s.file, decl.range⟩, decl.documentation⟩ := rfl

theorem OrderedMap.mapValues_declareAll {δ ε ι : Type} (f : δ → ε) (policy : DuplicatePolicy)
    (name : ι → String) (define : ι → δ) (table : OrderedMap String δ) (decls : List ι) :
    (table.declareAll policy name define decls).mapValues f =
      (table.mapValues f).declareAll policy name (fun decl => f (define decl)) decls := by
  induction decls generalizing table with
  | nil => rfl
  | cons decl decls ih =>
    simp only [declareAll, List.foldl_cons] at ih ⊢
    rw [ih, mapValues_declare]

theorem typeNames_add (config : Config) (types : TypeIndex) (index : PackageIndex)
    (script : Script) :
    (index.add config types script).1.typeNames =
      index.typeNames.declare config.duplicates script := by
  unfold PackageIndex.typeNames TypeNames.declare PackageIndex.add
  simp only [IndexScope.addStructs_fst, OrderedMap.mapValues_declareAll,
    IndexScope.toTarget_structDef]
  rfl

theorem typeNames_addScript (config : Config) (types : TypeIndex) (r : Registry)
    (s : BundledScript) :
    Registry.typeNames (Indexed.addScript config types r s).1 =
      Indexed.declareTypes config.duplicates r.typeNames s := by
  unfold Indexed.addScript Indexed.declareTypes Registry.typeNames
  simp only [Bundles.map_insert, Bundles.update_eq_insert, Bundles.get?_map, typeNames_add]
  cases r.get? s.id with
  | none => rfl
  | some index => rfl

/-! ## A run: all scripts of a session -/

theorem typeNames_addScripts (config : Config) (types : TypeIndex) (r : Registry)
    (scripts : List BundledScript) :
    Registry.typeNames (Indexed.addScripts config types r scripts).1 =
      scripts.foldl (Indexed.declareTypes config.duplicates) r.typeNames := by
  induction scripts generalizing r with
  | nil => rfl
  | cons s scripts ih =>
    simp only [Indexed.addScripts, List.foldl_cons]
    rw [ih, typeNames_addScript]

/-- The two passes over a session give the same type names. -/
theorem typeNames_ofScripts (config : Config) (scripts : List BundledScript) :
    (Indexed.ofScripts config scripts).registry.typeNames =
      (Indexed.ofScripts config scripts).types :=
  typeNames_addScripts config _ .empty scripts

/-! ## Looking up a type and a struct -/

/-- A struct where a type is written. -/
def StructMatch.asType (m : StructMatch) : TypeMatch :=
  ⟨.struct m.qualified, some m.definition.toTarget⟩

def Lookup.map {α β : Type} (f : α → β) : Lookup α → Lookup β
  | .imported alternatives => .imported (alternatives.map (·.map f))
  | .notImported candidates => .notImported (candidates.map (·.map f))

theorem Lookup.alternatives_map {α β : Type} (f : α → β) (l : Lookup α) :
    (l.map f).alternatives = l.alternatives.map (·.map f) := by
  cases l <;> rfl

theorem Lookup.candidates_map {α β : Type} (f : α → β) (l : Lookup α) :
    (l.map f).candidates = l.candidates.map (·.map f) := by
  cases l <;> rfl

theorem Lookup.single?_map {α β : Type} (f : α → β) (l : Lookup α) :
    (l.map f).single? = l.single?.map f := by
  unfold single?
  rw [alternatives_map]
  rcases l.alternatives with _ | ⟨a, _ | ⟨a', as⟩⟩ <;> rfl

/-- A struct candidate where a type is written. -/
def Candidate.asType : Candidate → Candidate
  | .struct found => .type found.asType
  | c => c

/-- The keyed look-up in the type names and the scan of the index find the same. -/
theorem candidates_typeNames (n package : QualifiedName) (index : PackageIndex) :
    index.typeNames.candidates package ⟨.type, n⟩ =
      (index.candidates package ⟨.struct, n⟩).map Candidate.asType := by
  rw [TypeNames.candidates_eq_select package ⟨.type, n⟩ index.typeNames rfl]
  unfold PackageIndex.candidates PackageIndex.typeNames OrderedMap.mapValues Query.select
  simp only [List.filter_map, List.map_map]
  rfl

theorem search_typeNames (r : Registry) (n : QualifiedName) (admits : QualifiedName → Bool) :
    r.typeNames.search ⟨.type, n⟩ admits =
      (r.search ⟨.struct, n⟩ admits).map (·.map Candidate.asType) := by
  unfold Bundles.search Registry.typeNames
  rw [Bundles.toList_map, List.flatMap_map, List.map_flatMap]
  refine List.flatMap_congr fun e _ => ?_
  obtain ⟨id, index⟩ := e
  simp only
  have hc : Searchable.candidates id.package ⟨.type, n⟩ index.typeNames =
      (Searchable.candidates id.package ⟨.struct, n⟩ index).map Candidate.asType :=
    candidates_typeNames n id.package index
  split
  · rw [hc, List.map_map, List.map_map]
    rfl
  · rfl

theorem lookup_typeNames (r : Registry) (imports : ImportSet) (n : QualifiedName) :
    r.typeNames.lookup imports ⟨.type, n⟩ =
      (r.lookup imports ⟨.struct, n⟩).map Candidate.asType := by
  unfold Bundles.lookup
  rw [search_typeNames, search_typeNames]
  split
  · rename_i h
    rw [List.map_eq_nil_iff.1 h]
    rfl
  · rename_i h
    split
    · rename_i h'
      rw [h'] at h
      exact absurd rfl h
    · rfl

theorem Alternative.filterMap_map {α β γ δ : Type} {f : β → Option δ} {g : α → β}
    {f' : α → Option γ} {g' : γ → δ} {l : List (Alternative α)}
    (h : ∀ a ∈ l, f (g a.value) = (f' a.value).map g') :
    (l.map (·.map g)).filterMap (Alternative.filterMap f) =
      (l.filterMap (Alternative.filterMap f')).map (·.map g') := by
  rw [List.filterMap_map, List.map_filterMap]
  refine List.filterMap_congr fun a ha => ?_
  simp only [Function.comp, Alternative.filterMap, Alternative.map, h a ha, Option.map_map]
  rfl

/-- **A name means the same as a type and as a struct**, in the type names of a registry and in
the registry. -/
theorem lookupType_typeNames (r : Registry) (imports : ImportSet) (n : QualifiedName) :
    r.typeNames.lookupType imports n = (r.lookupStruct imports n).map StructMatch.asType := by
  have hs : ∀ admits, ∀ a ∈ r.search ⟨.struct, n⟩ admits,
      a.value.asType.type? = a.value.struct?.map StructMatch.asType := by
    intro admits a ha
    obtain ⟨id, index, -, -, c, hc, rfl⟩ := Bundles.mem_search.1 ha
    obtain ⟨m, -, rfl⟩ := Option.map_eq_some_iff.1
      (PackageIndex.struct_of_mem_candidates n id.package index c hc)
    rfl
  unfold TypeIndex.lookupType Registry.lookupStruct
  rw [lookup_typeNames]
  unfold Bundles.lookup
  split
  · exact congrArg Lookup.notImported (Alternative.filterMap_map (hs _))
  · exact congrArg Lookup.imported (Alternative.filterMap_map (hs _))

/-- A type and a struct that two look-ups show in one place. -/
structure SameMatch (a : Alternative TypeMatch) (b : Alternative StructMatch) : Prop where
  type : a.value.type = .struct b.value.qualified
  text : Matched.qualifiedText a.value = Matched.qualifiedText b.value
  /-- The place of the declaration and its documentation. -/
  target : Matched.target a.value = Matched.target b.value
  imports : a.imports = b.imports

theorem forall₂_sameMatch (l : List (Alternative StructMatch)) :
    List.Forall₂ SameMatch (l.map (·.map StructMatch.asType)) l := by
  induction l with
  | nil => exact .nil
  | cons a l ih => exact .cons ⟨rfl, rfl, rfl, rfl⟩ ih

/-- **The two passes agree.** Bundles, packages, struct names, places and documentation are the
same in both tables of a session, in the same order; so what an annotation may mean and what a
struct literal of the same name may mean correspond one to one. -/
theorem types_agree_with_structs (config : Config) (scripts : List BundledScript) :
    let session := Indexed.ofScripts config scripts
    session.types.bundleNames = session.registry.bundleNames ∧
    session.types.toList.map (fun e => (e.1, e.2.targets.entries)) =
      session.registry.toList.map (fun e =>
        (e.1, e.2.structs.entries.map fun s => (s.1, s.2.toTarget))) ∧
    ∀ (imports : ImportSet) (name : WrittenName) (member : String) (settings : Config)
      (log : DiagnosticLog),
      let types := (session.types.resolveType settings imports member (.named name) log).1
      let structs := session.registry.lookupStruct imports name.name
      (session.registry.resolveStruct settings imports name log).outcome =
        (structs.link name).map (fun _ => structs) ∧
      List.Forall₂ SameMatch types.alternatives structs.alternatives ∧
      List.Forall₂ SameMatch types.candidates structs.candidates := by
  intro session
  have htypes : session.types = session.registry.typeNames :=
    (typeNames_ofScripts config scripts).symm
  refine ⟨?_, ?_, ?_⟩
  · rw [htypes]
    exact Bundles.bundleNames_map PackageIndex.typeNames session.registry
  · rw [htypes, Registry.typeNames, Bundles.toList_map, List.map_map]
    rfl
  · intro imports name member settings log types structs
    have hl : types = structs.map StructMatch.asType := by
      show session.types.lookupType imports name.name = _
      rw [htypes, lookupType_typeNames]
    refine ⟨?_, ?_, ?_⟩
    · show (structs.attempt settings .struct name log).outcome = _
      unfold Lookup.attempt
      cases structs.link name with
      | ok linked => rfl
      | error e => rfl
    · rw [hl, Lookup.alternatives_map]
      exact forall₂_sameMatch _
    · rw [hl, Lookup.candidates_map]
      exact forall₂_sameMatch _

end NameScope
