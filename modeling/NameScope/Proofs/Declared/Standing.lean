import Mathlib.Data.List.Induction
import NameScope.Proofs.Lookup.Keyed

/-!
# Which declaration of a name stands

Tables of declarations are written one declaration at a time. What they hold in the end is said here
of the whole list: under each name the declaration that the policy lets stand, the first or the last
of that name, and the names in the order in which they were first met.

Structs and funcs are handled alike, and so are all statements about them: `DeclFamily` holds what
differs.

* one step: a declaration, a script (`standing_concat`, `table_add_eq`);
* a run: all declarations, all scripts of a session (`get?_declareAll`, `keys_declareAll`,
  `table_addScripts`).

**Results.**
* `find?_ofScripts`: what the registry of a session holds under a name;
* `find?_eq_some_iff`: a definition of the registry is that of a declaration that stands.
-/
namespace NameScope

/-! ## Declarations one after the other -/

/-- Of the declarations of one name, in the order in which they are met, the one that counts. -/
def DuplicatePolicy.standing (policy : DuplicatePolicy) (decls : List ε) : Option ε :=
  match policy with
  | .error | .warning => decls.head?
  | .allow => decls.getLast?

theorem DuplicatePolicy.standing_concat (policy : DuplicatePolicy) (decls : List ε) (d : ε) :
    policy.standing (decls ++ [d]) =
      some (if policy.severity?.isSome then (policy.standing decls).getD d else d) := by
  cases policy with
  | error => cases decls <;> rfl
  | warning => cases decls <;> rfl
  | allow => exact List.getLast?_concat

theorem DuplicatePolicy.standing_eq_head? {policy : DuplicatePolicy} {severity : Severity}
    (h : policy.severity? = some severity) (decls : List ε) :
    policy.standing decls = decls.head? := by
  cases policy with
  | error => rfl
  | warning => rfl
  | allow => cases h

theorem DuplicatePolicy.mem_of_standing {policy : DuplicatePolicy} {decls : List ε} {d : ε}
    (h : policy.standing decls = some d) : d ∈ decls := by
  cases policy with
  | error => exact List.mem_of_mem_head? h
  | warning => exact List.mem_of_mem_head? h
  | allow => exact List.mem_of_getLast? h

theorem eraseDups_concat {α : Type} [DecidableEq α] (l : List α) (a : α) :
    (l ++ [a]).eraseDups = if a ∈ l then l.eraseDups else l.eraseDups ++ [a] := by
  rw [List.eraseDups_append]
  by_cases ha : a ∈ l
  · simp [ha, List.removeAll]
  · simp [ha, List.removeAll, List.eraseDups_cons]

namespace OrderedMap

variable {δ ε : Type} (policy : DuplicatePolicy) (name : ε → String) (define : ε → δ)

theorem declareAll_append (table : OrderedMap String δ) (decls decls' : List ε) :
    table.declareAll policy name define (decls ++ decls') =
      (table.declareAll policy name define decls).declareAll policy name define decls' :=
  List.foldl_append

theorem declareAll_map {ι : Type} (f : ι → ε) (table : OrderedMap String δ) (decls : List ι) :
    table.declareAll policy name define (decls.map f) =
      table.declareAll policy (fun d => name (f d)) (fun d => define (f d)) decls :=
  List.foldl_map

theorem get?_declareAll (decls : List ε) (key : String) :
    ((empty : OrderedMap String δ).declareAll policy name define decls).get? key =
      (policy.standing (decls.filter fun d => name d = key)).map define := by
  induction decls using List.reverseRecOn with
  | nil => cases policy <;> rfl
  | append_singleton decls d ih =>
    have hd : ∀ table : OrderedMap String δ, table.declareAll policy name define [d] =
      table.declare policy (name d) (define d) := fun _ => rfl
    rw [declareAll_append, hd, get?_declare, ih, List.filter_append]
    by_cases hk : name d = key
    · rw [if_pos hk, List.filter_cons_of_pos (by simpa using hk), List.filter_nil,
        DuplicatePolicy.standing_concat]
      cases policy.standing (decls.filter fun d => name d = key) <;> split <;> rfl
    · rw [if_neg hk, List.filter_cons_of_neg (by simpa using hk), List.filter_nil, List.append_nil]

theorem keys_declare (table : OrderedMap String δ) (key : String) (definition : δ) :
    (table.declare policy key definition).keys =
      if key ∈ table.keys then table.keys else table.keys ++ [key] := by
  unfold declare
  split
  · rename_i old _ hget _
    rw [if_pos (mem_keys_of_get? hget)]
  · exact keys_insert table key definition

theorem keys_declareAll (decls : List ε) :
    ((empty : OrderedMap String δ).declareAll policy name define decls).keys =
      (decls.map name).eraseDups := by
  induction decls using List.reverseRecOn with
  | nil => rfl
  | append_singleton decls d ih =>
    have hd : ∀ table : OrderedMap String δ, table.declareAll policy name define [d] =
      table.declare policy (name d) (define d) := fun _ => rfl
    rw [declareAll_append, hd, keys_declare, ih, List.map_append, List.map_singleton,
      eraseDups_concat]
    simp only [List.mem_eraseDups]

end OrderedMap

/-! ## Structs and funcs -/

/-- The declarations of one of the two kinds, as scripts hold them and as indexing handles them. -/
structure DeclFamily (δ ε : Type) where
  kind : DeclKind
  /-- The declarations of a script. -/
  declared : Script → List ε
  name : ε → Ident
  range : ε → Range
  documentation : ε → Option String
  /-- The definition of a declaration, and what is reported of its members. -/
  define : IndexScope → ε → δ × List Diagnostic
  /-- The definition as a reference to it sees it. -/
  target : δ → Target
  /-- The definitions of a package. -/
  table : PackageIndex → OrderedMap String δ
  target_define : ∀ scope decl,
    target (define scope decl).1 = ⟨⟨scope.file, range decl⟩, documentation decl⟩
  table_empty : ∀ package, table (.empty package) = .empty
  table_add : ∀ config types index script,
    table (PackageIndex.add config types index script).1 =
      (table index).declareAll config.duplicates (fun decl => (name decl).text)
        (fun decl => (define (.ofScript config types script) decl).1) (declared script)

namespace DeclFamily

/-- The structs. -/
def structs : DeclFamily StructDef StructDecl where
  kind := .struct
  declared := (·.structs)
  name := (·.name)
  range := (·.range)
  documentation := (·.documentation)
  define := IndexScope.structDef
  target := (·.toTarget)
  table := (·.structs)
  target_define _ _ := rfl
  table_empty _ := rfl
  table_add config types index script :=
    (IndexScope.ofScript config types script).addStructs_fst index.package index.structs
      script.structs

/-- The funcs. -/
def funcs : DeclFamily FuncDef FuncDecl where
  kind := .func
  declared := (·.funcs)
  name := (·.name)
  range := (·.range)
  documentation := (·.documentation)
  define := IndexScope.funcDef
  target := (·.toTarget)
  table := (·.funcs)
  target_define _ _ := rfl
  table_empty _ := rfl
  table_add config types index script :=
    (IndexScope.ofScript config types script).addFuncs_fst index.package index.funcs script.funcs

variable {δ ε : Type} (f : DeclFamily δ ε)

/-- The declarations of scripts, each with its script, in the order in which they are met. -/
def met (scripts : List Script) : List (Script × ε) :=
  scripts.flatMap fun script => (f.declared script).map (script, ·)

/-- The name of a declaration that is met. -/
def key (d : Script × ε) : String := (f.name d.2).text

/-- What a reference to a declaration that is met is linked to. -/
def place (d : Script × ε) : Target := ⟨⟨d.1.file, f.range d.2⟩, f.documentation d.2⟩

theorem met_append (scripts scripts' : List Script) :
    f.met (scripts ++ scripts') = f.met scripts ++ f.met scripts' := List.flatMap_append

theorem mem_met {scripts : List Script} {d : Script × ε} :
    d ∈ f.met scripts ↔ d.1 ∈ scripts ∧ d.2 ∈ f.declared d.1 := by
  unfold met
  rw [List.mem_flatMap]
  constructor
  · rintro ⟨script, hscript, hd⟩
    obtain ⟨decl, hdecl, rfl⟩ := List.mem_map.1 hd
    exact ⟨hscript, hdecl⟩
  · rintro ⟨hscript, hdecl⟩
    exact ⟨d.1, hscript, List.mem_map_of_mem hdecl⟩

section

variable (config : Config) (types : TypeIndex)

/-- The definition of a declaration that is met. -/
def definition (d : Script × ε) : δ := (f.define (.ofScript config types d.1) d.2).1

theorem target_definition (d : Script × ε) :
    f.target (f.definition config types d) = f.place d := f.target_define _ _

/-- The table that scripts of one package make, one after the other. -/
def tableOf (scripts : List Script) : OrderedMap String δ :=
  OrderedMap.empty.declareAll config.duplicates f.key (f.definition config types) (f.met scripts)

/-- Under each name, the definition of the declaration that stands. -/
theorem get?_tableOf (scripts : List Script) (key : String) :
    (f.tableOf config types scripts).get? key =
      (config.duplicates.standing ((f.met scripts).filter fun d => f.key d = key)).map
        (f.definition config types) :=
  OrderedMap.get?_declareAll config.duplicates f.key _ _ key

/-- The names, in the order of their first declarations. -/
theorem keys_tableOf (scripts : List Script) :
    (f.tableOf config types scripts).keys = ((f.met scripts).map f.key).eraseDups :=
  OrderedMap.keys_declareAll config.duplicates f.key _ _

/-- One more script. -/
theorem table_add_eq {index : PackageIndex} {scripts : List Script} (script : Script)
    (h : f.table index = f.tableOf config types scripts) :
    f.table (index.add config types script).1 = f.tableOf config types (scripts ++ [script]) := by
  have hscript : f.met [script] = (f.declared script).map (script, ·) := List.flatMap_singleton _ _
  rw [f.table_add, h, tableOf, tableOf, met_append, OrderedMap.declareAll_append, hscript,
    OrderedMap.declareAll_map]
  rfl

end

end DeclFamily

/-! ## A session -/

/-- The scripts that add to a package. -/
def scriptsOf (id : PackageId) (scripts : List BundledScript) : List Script :=
  (scripts.filter fun s => s.id = id).map (·.script)

theorem scriptsOf_concat (id : PackageId) (scripts : List BundledScript) (s : BundledScript) :
    scriptsOf id (scripts ++ [s]) =
      if s.id = id then scriptsOf id scripts ++ [s.script] else scriptsOf id scripts := by
  unfold scriptsOf
  by_cases hid : s.id = id
  · simp [hid]
  · simp [hid]

theorem mem_scriptsOf {id : PackageId} {scripts : List BundledScript} {script : Script} :
    script ∈ scriptsOf id scripts ↔ ∃ s ∈ scripts, s.id = id ∧ s.script = script := by
  simp [scriptsOf, and_assoc]

namespace DeclFamily

variable {δ ε : Type} (f : DeclFamily δ ε) {config : Config} {types : TypeIndex}

theorem table_addScripts {r : Registry} {before : List BundledScript}
    (h : ∀ id, f.table ((r.get? id).getD (.empty id.package)) =
      f.tableOf config types (scriptsOf id before)) (scripts : List BundledScript)
    (id : PackageId) :
    f.table (((Indexed.addScripts config types r scripts).1.get? id).getD (.empty id.package)) =
      f.tableOf config types (scriptsOf id (before ++ scripts)) := by
  induction scripts generalizing r before with
  | nil => rw [List.append_nil]; exact h id
  | cons s scripts ih =>
    have hstep : ∀ id, f.table
        (((Indexed.addScript config types r s).1.get? id).getD (.empty id.package)) =
          f.tableOf config types (scriptsOf id (before ++ [s])) := by
      intro id
      rw [Indexed.get?_addScript, scriptsOf_concat]
      split
      · rename_i hid
        subst hid
        exact f.table_add_eq config types s.script (h s.id)
      · exact h id
    rw [← List.singleton_append, ← List.append_assoc]
    exact ih hstep

/-- **What a package declares under a name** is the definition of the declaration that stands. -/
theorem find?_ofScripts (config : Config) (scripts : List BundledScript) (id : PackageId)
    (key : String) :
    let session := Indexed.ofScripts config scripts
    session.registry.find? f.table id key =
      (config.duplicates.standing
        ((f.met (scriptsOf id scripts)).filter fun d => f.key d = key)).map
        (f.definition config session.types) := by
  intro session
  have hempty : ∀ id, f.table (((Bundles.empty : Registry).get? id).getD (.empty id.package)) =
      f.tableOf config session.types (scriptsOf id []) := fun id => f.table_empty id.package
  have htable := f.table_addScripts hempty scripts id
  rw [List.nil_append] at htable
  rw [← f.get?_tableOf, ← htable]
  unfold Registry.find?
  show (session.registry.get? id).bind _ = (f.table ((session.registry.get? id).getD _)).get? key
  cases session.registry.get? id with
  | none =>
    rw [Option.getD_none, f.table_empty]
    rfl
  | some index => rfl

end DeclFamily

/-! ## Declarations that stand -/

namespace DeclFamily

variable {δ ε : Type}

/-- Of the declarations of its name in a package, it is the one that counts. -/
def Stands (f : DeclFamily δ ε) (config : Config) (scripts : List BundledScript)
    (id : PackageId) (d : Script × ε) : Prop :=
  config.duplicates.standing ((f.met (scriptsOf id scripts)).filter fun e => f.key e = f.key d) =
    some d

variable {f : DeclFamily δ ε} {config : Config} {scripts : List BundledScript}

theorem Stands.mem {id : PackageId} {d : Script × ε} (h : f.Stands config scripts id d) :
    ∃ s ∈ scripts, s.id = id ∧ s.script = d.1 ∧ d.2 ∈ f.declared d.1 := by
  obtain ⟨hscript, hdecl⟩ := f.mem_met.1 (List.mem_filter.1
    (DuplicatePolicy.mem_of_standing h)).1
  obtain ⟨s, hs, hid, hscript⟩ := mem_scriptsOf.1 hscript
  exact ⟨s, hs, hid, hscript, hdecl⟩

/-- One declaration of a name stands. -/
theorem Stands.unique {id : PackageId} {d d' : Script × ε} (h : f.Stands config scripts id d)
    (h' : f.Stands config scripts id d') (hkey : f.key d' = f.key d) : d' = d := by
  unfold Stands at h h'
  rw [hkey, h] at h'
  exact (Option.some.inj h').symm

/-- A definition of the registry is that of the declaration that stands. -/
theorem find?_eq_some_iff {id : PackageId} {key : String} {definition : δ} :
    (Indexed.ofScripts config scripts).registry.find? f.table id key = some definition ↔
      ∃ d, f.Stands config scripts id d ∧ f.key d = key ∧
        f.definition config (Indexed.ofScripts config scripts).types d = definition := by
  rw [f.find?_ofScripts config scripts id key, Option.map_eq_some_iff]
  constructor
  · rintro ⟨d, hd, rfl⟩
    have hkey : f.key d = key :=
      of_decide_eq_true (List.mem_filter.1 (DuplicatePolicy.mem_of_standing hd)).2
    refine ⟨d, ?_, hkey, rfl⟩
    unfold Stands
    rwa [hkey]
  · rintro ⟨d, hd, rfl, rfl⟩
    exact ⟨d, hd, rfl⟩

end DeclFamily

end NameScope
