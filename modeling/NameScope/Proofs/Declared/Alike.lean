import Mathlib.Data.List.Forall2
import NameScope.Proofs.Declared.Tables

/-!
# Indexing a script in two scopes

Two runs of indexing are compared declaration by declaration. `D` says how a diagnostic of the
first run and the one in its place in the second are related. If annotations have the same types in
both scopes and their reports are related (`IndexScope.Alike`), then all definitions are the same
and all reports are related, position by position.

What is reported of a declaration also depends on whether its name is taken. For that the tables
have to agree on the declared names only.

* one step: a member, a declaration, a script (`addMembers_alike`, `addDecls_alike`, `add_alike`);
* a run: `addScripts_alike`.

**Results.**
* `addScripts_importing`, `addScripts_alike`: scripts that are indexed in scopes that are alike give
  the same registry and related reports.
-/
namespace NameScope

theorem option_rel_self {α : Type} {D : α → α → Prop} {o : Option α} (h : ∀ a, o = some a → D a a) :
    Option.Rel D o o := by
  cases o with
  | none => exact .none
  | some a => exact .some (h a rfl)

theorem option_rel_refl {α : Type} {D : α → α → Prop} (hD : ∀ a, D a a) (o : Option α) :
    Option.Rel D o o :=
  option_rel_self fun a _ => hD a

/-- Two look-ups with the same only match, and related reports. -/
structure Lookup.Alike [Matched α] (D : Diagnostic → Diagnostic → Prop) (config config' : Config)
    (l l' : Lookup α) : Prop where
  single : l'.single? = l.single?
  report : ∀ file kind name range, kind ≠ .field →
    Option.Rel D (l.report? config file kind name range) (l'.report? config' file kind name range)

/-- Two scopes in which annotations have the same types and duplicates are treated the same way, and
in which what is reported is related. What is reported in both scopes alike suggests nothing. -/
structure IndexScope.Alike (D : Diagnostic → Diagnostic → Prop) (s s' : IndexScope) : Prop where
  refl : ∀ d, d.code ≠ some "E0003" → D d d
  file : s'.file = s.file
  replaces : s'.config.duplicates.severity?.isSome = s.config.duplicates.severity?.isSome
  duplicate : ∀ kind package name first, Option.Rel D
    (s.duplicateDecl? kind package name first) (s'.duplicateDecl? kind package name first)
  types : ∀ type, (s.types.lookupRef s.imports type).Alike D s.config s'.config
    (s'.types.lookupRef s'.imports type)

/-! ## Tables -/

section

variable {δ ι : Type}

/-- Of a policy it only counts whether duplicates are replaced. -/
theorem OrderedMap.declare_policy {policy policy' : DuplicatePolicy}
    (h : policy'.severity?.isSome = policy.severity?.isSome) (table : OrderedMap String δ)
    (name : String) (definition : δ) :
    table.declare policy' name definition = table.declare policy name definition := by
  unfold declare
  cases hs : policy.severity? with
  | none =>
    have hs' : policy'.severity? = none := by simpa [hs] using h
    rw [hs']
  | some severity =>
    obtain ⟨severity', hs'⟩ := Option.isSome_iff_exists.1 (h.trans (by rw [hs]; rfl))
    rw [hs']
    cases table.get? name <;> rfl

/-- A declaration changes what its own name finds, and that by what was there. -/
theorem OrderedMap.get?_declareAll_congr {policy : DuplicatePolicy} {name : ι → String}
    {define : ι → δ} {table table' : OrderedMap String δ} {key : String}
    (h : table'.get? key = table.get? key) (decls : List ι) :
    (table'.declareAll policy name define decls).get? key =
      (table.declareAll policy name define decls).get? key := by
  induction decls generalizing table table' with
  | nil => exact h
  | cons decl decls ih => exact ih (by rw [get?_declare, get?_declare, h])

theorem OrderedMap.get?_declareAll_of_not_mem {policy : DuplicatePolicy} {name : ι → String}
    {define : ι → δ} {table : OrderedMap String δ} {key : String} {decls : List ι}
    (h : ∀ decl ∈ decls, name decl ≠ key) :
    (table.declareAll policy name define decls).get? key = table.get? key := by
  induction decls generalizing table with
  | nil => rfl
  | cons decl decls ih =>
    unfold declareAll at ih ⊢
    rw [List.foldl_cons, ih fun d hd => h d (List.mem_cons_of_mem _ hd), get?_declare,
      if_neg (h decl List.mem_cons_self)]

theorem OrderedMap.declareAll_policy {policy policy' : DuplicatePolicy}
    (h : policy'.severity?.isSome = policy.severity?.isSome) (table : OrderedMap String δ)
    (name : ι → String) (define : ι → δ) (decls : List ι) :
    table.declareAll policy' name define decls = table.declareAll policy name define decls := by
  unfold declareAll
  congr 1
  funext table decl
  exact declare_policy h table _ _

end

namespace IndexScope

/-! ## Declarations of one kind -/

section

variable {δ ι : Type}

/-- Adds declarations that `define` makes definitions of: what `addStructs` and `addFuncs` have in
common. -/
def addDecls (s : IndexScope) (kind : DeclKind) (package : QualifiedName) (name : ι → Ident)
    (define : ι → δ × List Diagnostic) (place : δ → Target) (table : OrderedMap String δ) :
    List ι → OrderedMap String δ × List Diagnostic
  | [] => (table, [])
  | decl :: decls =>
    let first := (table.get? (name decl).text).map place
    let rest := s.addDecls kind package name define place
      (table.declare s.config.duplicates (name decl).text (define decl).1) decls
    (rest.1, (define decl).2 ++ (s.duplicateDecl? kind package (name decl) first).toList ++ rest.2)

theorem addStructs_eq (s : IndexScope) (package : QualifiedName)
    (table : OrderedMap String StructDef) (decls : List StructDecl) :
    s.addStructs package table decls =
      s.addDecls .struct package (·.name) s.structDef (·.toTarget) table decls := by
  induction decls generalizing table with
  | nil => rfl
  | cons decl decls ih => simp only [addStructs, addDecls, ih]

theorem addFuncs_eq (s : IndexScope) (package : QualifiedName)
    (table : OrderedMap String FuncDef) (decls : List FuncDecl) :
    s.addFuncs package table decls =
      s.addDecls .func package (·.name) s.funcDef (·.toTarget) table decls := by
  induction decls generalizing table with
  | nil => rfl
  | cons decl decls ih => simp only [addFuncs, addDecls, ih]

end

/-! ## One step: a member, a declaration -/

variable {D : Diagnostic → Diagnostic → Prop} {s s' : IndexScope}

theorem toList_rel {d d' : Option Diagnostic} (h : Option.Rel D d d') :
    List.Forall₂ D d.toList d'.toList := by
  cases h with
  | none => exact .nil
  | some h => exact .cons h .nil

theorem Alike.memberType (h : s.Alike D s') (member : String) (type : TypeRef) :
    (s'.memberType member type).1 = (s.memberType member type).1 ∧
      List.Forall₂ D (s.memberType member type).2 (s'.memberType member type).2 := by
  constructor
  · simp only [IndexScope.memberType, TypeIndex.typeOf, (h.types type).single]
  · refine toList_rel ?_
    have := (h.types type).report s.file .typeOf member type.range (by decide)
    simpa only [TypeIndex.report?, h.file] using this

theorem Alike.addMembers (h : s.Alike D s') (kind : MemberKind)
    (decls : List (Option String × MemberDecl)) (accepted : OrderedMap String Member) :
    (s'.addMembers kind accepted decls).1 = (s.addMembers kind accepted decls).1 ∧
      List.Forall₂ D (s.addMembers kind accepted decls).2 (s'.addMembers kind accepted decls).2 := by
  induction decls generalizing accepted with
  | nil => exact ⟨rfl, .nil⟩
  | cons p decls ih =>
    obtain ⟨documentation, decl⟩ := p
    unfold IndexScope.addMembers
    cases accepted.get? decl.name.text with
    | some first =>
      refine ⟨(ih accepted).1, .cons ?_ (ih accepted).2⟩
      have hd : s'.duplicateMember kind decl.name first = s.duplicateMember kind decl.name first := by
        simp only [duplicateMember, h.file]
      have hcode : (s.duplicateMember kind decl.name first).code = some "E0004" := rfl
      rw [hd]
      exact h.refl _ (by simp [hcode])
    | none =>
      obtain ⟨htype, hreports⟩ := h.memberType decl.name.text decl.type
      simp only [h.file, htype]
      obtain ⟨hmembers, hrest⟩ := ih (accepted.insert decl.name.text
        ⟨⟨⟨s.file, decl.range⟩, documentation⟩, (s.memberType decl.name.text decl.type).1⟩)
      exact ⟨hmembers, List.rel_append hreports hrest⟩

theorem Alike.structDef (h : s.Alike D s') (decl : StructDecl) :
    (s'.structDef decl).1 = (s.structDef decl).1 ∧
      List.Forall₂ D (s.structDef decl).2 (s'.structDef decl).2 := by
  obtain ⟨hfields, hreports⟩ := h.addMembers .field
    (decl.fields.map fun f => (f.documentation, f.toMemberDecl)) .empty
  exact ⟨by simp only [IndexScope.structDef, hfields, h.file], hreports⟩

theorem Alike.returnType (h : s.Alike D s') (decl : FuncDecl) :
    (s'.returnType decl).1 = (s.returnType decl).1 ∧
      List.Forall₂ D (s.returnType decl).2 (s'.returnType decl).2 := by
  unfold IndexScope.returnType
  cases decl.returns with
  | none => exact ⟨rfl, .nil⟩
  | some type => exact h.memberType (returnValue decl) type

theorem Alike.funcDef (h : s.Alike D s') (decl : FuncDecl) :
    (s'.funcDef decl).1 = (s.funcDef decl).1 ∧
      List.Forall₂ D (s.funcDef decl).2 (s'.funcDef decl).2 := by
  obtain ⟨hparams, hreports⟩ := h.addMembers .parameter (decl.params.map fun p => (none, p)) .empty
  obtain ⟨hreturns, hrest⟩ := h.returnType decl
  exact ⟨by simp only [IndexScope.funcDef, hparams, hreturns, h.file],
    List.rel_append hreports hrest⟩

/-- Reports of declarations that make the same definitions, added to tables in which the same of
their names are taken. -/
theorem Alike.addDecls {δ ι : Type} (h : s.Alike D s') (kind : DeclKind) (package : QualifiedName)
    {name : ι → Ident} {define define' : ι → δ × List Diagnostic} {place : δ → Target}
    (hdefine : ∀ decl, (define' decl).1 = (define decl).1 ∧
      List.Forall₂ D (define decl).2 (define' decl).2) (decls : List ι)
    {table table' : OrderedMap String δ}
    (htable : ∀ decl ∈ decls, table'.get? (name decl).text = table.get? (name decl).text) :
    List.Forall₂ D (s.addDecls kind package name define place table decls).2
      (s'.addDecls kind package name define' place table' decls).2 := by
  induction decls generalizing table table' with
  | nil => exact .nil
  | cons decl decls ih =>
    obtain ⟨hd, hreports⟩ := hdefine decl
    simp only [IndexScope.addDecls, hd, OrderedMap.declare_policy h.replaces,
      htable decl List.mem_cons_self]
    refine List.rel_append (List.rel_append hreports (toList_rel (h.duplicate _ _ _ _))) (ih ?_)
    intro decl' hdecl'
    rw [OrderedMap.get?_declare, OrderedMap.get?_declare,
      htable decl' (List.mem_cons_of_mem _ hdecl')]

end IndexScope

/-! ## One step: a script -/

/-- The script with other import lines. -/
def Script.importing (script : Script) (imports : List Import) : Script := { script with imports }

def BundledScript.importing (s : BundledScript) (imports : List Import) : BundledScript :=
  { s with script := s.script.importing imports }

section

variable {D : Diagnostic → Diagnostic → Prop} {config config' : Config} {types types' : TypeIndex}

/-- Two indices of one package that agree on the names that a script declares. -/
structure PackageIndex.AgreeOn (script : Script) (index index' : PackageIndex) : Prop where
  package : index'.package = index.package
  structs : ∀ decl ∈ script.structs,
    index'.structs.get? decl.name.text = index.structs.get? decl.name.text
  funcs : ∀ decl ∈ script.funcs,
    index'.funcs.get? decl.name.text = index.funcs.get? decl.name.text

/-- What is reported of two scripts with the same declarations. -/
theorem PackageIndex.add_reports {script script' : Script} {index index' : PackageIndex}
    (hstructs : script'.structs = script.structs) (hfuncs : script'.funcs = script.funcs)
    (h : (IndexScope.ofScript config types script).Alike D
      (IndexScope.ofScript config' types' script'))
    (hindex : AgreeOn script index index') :
    List.Forall₂ D (index.add config types script).2 (index'.add config' types' script').2 := by
  simp only [add, IndexScope.addStructs_eq, IndexScope.addFuncs_eq, hindex.package, hstructs,
    hfuncs]
  exact List.rel_append (h.addDecls .struct _ h.structDef _ hindex.structs)
    (h.addDecls .func _ h.funcDef _ hindex.funcs)

theorem PackageIndex.add_fst {script script' : Script} (index : PackageIndex)
    (hstructs : script'.structs = script.structs) (hfuncs : script'.funcs = script.funcs)
    (h : (IndexScope.ofScript config types script).Alike D
      (IndexScope.ofScript config' types' script')) :
    (index.add config' types' script').1 = (index.add config types script).1 := by
  have hstructDef : (fun decl => ((IndexScope.ofScript config' types' script').structDef decl).1) =
      fun decl => ((IndexScope.ofScript config types script).structDef decl).1 :=
    funext fun decl => (h.structDef decl).1
  have hfuncDef : (fun decl => ((IndexScope.ofScript config' types' script').funcDef decl).1) =
      fun decl => ((IndexScope.ofScript config types script).funcDef decl).1 :=
    funext fun decl => (h.funcDef decl).1
  simp only [add, IndexScope.addStructs_fst, IndexScope.addFuncs_fst, hstructs, hfuncs, hstructDef,
    hfuncDef, OrderedMap.declareAll_policy h.replaces]

theorem Indexed.addScript_alike {s : BundledScript} (imports : List Import) (r : Registry)
    (h : (IndexScope.ofScript config types s.script).Alike D
      (IndexScope.ofScript config' types' (s.script.importing imports))) :
    (addScript config' types' r (s.importing imports)).1 = (addScript config types r s).1 ∧
      List.Forall₂ D (addScript config types r s).2
        (addScript config' types' r (s.importing imports)).2 := by
  let index := (r.get? s.id).getD (.empty s.script.package)
  constructor
  · exact congrArg (r.insert s.id) (PackageIndex.add_fst index rfl rfl h)
  · exact PackageIndex.add_reports rfl rfl h ⟨rfl, fun _ _ => rfl, fun _ _ => rfl⟩

/-- **Scripts in scopes that are alike** make the same registry, with related reports, even if the
scripts differ in their import lines. -/
theorem Indexed.addScripts_importing {scripts scripts' : List BundledScript}
    (h : List.Forall₂ (fun s s' => ∃ imports, s' = s.importing imports ∧
      (IndexScope.ofScript config types s.script).Alike D
        (IndexScope.ofScript config' types' (s.script.importing imports))) scripts scripts')
    (r : Registry) :
    (addScripts config' types' r scripts').1 = (addScripts config types r scripts).1 ∧
      List.Forall₂ D (addScripts config types r scripts).2
        (addScripts config' types' r scripts').2 := by
  induction h generalizing r with
  | nil => exact ⟨rfl, .nil⟩
  | @cons s s' scripts scripts' hs _ ih =>
    obtain ⟨imports, rfl, halike⟩ := hs
    obtain ⟨hr, hreports⟩ := addScript_alike imports r halike
    obtain ⟨hrest, hreports'⟩ := ih (addScript config types r s).1
    simp only [addScripts, hr]
    exact ⟨hrest, List.rel_append hreports hreports'⟩

theorem Indexed.addScripts_alike {scripts : List BundledScript} (r : Registry)
    (h : ∀ s ∈ scripts, (IndexScope.ofScript config types s.script).Alike D
      (IndexScope.ofScript config' types' s.script)) :
    (addScripts config' types' r scripts).1 = (addScripts config types r scripts).1 ∧
      List.Forall₂ D (addScripts config types r scripts).2
        (addScripts config' types' r scripts).2 :=
  addScripts_importing (List.forall₂_same.2 fun s hs => ⟨s.script.imports, rfl, h s hs⟩) r

end

end NameScope
