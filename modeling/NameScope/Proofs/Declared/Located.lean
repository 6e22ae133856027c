import Mathlib.Data.List.Nodup
import NameScope.Proofs.Declared.Alike
import NameScope.Script.Reference

/-!
# Where the reports of indexing are

Whatever indexing reports of a script, it reports in the file of the script, at a name that the
script declares or at one of its references (`Diagnostic.Within`). What it reports of the scripts
before does not change with those that follow.

* one step: a member, a declaration, a script. The lemmas `forall_mem_addMembers` to
  `forall_mem_addDecls` hold of any property that type reports and repeated names have;
* a run: any number of scripts (`within_of_mem_addScripts`).
-/
namespace NameScope

/-- The names that a struct declares: its own and those of its fields. -/
def StructDecl.names (d : StructDecl) : List Ident := d.name :: d.fields.map (·.name)

/-- The names that a func declares: its own and those of its parameters. -/
def FuncDecl.names (d : FuncDecl) : List Ident := d.name :: d.params.map (·.name)

def Script.names (s : Script) : List Ident :=
  s.structs.flatMap StructDecl.names ++ s.funcs.flatMap FuncDecl.names

/-- The diagnostic is in the file of the script, at one of its names or references. -/
structure Diagnostic.Within (script : Script) (d : Diagnostic) : Prop where
  file : d.file = script.file
  place : (∃ name ∈ script.names, d.range = name.range) ∨
    ∃ r ∈ script.references, d.range = r.range

theorem Script.mem_names_of_struct {script : Script} {decl : StructDecl}
    (h : decl ∈ script.structs) {name : Ident} (hname : name ∈ decl.names) :
    name ∈ script.names :=
  List.mem_append_left _ (List.mem_flatMap.2 ⟨decl, h, hname⟩)

theorem Script.mem_names_of_func {script : Script} {decl : FuncDecl} (h : decl ∈ script.funcs)
    {name : Ident} (hname : name ∈ decl.names) : name ∈ script.names :=
  List.mem_append_right _ (List.mem_flatMap.2 ⟨decl, h, hname⟩)

/-! ## One step: a member, a declaration -/

namespace IndexScope

variable {s : IndexScope} {P : Diagnostic → Prop}

/-- What is reported of members is reported of a type or of a repeated name. -/
theorem forall_mem_addMembers {kind : MemberKind} {decls : List (Option String × MemberDecl)}
    (htype : ∀ p ∈ decls, ∀ d ∈ (s.memberType p.2.name.text p.2.type).2, P d)
    (hrepeat : ∀ p ∈ decls, ∀ first, P (s.duplicateMember kind p.2.name first))
    {accepted : OrderedMap String Member} : ∀ d ∈ (s.addMembers kind accepted decls).2, P d := by
  induction decls generalizing accepted with
  | nil =>
    intro d hd
    cases hd
  | cons p decls ih =>
    obtain ⟨htype, htypes⟩ := List.forall_mem_cons.1 htype
    obtain ⟨hrepeat, hrepeats⟩ := List.forall_mem_cons.1 hrepeat
    obtain ⟨documentation, decl⟩ := p
    unfold addMembers
    split
    · exact List.forall_mem_cons.2 ⟨hrepeat _, ih htypes hrepeats⟩
    · exact List.forall_mem_append.2 ⟨htype, ih htypes hrepeats⟩

theorem forall_mem_structDef {decl : StructDecl}
    (htype : ∀ member type, .typeRef type ∈ decl.references →
      ∀ d ∈ (s.memberType member type).2, P d)
    (hrepeat : ∀ kind, ∀ name ∈ decl.names, ∀ first, P (s.duplicateMember kind name first)) :
    ∀ d ∈ (s.structDef decl).2, P d := by
  refine forall_mem_addMembers (fun p hp => ?_) fun p hp => ?_
  · obtain ⟨f, hf, rfl⟩ := List.mem_map.1 hp
    exact htype _ _ (StructDecl.typeRef_field_mem hf)
  · obtain ⟨f, hf, rfl⟩ := List.mem_map.1 hp
    exact hrepeat _ _ (List.mem_cons_of_mem _ (List.mem_map_of_mem hf))

theorem forall_mem_funcDef {decl : FuncDecl}
    (htype : ∀ member type, .typeRef type ∈ decl.annotations →
      ∀ d ∈ (s.memberType member type).2, P d)
    (hrepeat : ∀ kind, ∀ name ∈ decl.names, ∀ first, P (s.duplicateMember kind name first)) :
    ∀ d ∈ (s.funcDef decl).2, P d := by
  refine List.forall_mem_append.2 ⟨forall_mem_addMembers (fun p hp => ?_) fun p hp => ?_, ?_⟩
  · obtain ⟨f, hf, rfl⟩ := List.mem_map.1 hp
    exact htype _ _ (FuncDecl.typeRef_param_mem hf)
  · obtain ⟨f, hf, rfl⟩ := List.mem_map.1 hp
    exact hrepeat _ _ (List.mem_cons_of_mem _ (List.mem_map_of_mem hf))
  · cases hreturns : decl.returns with
    | none =>
      intro d hd
      cases hd
    | some type => exact htype _ type (FuncDecl.typeRef_returns_mem hreturns)

theorem forall_mem_addDecls {δ ι : Type} {kind : DeclKind} {package : QualifiedName}
    {name : ι → Ident} {define : ι → δ × List Diagnostic} {place : δ → Target} {decls : List ι}
    (hdefine : ∀ decl ∈ decls, ∀ d ∈ (define decl).2, P d)
    (hrepeat : ∀ decl ∈ decls, ∀ severity first,
      P (.ofError s.file (name decl).range severity
        (.duplicateDeclaration kind (name decl).text package) [first]))
    {table : OrderedMap String δ} :
    ∀ d ∈ (s.addDecls kind package name define place table decls).2, P d := by
  induction decls generalizing table with
  | nil =>
    intro d hd
    cases hd
  | cons decl decls ih =>
    obtain ⟨hdefine, hdefines⟩ := List.forall_mem_cons.1 hdefine
    obtain ⟨hrepeat, hrepeats⟩ := List.forall_mem_cons.1 hrepeat
    refine List.forall_mem_append.2
      ⟨List.forall_mem_append.2 ⟨hdefine, fun d hd => ?_⟩, ih hdefines hrepeats⟩
    obtain ⟨first, -, hd⟩ := Option.bind_eq_some_iff.1 (Option.mem_toList.1 hd)
    obtain ⟨severity, -, hd⟩ := Option.bind_eq_some_iff.1 hd
    cases hd
    exact hrepeat severity _

end IndexScope

/-! ## One step: a script -/

section

variable {config : Config} {types : TypeIndex} {script : Script}

/-- A report of an annotation is at the annotation. -/
theorem IndexScope.within_of_mem_memberType {member : String} {type : TypeRef}
    (h : .typeRef type ∈ script.references) :
    ∀ d ∈ ((ofScript config types script).memberType member type).2, d.Within script := by
  intro d hd
  obtain ⟨error, -, rfl⟩ := Option.map_eq_some_iff.1 (Option.mem_toList.1 hd)
  exact ⟨rfl, .inr ⟨_, h, rfl⟩⟩

/-- What indexing reports of a script is within it. -/
theorem PackageIndex.within_of_mem_add {index : PackageIndex} :
    ∀ d ∈ (index.add config types script).2, d.Within script := by
  simp only [add, IndexScope.addStructs_eq, IndexScope.addFuncs_eq]
  refine List.forall_mem_append.2 ⟨IndexScope.forall_mem_addDecls (fun decl hdecl => ?_) ?_,
    IndexScope.forall_mem_addDecls (fun decl hdecl => ?_) ?_⟩
  · refine IndexScope.forall_mem_structDef (fun member type ht => ?_) fun kind name hn first => ?_
    · exact IndexScope.within_of_mem_memberType (Script.struct_references_subset hdecl ht)
    · exact ⟨rfl, .inl ⟨name, Script.mem_names_of_struct hdecl hn, rfl⟩⟩
  · intro decl hdecl severity first
    exact ⟨rfl, .inl ⟨decl.name, Script.mem_names_of_struct hdecl List.mem_cons_self, rfl⟩⟩
  · refine IndexScope.forall_mem_funcDef (fun member type ht => ?_) fun kind name hn first => ?_
    · have hmem := Script.func_references_subset hdecl (decl.annotations_subset ht)
      exact IndexScope.within_of_mem_memberType hmem
    · exact ⟨rfl, .inl ⟨name, Script.mem_names_of_func hdecl hn, rfl⟩⟩
  · intro decl hdecl severity first
    exact ⟨rfl, .inl ⟨decl.name, Script.mem_names_of_func hdecl List.mem_cons_self, rfl⟩⟩

end

/-! ## A run -/

namespace Indexed

variable {config : Config} {types : TypeIndex}

theorem within_of_mem_addScript {r : Registry} {s : BundledScript} :
    ∀ d ∈ (addScript config types r s).2, d.Within s.script :=
  PackageIndex.within_of_mem_add

/-- What indexing reports of a script is in its file. -/
theorem file_of_mem_addScript {r : Registry} {s : BundledScript} :
    ∀ d ∈ (addScript config types r s).2, d.file = s.script.file :=
  fun d hd => (within_of_mem_addScript d hd).file

theorem within_of_mem_addScripts {r : Registry} {scripts : List BundledScript} :
    ∀ d ∈ (addScripts config types r scripts).2, ∃ s ∈ scripts, d.Within s.script := by
  induction scripts generalizing r with
  | nil =>
    intro d hd
    cases hd
  | cons s scripts ih =>
    refine List.forall_mem_append.2 ⟨fun d hd => ?_, fun d hd => ?_⟩
    · exact ⟨s, List.mem_cons_self, within_of_mem_addScript d hd⟩
    · obtain ⟨t, ht, hd⟩ := ih d hd
      exact ⟨t, List.mem_cons_of_mem _ ht, hd⟩

/-- Scripts in a row are indexed part by part. -/
theorem addScripts_append (config : Config) (types : TypeIndex) (r : Registry)
    (before after : List BundledScript) :
    addScripts config types r (before ++ after) =
      ((addScripts config types (addScripts config types r before).1 after).1,
        (addScripts config types r before).2 ++
          (addScripts config types (addScripts config types r before).1 after).2) := by
  induction before generalizing r with
  | nil => rfl
  | cons s before ih => simp only [List.cons_append, addScripts, ih, List.append_assoc]

/-- What indexing reports of a script that follows those `before`. -/
def reportsAfter (config : Config) (types : TypeIndex) (before : List BundledScript)
    (s : BundledScript) : List Diagnostic :=
  (addScript config types (addScripts config types .empty before).1 s).2

/-- Of the reports in a file without a script there are none. -/
theorem filter_addScripts_eq_nil {r : Registry} {scripts : List BundledScript} {file : FileId}
    (h : file ∉ scripts.map (·.script.file)) :
    (addScripts config types r scripts).2.filter (·.file == file) = [] := by
  refine List.filter_eq_nil_iff.2 fun d hd he => h ?_
  obtain ⟨s, hs, hwithin⟩ := within_of_mem_addScripts d hd
  rw [← beq_iff_eq.1 he, hwithin.file]
  exact List.mem_map_of_mem hs

/-- **Of all reports of indexing, those in one file** are those of its script. -/
theorem filter_addScripts {before after : List BundledScript} {s : BundledScript}
    (hfiles : ((before ++ s :: after).map (·.script.file)).Nodup) :
    (addScripts config types .empty (before ++ s :: after)).2.filter (·.file == s.script.file) =
      reportsAfter config types before s := by
  rw [List.map_append, List.map_cons, List.nodup_middle, List.nodup_cons, List.mem_append,
    not_or] at hfiles
  obtain ⟨⟨hbefore, hafter⟩, -⟩ := hfiles
  have hown : (reportsAfter config types before s).filter (·.file == s.script.file) =
      reportsAfter config types before s :=
    List.filter_eq_self.2 fun d hd => beq_iff_eq.2 (file_of_mem_addScript d hd)
  rw [addScripts_append, List.filter_append, filter_addScripts_eq_nil hbefore, List.nil_append]
  simp only [addScripts, List.filter_append, filter_addScripts_eq_nil hafter, List.append_nil]
  exact hown

end Indexed

end NameScope
