import NameScope.Proofs.Declared.Standing
import NameScope.Script.Reference

/-!
# Where the definitions of a registry come from

Each definition of a registry is made from a declaration, in a script of its package
(`Registry.MadeFrom`), and each type in it is the type of an annotation.

**Results.**
* `madeFrom_ofScripts`: what the registry of a session holds was declared in the session;
* `Registry.Stores.annotated`: a type that is stored for a field, a parameter or a return value is
  the type of an annotation of some script, seen with the imports of that script.
-/
namespace NameScope

/-! ## Definitions -/

/-- All definitions of the registry are made from declarations of these scripts, each from one in
a script of its package. -/
structure Registry.MadeFrom (r : Registry) (config : Config) (types : TypeIndex)
    (scripts : List BundledScript) : Prop where
  struct : ∀ {id index name d}, r.get? id = some index → index.structs.get? name = some d →
    ∃ s ∈ scripts, s.id = id ∧ ∃ decl ∈ s.script.structs, decl.name.text = name ∧
      ((IndexScope.ofScript config types s.script).structDef decl).1 = d
  func : ∀ {id index name d}, r.get? id = some index → index.funcs.get? name = some d →
    ∃ s ∈ scripts, s.id = id ∧ ∃ decl ∈ s.script.funcs, decl.name.text = name ∧
      ((IndexScope.ofScript config types s.script).funcDef decl).1 = d

/-- A definition of a package is that of a declaration in one of its scripts. -/
theorem DeclFamily.exists_made {δ ε : Type} (f : DeclFamily δ ε) {config : Config}
    {scripts : List BundledScript} {id : PackageId} {index : PackageIndex} {name : String}
    {definition : δ} (hindex : (Indexed.ofScripts config scripts).registry.get? id = some index)
    (hget : (f.table index).get? name = some definition) :
    ∃ s ∈ scripts, s.id = id ∧ ∃ decl ∈ f.declared s.script, (f.name decl).text = name ∧
      (f.define (.ofScript config (Indexed.ofScripts config scripts).types s.script) decl).1 =
        definition := by
  have hfind : (Indexed.ofScripts config scripts).registry.find? f.table id name =
      some definition := Option.bind_eq_some_iff.2 ⟨index, hindex, hget⟩
  obtain ⟨d, hd, hname, hdefinition⟩ := DeclFamily.find?_eq_some_iff.1 hfind
  obtain ⟨s, hs, hid, hscript, hdecl⟩ := hd.mem
  rw [← hscript] at hdecl
  refine ⟨s, hs, hid, d.2, hdecl, hname, ?_⟩
  rw [hscript]
  exact hdefinition

/-- What the registry of a session holds was declared in the session. -/
theorem madeFrom_ofScripts (config : Config) (scripts : List BundledScript) :
    let session := Indexed.ofScripts config scripts
    session.registry.MadeFrom config session.types scripts :=
  ⟨fun hindex hget => DeclFamily.structs.exists_made hindex hget,
    fun hindex hget => DeclFamily.funcs.exists_made hindex hget⟩

/-! ## Stored types -/

/-- The type is that of a field, of a parameter or of a return value in the registry. -/
inductive Registry.Stores (r : Registry) (type : VarType) : Prop
  | field {id index name d key member} (hindex : r.get? id = some index)
      (hstruct : index.structs.get? name = some d) (hfield : d.fields.get? key = some member)
      (htype : member.type = some type)
  | param {id index name d key member} (hindex : r.get? id = some index)
      (hfunc : index.funcs.get? name = some d) (hparam : d.params.get? key = some member)
      (htype : member.type = some type)
  | returns {id index name d} (hindex : r.get? id = some index)
      (hfunc : index.funcs.get? name = some d) (htype : d.returns = some type)

theorem IndexScope.of_get?_fields {s : IndexScope} {decl : StructDecl} {key : String}
    {m : Member} (h : (s.structDef decl).1.fields.get? key = some m) :
    ∃ f ∈ decl.fields, m.type = s.types.typeOf s.imports f.type := by
  rw [s.get?_fields] at h
  obtain ⟨f, hf, rfl⟩ := Option.map_eq_some_iff.1 h
  exact ⟨f, List.mem_of_find?_eq_some hf, rfl⟩

theorem IndexScope.of_get?_params {s : IndexScope} {decl : FuncDecl} {key : String}
    {m : Member} (h : (s.funcDef decl).1.params.get? key = some m) :
    ∃ f ∈ decl.params, m.type = s.types.typeOf s.imports f.type := by
  rw [s.get?_params] at h
  obtain ⟨p, hp, rfl⟩ := Option.map_eq_some_iff.1 h
  exact ⟨p, List.mem_of_find?_eq_some hp, rfl⟩

theorem IndexScope.of_returns {s : IndexScope} {decl : FuncDecl} {type : VarType}
    (h : (s.funcDef decl).1.returns = some type) :
    ∃ written, decl.returns = some written ∧
      s.types.typeOf s.imports written = some type := by
  have h : (s.returnType decl).1 = some type := h
  unfold returnType at h
  cases hr : decl.returns with
  | none =>
    rw [hr] at h
    cases h
  | some written =>
    rw [hr] at h
    exact ⟨written, rfl, h⟩

/-- **A stored type is that of an annotation** in one of the scripts. -/
theorem Registry.Stores.annotated {r : Registry} {config : Config} {types : TypeIndex}
    {scripts : List BundledScript} {type : VarType} (h : r.Stores type)
    (hr : r.MadeFrom config types scripts) :
    ∃ s ∈ scripts, ∃ written, .typeRef written ∈ s.script.references ∧
      types.typeOf (s.script.importedPackages config.selfImport) written = some type := by
  cases h with
  | field hindex hstruct hfield htype =>
    obtain ⟨s, hs, -, decl, hdecl, -, rfl⟩ := hr.struct hindex hstruct
    obtain ⟨f, hf, hm⟩ := IndexScope.of_get?_fields hfield
    refine ⟨s, hs, f.type, ?_, hm.symm.trans htype⟩
    exact Script.struct_references_subset hdecl (StructDecl.typeRef_field_mem hf)
  | param hindex hfunc hparam htype =>
    obtain ⟨s, hs, -, decl, hdecl, -, rfl⟩ := hr.func hindex hfunc
    obtain ⟨p, hp, hm⟩ := IndexScope.of_get?_params hparam
    refine ⟨s, hs, p.type, ?_, hm.symm.trans htype⟩
    have hmem := FuncDecl.typeRef_param_mem hp
    exact Script.func_references_subset hdecl (decl.annotations_subset hmem)
  | returns hindex hfunc htype =>
    obtain ⟨s, hs, -, decl, hdecl, -, rfl⟩ := hr.func hindex hfunc
    obtain ⟨written, ha, ht⟩ := IndexScope.of_returns htype
    refine ⟨s, hs, written, ?_, ht⟩
    have hmem := FuncDecl.typeRef_returns_mem ha
    exact Script.func_references_subset hdecl (decl.annotations_subset hmem)

end NameScope
