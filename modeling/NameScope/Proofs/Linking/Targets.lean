import NameScope.Proofs.Linking.Anchored

/-!
# What links target, said of the scripts

A link is made with tables: the registry, the type names, the fields and parameters of definitions.
Here its target is said of the scripts from which these tables are made: which declaration it is, in
which script, and that this declaration is the one that stands there (`Site.Means`).

* `mem_hits_stands`, `meant_of_target?`: what a name is linked to stands in an imported package;
* `Script.declaredOnce_of_mem_sites`: a struct whose fields are asked for is declared once, so that
  it makes sense to speak of its declaration.

**Results.** * `means_of_target?`: whatever reference of a script has a target, its target is a
declaration that stands.
-/
namespace NameScope

/-! ## What references may mean -/

namespace DeclFamily

variable {δ ε : Type} (f : DeclFamily δ ε) (config : Config) (scripts : List BundledScript)

def qualified (id : PackageId) (d : Script × ε) : QualifiedName := id.package.append (f.key d)

/-- A name in a script may mean the declaration: it stands in a package that the script imports, and
the name closes its qualified name. -/
structure Meant (script : Script) (name : QualifiedName) (id : PackageId) (d : Script × ε) :
    Prop where
  stands : f.Stands config scripts id d
  imported : id.package ∈ script.importedPackages config.selfImport
  closes : name.segments <:+ (f.qualified id d).segments

end DeclFamily

/-- The struct that a qualified name stands for, in whatever bundle. -/
structure DeclFamily.Owns (config : Config) (scripts : List BundledScript) (owner : QualifiedName)
    (id : PackageId) (d : Script × StructDecl) : Prop where
  stands : structs.Stands config scripts id d
  named : structs.qualified id d = owner
  sole : ∀ id' d', structs.Stands config scripts id' d' → structs.qualified id' d' = owner →
    id' = id ∧ d' = d

/-- The first field of this name. -/
def fieldOf? (fields : List FieldDecl) (name : QualifiedName) : Option FieldDecl :=
  name.simple?.bind fun text => fields.find? (·.name.text == text)

/-- What the reference of a site is linked to, if it is. -/
inductive Site.Means (config : Config) (scripts : List BundledScript) (script : Script) :
    Site → Target → Prop
  | annotated {name params owner id d}
      (h : DeclFamily.structs.Meant config scripts script name.name id d) :
    Means config scripts script ⟨.typeRef (.named name), params, owner⟩ (DeclFamily.structs.place d)
  | literal {name params owner id d}
      (h : DeclFamily.structs.Meant config scripts script name.name id d) :
    Means config scripts script ⟨.structLit name, params, owner⟩ (DeclFamily.structs.place d)
  | callee {ident params owner id d}
      (h : DeclFamily.funcs.Meant config scripts script ident.name.name id d) :
    Means config scripts script ⟨.callee ident, params, owner⟩ (DeclFamily.funcs.place d)
  /-- A parameter hides all funcs of its name. -/
  | parameter {ident params owner param} (h : paramOf? params ident.name.name = some param) :
    Means config scripts script ⟨.identifier ident, params, owner⟩
      ⟨script.location param.range, none⟩
  | value {ident params owner id d} (hnone : paramOf? params ident.name.name = none)
      (h : DeclFamily.funcs.Meant config scripts script ident.name.name id d) :
    Means config scripts script ⟨.identifier ident, params, owner⟩ (DeclFamily.funcs.place d)
  | field {name params owner id d field} (h : DeclFamily.Owns config scripts owner.name id d)
      (hfield : fieldOf? d.2.fields name.name = some field) :
    Means config scripts script ⟨.field name, params, some owner⟩
      ⟨d.1.location field.range, field.documentation⟩
  | init {name params owner id d field} (h : DeclFamily.Owns config scripts owner.name id d)
      (hfield : fieldOf? d.2.fields name.name = some field) :
    Means config scripts script ⟨.init name, params, some owner⟩
      ⟨d.1.location field.range, field.documentation⟩

section

variable {config : Config} {scripts : List BundledScript}

/-! ## Names -/

namespace DeclFamily

variable {δ ε : Type} {f : DeclFamily δ ε}

/-- What a name finds in the registry of a session stands. -/
theorem mem_hits_stands {α : Type} {wrap : QualifiedName → String → δ → α} {n : QualifiedName}
    {admits : QualifiedName → Bool} {a : Alternative α}
    (h : a ∈ (Indexed.ofScripts config scripts).registry.hits f.table wrap n admits) :
    ∃ id d, f.Stands config scripts id d ∧ admits id.package = true ∧
      n.segments <:+ (f.qualified id d).segments ∧
      a.value = wrap id.package n.last
        (f.definition config (Indexed.ofScripts config scripts).types d) := by
  obtain ⟨id, -, ha⟩ := List.mem_flatMap.1 h
  split at ha
  · rename_i hcond
    obtain ⟨hadmits, hsuffix⟩ := Bool.and_eq_true_iff.1 hcond
    obtain ⟨definition, hfind, rfl⟩ := List.mem_map.1 ha
    obtain ⟨d, hd, hkey, rfl⟩ := find?_eq_some_iff.1 (Option.mem_toList.1 hfind)
    refine ⟨id, d, hd, hadmits, ?_, rfl⟩
    unfold qualified
    rw [hkey]
    exact (QualifiedName.isSuffixOf_iff n _).1 hsuffix
  · cases ha

/-- What a name is linked to may be meant by it. -/
theorem meant_of_target? {α : Type} [Matched α] (wrap : QualifiedName → String → δ → α)
    (hwrap : ∀ package name definition,
      Matched.target (wrap package name definition) = some (f.target definition))
    {script : Script} {n : QualifiedName} {target : Target}
    (h : (Lookup.ofSearch ((Indexed.ofScripts config scripts).registry.hits f.table wrap n)
      (script.importedPackages config.selfImport)).target? = some target) :
    ∃ id d, f.Meant config scripts script n id d ∧ target = f.place d := by
  obtain ⟨m, hm, htarget⟩ := Option.bind_eq_some_iff.1 h
  obtain ⟨ids, hmem⟩ := Lookup.mem_of_single? hm
  rw [Lookup.alternatives_ofSearch] at hmem
  obtain ⟨id, d, hstands, himported, hcloses, hvalue⟩ := mem_hits_stands hmem
  refine ⟨id, d, ⟨hstands, of_decide_eq_true himported, hcloses⟩, ?_⟩
  have hvalue : m = _ := hvalue
  rw [hvalue, hwrap, f.target_definition] at htarget
  exact (Option.some.inj htarget).symm

end DeclFamily

/-! ## Owners -/

/-- The struct is the only one with its qualified name, in all bundles. -/
def Registry.DeclaredOnce (r : Registry) (owner : Owner) : Prop :=
  ∃ id, r.Declares id owner.name owner.definition ∧
    ∀ id' d', r.Declares id' owner.name d' → id' = id ∧ d' = owner.definition

section

variable {s : LinkScope}

mutual

/-- The owner of a field is known from a value or from the name of a literal. -/
theorem Expr.owner_of_mem_sites {P : Owner → Prop} {params : List MemberDecl}
    (hvalue : ∀ (e : Expr) owner, s.owner? (e.type s params) = some owner → P owner)
    (hliteral : ∀ n m, (s.structs n).single? = some m → P m.owner) :
    ∀ e : Expr, ∀ site ∈ e.sites s params, ∀ owner, site.owner = some owner → P owner
  | .identifier ident => by simp [Expr.sites]
  | .call callee args range => by
    simp only [Expr.sites, List.forall_mem_cons]
    exact ⟨by simp, Expr.owner_of_mem_argSites hvalue hliteral args⟩
  | .field value name => by
    simp only [Expr.sites, List.forall_mem_append, List.forall_mem_singleton]
    exact ⟨Expr.owner_of_mem_sites hvalue hliteral value, hvalue value⟩
  | .structLit name inits range => by
    simp only [Expr.sites, List.forall_mem_cons]
    refine ⟨by simp, Expr.owner_of_mem_initSites hvalue hliteral _ (fun owner howner => ?_) inits⟩
    obtain ⟨m, hm, rfl⟩ := Option.map_eq_some_iff.1 howner
    exact hliteral name.name m hm
  | .constant range => by simp [Expr.sites]

theorem Expr.owner_of_mem_argSites {P : Owner → Prop} {params : List MemberDecl}
    (hvalue : ∀ (e : Expr) owner, s.owner? (e.type s params) = some owner → P owner)
    (hliteral : ∀ n m, (s.structs n).single? = some m → P m.owner) :
    ∀ es : List Expr, ∀ site ∈ Expr.argSites s params es,
      ∀ owner, site.owner = some owner → P owner
  | [] => by simp [Expr.argSites]
  | e :: es => by
    simp only [Expr.argSites, List.forall_mem_append]
    exact ⟨Expr.owner_of_mem_sites hvalue hliteral e, Expr.owner_of_mem_argSites hvalue hliteral es⟩

theorem Expr.owner_of_mem_initSites {P : Owner → Prop} {params : List MemberDecl}
    (hvalue : ∀ (e : Expr) owner, s.owner? (e.type s params) = some owner → P owner)
    (hliteral : ∀ n m, (s.structs n).single? = some m → P m.owner) (owner? : Option Owner)
    (howner : ∀ owner, owner? = some owner → P owner) :
    ∀ inits : List (WrittenName × Expr), ∀ site ∈ Expr.initSites s params owner? inits,
      ∀ owner, site.owner = some owner → P owner
  | [] => by simp [Expr.initSites]
  | (name, value) :: inits => by
    simp only [Expr.initSites, List.forall_mem_cons, List.forall_mem_append]
    exact ⟨howner, Expr.owner_of_mem_sites hvalue hliteral value,
      Expr.owner_of_mem_initSites hvalue hliteral owner? howner inits⟩

end

theorem Script.owner_of_mem_sites {P : Owner → Prop}
    (hvalue : ∀ params (e : Expr) owner, s.owner? (e.type s params) = some owner → P owner)
    (hliteral : ∀ n m, (s.structs n).single? = some m → P m.owner) {script : Script} {site : Site}
    (hsite : site ∈ script.sites s) {owner : Owner} (howner : site.owner = some owner) :
    P owner := by
  have hnone : ∀ rs : List Reference, site ∈ rs.map ({ reference := · } : Reference → Site) →
      P owner := by
    intro rs hsite
    obtain ⟨r, -, rfl⟩ := List.mem_map.1 hsite
    cases howner
  rcases List.mem_append.1 hsite with hsite | hsite
  · obtain ⟨d, -, hsite⟩ := List.mem_flatMap.1 hsite
    exact hnone d.references hsite
  · obtain ⟨d, -, hsite⟩ := List.mem_flatMap.1 hsite
    rcases List.mem_append.1 hsite with hsite | hsite
    · exact hnone d.annotations hsite
    · obtain ⟨e, -, hsite⟩ := List.mem_flatMap.1 hsite
      exact Expr.owner_of_mem_sites (hvalue d.params) hliteral e site hsite owner howner

variable (hs : s.registry.typeNames = s.types) (hr : s.registry.MadeFrom config s.types scripts)

include hs hr

/-- The owner of the fields of a value. -/
theorem LinkScope.declaredOnce_of_owner? {params : List MemberDecl} {e : Expr} {owner : Owner}
    (h : s.owner? (e.type s params) = some owner) : s.registry.DeclaredOnce owner := by
  obtain ⟨q, hq, howner⟩ := Option.bind_eq_some_iff.1 h
  obtain ⟨type, htype, hq⟩ := Option.bind_eq_some_iff.1 hq
  obtain ⟨d, hd, rfl⟩ := Option.map_eq_some_iff.1 howner
  have hstruct : type = .struct q := by
    cases type with
    | primitive kind => cases hq
    | struct name => cases hq; rfl
  subst hstruct
  obtain ⟨d', hanchors⟩ := Indexed.anchors_of_named (x := ⟨s.registry, s.types, []⟩) hs
    (Expr.named_of_type hs hr htype)
  have hfound : s.registry.findStruct? q = some d' := hanchors.found
  rw [hfound] at hd
  cases hd
  exact hanchors.once

/-- **Only a struct that is declared once is asked for its fields.** -/
theorem Script.declaredOnce_of_mem_sites {script : Script} {site : Site}
    (hsite : site ∈ script.sites s) {owner : Owner} (howner : site.owner = some owner) :
    s.registry.DeclaredOnce owner :=
  Script.owner_of_mem_sites (fun _ _ _ h => LinkScope.declaredOnce_of_owner? hs hr h)
    (fun _ _ hm => Registry.declares_once hm) hsite howner

end

/-- The owner of a field is the definition of a declaration that stands. -/
theorem DeclFamily.owns_of_declaredOnce {owner : Owner}
    (h : (Indexed.ofScripts config scripts).registry.DeclaredOnce owner) :
    ∃ id d, Owns config scripts owner.name id d ∧
      structs.definition config (Indexed.ofScripts config scripts).types d = owner.definition := by
  obtain ⟨id, ⟨index, name, hindex, hget, hname⟩, honce⟩ := h
  have hfind : (Indexed.ofScripts config scripts).registry.find? structs.table id name =
      some owner.definition := by
    unfold Registry.find?
    rw [hindex]
    exact hget
  obtain ⟨d, hd, rfl, hdefinition⟩ := find?_eq_some_iff.1 hfind
  refine ⟨id, d, ⟨hd, hname, fun id' d' hd' hname' => ?_⟩, hdefinition⟩
  have hfind' := find?_eq_some_iff.2 ⟨d', hd', rfl, rfl⟩
  obtain ⟨index', hindex', hget'⟩ := Option.bind_eq_some_iff.1 hfind'
  obtain ⟨rfl, -⟩ := honce id' _ ⟨index', _, hindex', hget', hname'⟩
  obtain ⟨-, hkey⟩ := QualifiedName.append_inj (hname'.trans hname.symm)
  exact ⟨rfl, hd.unique hd' hkey⟩

/-! ## Targets -/

namespace Site

/-- A struct name, as an annotation or before a literal. -/
theorem meant_of_struct_target? {script : Script} {n : QualifiedName} {target : Target}
    (h : ((Indexed.ofScripts config scripts).registry.lookupStruct
      (script.importedPackages config.selfImport) n).target? = some target) :
    ∃ id d, DeclFamily.structs.Meant config scripts script n id d ∧
      target = DeclFamily.structs.place d := by
  rw [Registry.lookupStruct_eq] at h
  exact DeclFamily.meant_of_target? (f := .structs) StructMatch.mk (fun _ _ _ => rfl) h

theorem meant_of_func_target? {script : Script} {n : QualifiedName} {target : Target}
    (h : ((Indexed.ofScripts config scripts).registry.lookupFunc
      (script.importedPackages config.selfImport) n).target? = some target) :
    ∃ id d, DeclFamily.funcs.Meant config scripts script n id d ∧
      target = DeclFamily.funcs.place d := by
  rw [Registry.lookupFunc_eq] at h
  exact DeclFamily.meant_of_target? (f := .funcs) FuncMatch.mk (fun _ _ _ => rfl) h

/-- An annotation links like the name of a literal does. -/
theorem target?_lookupType (config : Config) (scripts : List BundledScript) (imports : ImportSet)
    (n : QualifiedName) :
    ((Indexed.ofScripts config scripts).types.lookupType imports n).target? =
      ((Indexed.ofScripts config scripts).registry.lookupStruct imports n).target? := by
  rw [← typeNames_ofScripts config scripts, lookupType_typeNames]
  unfold Lookup.target?
  rw [Lookup.single?_map]
  cases ((Indexed.ofScripts config scripts).registry.lookupStruct imports n).single? <;> rfl

theorem exists_field {owner : Owner} {n : QualifiedName} {target : Target}
    (hr : (Indexed.ofScripts config scripts).registry.DeclaredOnce owner)
    (h : (owner.field? n).map (·.toTarget) = some target) :
    ∃ id d field, DeclFamily.Owns config scripts owner.name id d ∧
      fieldOf? d.2.fields n = some field ∧
      target = ⟨d.1.location field.range, field.documentation⟩ := by
  obtain ⟨id, d, howns, hdefinition⟩ := DeclFamily.owns_of_declaredOnce hr
  obtain ⟨member, hmember, rfl⟩ := Option.map_eq_some_iff.1 h
  obtain ⟨text, htext, hget⟩ := Option.bind_eq_some_iff.1 hmember
  rw [← hdefinition] at hget
  have hget := (IndexScope.get?_fields _ d.2 text).symm.trans hget
  obtain ⟨field, hfield, rfl⟩ := Option.map_eq_some_iff.1 hget
  refine ⟨id, d, field, howns, ?_, rfl⟩
  unfold fieldOf?
  rw [htext]
  exact hfield

/-- **Every target is a declaration that stands**, of the kind that the reference asks for. -/
theorem means_of_target? {script : Script} {site : Site} {target : Target}
    (hsite : site ∈ script.sites (.ofScript (Indexed.ofScripts config scripts).registry
      (Indexed.ofScripts config scripts).types config script))
    (h : site.target? (.ofScript (Indexed.ofScripts config scripts).registry
      (Indexed.ofScripts config scripts).types config script) = some target) :
    site.Means config scripts script target := by
  have howner : ∀ owner, site.owner = some owner →
      (Indexed.ofScripts config scripts).registry.DeclaredOnce owner := fun owner howner =>
    Script.declaredOnce_of_mem_sites (typeNames_ofScripts config scripts)
      (madeFrom_ofScripts config scripts) hsite howner
  obtain ⟨r, params, owner⟩ := site
  cases r with
  | typeRef type =>
    cases type with
    | primitive kind range => cases h
    | named name =>
      have h := (target?_lookupType config scripts _ name.name).symm.trans h
      obtain ⟨id, d, hd, rfl⟩ := meant_of_struct_target? h
      exact .annotated hd
  | identifier ident =>
    unfold target? at h
    simp only at h
    cases hparam : paramOf? params ident.name.name with
    | some param =>
      rw [hparam] at h
      cases h
      exact .parameter hparam
    | none =>
      rw [hparam] at h
      obtain ⟨id, d, hd, rfl⟩ := meant_of_func_target? h
      exact .value hparam hd
  | callee ident =>
    obtain ⟨id, d, hd, rfl⟩ := meant_of_func_target? h
    exact .callee hd
  | structLit name =>
    obtain ⟨id, d, hd, rfl⟩ := meant_of_struct_target? h
    exact .literal hd
  | field name =>
    cases owner with
    | none => cases h
    | some owner =>
      obtain ⟨id, d, field, howns, hfield, rfl⟩ := exists_field (howner owner rfl) h
      exact .field howns hfield
  | init name =>
    cases owner with
    | none => cases h
    | some owner =>
      obtain ⟨id, d, field, howns, hfield, rfl⟩ := exists_field (howner owner rfl) h
      exact .init howns hfield

/-- The file of a target is that of one of the scripts. -/
theorem Means.file {script : Script} {site : Site} {target : Target}
    (h : site.Means config scripts script target) :
    target.location.file = script.file ∨
      ∃ s ∈ scripts, s.script.file = target.location.file := by
  have hstands : ∀ {δ ε : Type} {f : DeclFamily δ ε} {id : PackageId} {d : Script × ε},
      f.Stands config scripts id d → ∃ s ∈ scripts, s.script.file = d.1.file := by
    intro δ ε f id d hd
    obtain ⟨s, hs, -, hscript, -⟩ := hd.mem
    exact ⟨s, hs, congrArg Script.file hscript⟩
  cases h with
  | annotated h => exact .inr (hstands h.stands)
  | literal h => exact .inr (hstands h.stands)
  | callee h => exact .inr (hstands h.stands)
  | parameter h => exact .inl rfl
  | value hnone h => exact .inr (hstands h.stands)
  | field h hfield => exact .inr (hstands h.stands)
  | init h hfield => exact .inr (hstands h.stands)

end Site

end

end NameScope
