import Mathlib.Data.List.Basic
import NameScope.Linking.Script
import NameScope.Script.Reference

/-!
# Linking only annotates

Erasing a tree takes out all that linking may put in: the targets of names, and what an identifier
says of a parameter. A walk keeps the erased tree, whether it stops or not (`Walk.Keeps`); and what
was erased stands in the list of references, so that a tree is known by both together.

**Results.**
* `Script.erase_link`: the erased script is the same before and after linking;
* `Script.references_erase`: erasing keeps the references and their order;
* `Script.eq_of_erase_eq`: two scripts with the same references that differ in nothing else are
  the same.
-/
namespace NameScope

/-! ## Erasing -/

def WrittenName.erase (w : WrittenName) : WrittenName := { w with target := none }

def Identifier.erase (i : Identifier) : Identifier := { name := i.name.erase }

def TypeRef.erase : TypeRef → TypeRef
  | .primitive kind range => .primitive kind range
  | .named name => .named name.erase

def MemberDecl.erase (m : MemberDecl) : MemberDecl := { m with type := m.type.erase }

def FieldDecl.erase (f : FieldDecl) : FieldDecl := { f with type := f.type.erase }

mutual

def Expr.erase : Expr → Expr
  | .identifier ident => .identifier ident.erase
  | .call callee args range => .call callee.erase (Expr.eraseArgs args) range
  | .field value name => .field value.erase name.erase
  | .structLit name inits range => .structLit name.erase (Expr.eraseInits inits) range
  | .constant range => .constant range

def Expr.eraseArgs : List Expr → List Expr
  | [] => []
  | e :: es => e.erase :: Expr.eraseArgs es

def Expr.eraseInits : List (WrittenName × Expr) → List (WrittenName × Expr)
  | [] => []
  | (name, value) :: inits => (name.erase, value.erase) :: Expr.eraseInits inits

end

def StructDecl.erase (d : StructDecl) : StructDecl :=
  { d with fields := d.fields.map FieldDecl.erase }

def FuncDecl.erase (d : FuncDecl) : FuncDecl :=
  { d with
    params := d.params.map MemberDecl.erase
    returns := d.returns.map TypeRef.erase
    body := d.body.map Expr.erase }

/-- The script as it was parsed. -/
def Script.erase (s : Script) : Script :=
  { s with structs := s.structs.map StructDecl.erase, funcs := s.funcs.map FuncDecl.erase }

def Reference.erase : Reference → Reference
  | .typeRef type => .typeRef type.erase
  | .identifier ident => .identifier ident.erase
  | .callee ident => .callee ident.erase
  | .field name => .field name.erase
  | .structLit name => .structLit name.erase
  | .init name => .init name.erase

/-! ## Walks -/

/-- What `view` shows of the node is the same before and after the walk. -/
def Walk.Keeps (view : ν → κ) (w : Walk ν α) (n : ν) : Prop := view w.node = view n

namespace Walk

section

variable {ν μ : Type} {α β : Type v} {κ κ' : Type}

theorem Keeps.mapNode {view : ν → κ} {w : Walk ν α} {n : ν} {view' : μ → κ'} {m : μ}
    (h : w.Keeps view n) (f : ν → μ) (hf : ∀ a, view a = view n → view' (f a) = view' m) :
    (w.mapNode f).Keeps view' m :=
  hf w.node h

theorem Keeps.mapValue {view : ν → κ} {w : Walk ν α} {n : ν} (h : w.Keeps view n) (f : α → β) :
    (w.mapValue f).Keeps view n :=
  h

/-- A walk that stopped keeps the rest as it is. -/
theorem Keeps.andThen {view : ν → κ} {w : Walk ν α} {n : ν} {view' : μ → κ'} {m : μ}
    {next : α → Walk μ β} (h : w.Keeps view n) (h' : ∀ value, (next value).Keeps view' m) :
    (w.andThen m next).Keeps (Prod.map view view') (n, m) := by
  cases ho : w.outcome with
  | error e =>
    rw [andThen_error ho]
    exact congrArg (·, view' m) h
  | ok value =>
    rw [andThen_ok ho]
    exact congrArg₂ Prod.mk h (h' value)

theorem Keeps.list {view : ν → κ} {f : ν → Walk ν α} (h : ∀ n, (f n).Keeps view n) (ns : List ν) :
    (Walk.list f ns).Keeps (List.map view) ns := by
  induction ns with
  | nil => rfl
  | cons n ns ih =>
    refine ((h n).andThen fun _ => ih).mapNode _ fun (a, as) ha => ?_
    obtain ⟨ha, has⟩ := Prod.mk.inj ha
    exact congrArg₂ List.cons ha has

end

end Walk

/-! ## Linking keeps the erased tree -/

theorem WrittenName.erase_of_link {w w' : WrittenName} {target : Target}
    (h : w.link target = .ok w') : w'.erase = w.erase := by
  obtain ⟨-, rfl⟩ := (link_eq_ok_iff w w' target).1 h
  rfl

theorem Lookup.erase_of_link [Matched α] {l : Lookup α} {name linked : WrittenName}
    (h : l.link name = .ok linked) : linked.erase = name.erase := by
  unfold link at h
  split at h
  · exact WrittenName.erase_of_link h
  · cases h
    rfl

namespace LinkScope

variable (s : LinkScope)

theorem linkTo_keeps (name : WrittenName) (target : Target) (value : α) :
    (linkTo name target value).Keeps WrittenName.erase name := by
  unfold linkTo
  cases h : name.link target with
  | ok linked => exact WrittenName.erase_of_link h
  | error e => rfl

theorem attempt_keeps [Matched α] (config : Config) (kind : ReferenceKind) (l : Lookup α)
    (name : WrittenName) (log : DiagnosticLog) :
    (ofAttempt (l.attempt config kind name log)).Keeps WrittenName.erase name := by
  unfold ofAttempt Lookup.attempt Walk.Keeps
  cases h : l.link name with
  | ok linked => exact Lookup.erase_of_link h
  | error e => rfl

theorem linkType_keeps (type : TypeRef) : (s.linkType type).Keeps TypeRef.erase type := by
  unfold linkType
  cases type with
  | primitive kind range => rfl
  | named name =>
    simp only
    cases h : (s.types.lookupRef s.imports (.named name)).link name with
    | ok linked => exact congrArg TypeRef.named (Lookup.erase_of_link h)
    | error e => rfl

/-- What is put around a name is erased with its target. -/
theorem linkIdentifier_keeps (ident : Identifier) :
    (s.linkIdentifier ident).Keeps Identifier.erase ident := by
  unfold linkIdentifier
  have hput : ∀ name : WrittenName, name.erase = ident.name.erase →
      ({ name := name.erase } : Identifier) = ident.erase := fun name h => by rw [h]; rfl
  cases s.local? ident.name.name with
  | some param => exact (linkTo_keeps ident.name _ _).mapNode _ hput
  | none =>
    exact ((attempt_keeps s.config .func _ ident.name _).mapNode _ hput).mapValue _

theorem linkCallee_keeps (callee : Identifier) :
    (s.linkCallee callee).Keeps Identifier.erase callee := by
  refine ((attempt_keeps s.config .func _ callee.name _).mapNode _ fun name h => ?_).mapValue _
  exact congrArg (fun name : WrittenName => ({ name } : Identifier)) h

theorem linkField_keeps (owner : QualifiedName) (definition : StructDef) (field : WrittenName) :
    (s.linkField owner definition field).Keeps WrittenName.erase field := by
  unfold linkField
  split
  · exact linkTo_keeps field _ _
  · rfl

theorem linkAccess_keeps (type : Option VarType) (field : WrittenName) :
    (s.linkAccess type field).Keeps WrittenName.erase field := by
  unfold linkAccess
  split
  · rfl
  · split
    · rfl
    · exact s.linkField_keeps _ _ field

theorem linkInit_keeps (struct? : Option StructMatch) (field : WrittenName) :
    (s.linkInit struct? field).Keeps WrittenName.erase field := by
  unfold linkInit
  split
  · rfl
  · exact s.linkField_keeps _ _ field

end LinkScope

mutual

theorem Expr.link_keeps (s : LinkScope) : ∀ e : Expr, (e.link s).Keeps Expr.erase e
  | .identifier ident =>
    (s.linkIdentifier_keeps ident).mapNode _ fun _ h => congrArg Expr.identifier h
  | .call callee args range => by
    unfold Expr.link
    have hargs := Expr.linkArgs_keeps s args
    refine ((s.linkCallee_keeps callee).andThen fun _ => hargs.mapValue _).mapNode _ ?_
    intro (callee', args') h
    obtain ⟨hcallee, hargs⟩ := Prod.mk.inj h
    simp only [Expr.erase, hcallee, hargs]
  | .field value name => by
    unfold Expr.link
    have hvalue := Expr.link_keeps s value
    refine (hvalue.andThen fun type => s.linkAccess_keeps type name).mapNode _ ?_
    intro (value', name') h
    obtain ⟨hvalue, hname⟩ := Prod.mk.inj h
    simp only [Expr.erase, hvalue, hname]
  | .structLit name inits range => by
    unfold Expr.link
    have hname : (s.linkStruct name).Keeps WrittenName.erase name :=
      LinkScope.attempt_keeps s.config .struct _ name _
    have hinits := fun struct? => Expr.linkInits_keeps s struct? inits
    refine (hname.andThen fun found => (hinits found.single?).mapValue _).mapNode _ ?_
    intro (name', inits') h
    obtain ⟨hname, hinits⟩ := Prod.mk.inj h
    simp only [Expr.erase, hname, hinits]
  | .constant range => rfl

theorem Expr.linkArgs_keeps (s : LinkScope) : ∀ es : List Expr,
    (Expr.linkArgs s es).Keeps Expr.eraseArgs es
  | [] => rfl
  | e :: es => by
    unfold Expr.linkArgs
    have he := Expr.link_keeps s e
    have hes := Expr.linkArgs_keeps s es
    refine (he.andThen fun _ => hes).mapNode _ ?_
    intro (e', es') h
    obtain ⟨he, hes⟩ := Prod.mk.inj h
    simp only [Expr.eraseArgs, he, hes]

theorem Expr.linkInits_keeps (s : LinkScope) (struct? : Option StructMatch) :
    ∀ inits : List (WrittenName × Expr),
    (Expr.linkInits s struct? inits).Keeps Expr.eraseInits inits
  | [] => rfl
  | (name, value) :: inits => by
    unfold Expr.linkInits
    have hname := s.linkInit_keeps struct? name
    have hvalue := Expr.link_keeps s value
    have hinits := Expr.linkInits_keeps s struct? inits
    refine (hname.andThen fun _ => hvalue.andThen fun _ => hinits).mapNode _ ?_
    intro (name', value', inits') h
    obtain ⟨hname, h⟩ := Prod.mk.inj h
    obtain ⟨hvalue, hinits⟩ := Prod.mk.inj h
    simp only [Expr.eraseInits, hname, hvalue, hinits]

end

namespace LinkScope

variable (s : LinkScope)

theorem linkParams_keeps (params : List MemberDecl) :
    (s.linkParams params).Keeps (List.map MemberDecl.erase) params := by
  induction params generalizing s with
  | nil => rfl
  | cons param params ih =>
    unfold linkParams
    refine ((s.linkType_keeps param.type).andThen fun _ => ih _).mapNode _ ?_
    intro (type', params') h
    obtain ⟨htype, hparams⟩ := Prod.mk.inj h
    simp only [List.map_cons, MemberDecl.erase, htype, hparams]

theorem linkReturns_keeps (returns : Option TypeRef) :
    (s.linkReturns returns).Keeps (Option.map TypeRef.erase) returns := by
  cases returns with
  | none => rfl
  | some type =>
    have htype : ((s.linkType type).mapNode some).Keeps (Option.map TypeRef.erase) (some type) :=
      (s.linkType_keeps type).mapNode some fun _ h => congrArg some h
    exact htype.mapValue fun _ => PUnit.unit

theorem linkStructDecl_keeps (decl : StructDecl) :
    (s.linkStructDecl decl).Keeps StructDecl.erase decl := by
  have hfield : ∀ f, (s.linkFieldDecl f).Keeps FieldDecl.erase f := fun f =>
    (s.linkType_keeps f.type).mapNode _ fun type h => by simp only [FieldDecl.erase, h]
  exact (Walk.Keeps.list hfield decl.fields).mapNode _ fun fields h => by
    simp only [StructDecl.erase, h]

theorem linkFuncDecl_keeps (decl : FuncDecl) :
    (s.linkFuncDecl decl).Keeps FuncDecl.erase decl := by
  have hbody := fun inner => Walk.Keeps.list (Expr.link_keeps inner) decl.body
  refine ((s.linkParams_keeps decl.params).andThen fun inner =>
    (s.linkReturns_keeps decl.returns).andThen fun _ => hbody inner).mapNode _ ?_
  intro (params', returns', body') h
  obtain ⟨hparams, h⟩ := Prod.mk.inj h
  obtain ⟨hreturns, hbody⟩ := Prod.mk.inj h
  simp only [FuncDecl.erase, hparams, hreturns, hbody]

end LinkScope

/-- **Linking only annotates**, whether it stops or not. -/
theorem Script.erase_link (registry : Registry) (types : TypeIndex) (config : Config)
    (script : Script) : (script.link registry types config).node.erase = script.erase := by
  change (script.link registry types config).Keeps Script.erase script
  let s := LinkScope.ofScript registry types config script
  have hstructs := Walk.Keeps.list s.linkStructDecl_keeps script.structs
  have hfuncs := Walk.Keeps.list s.linkFuncDecl_keeps script.funcs
  refine (hstructs.andThen fun _ => hfuncs).mapNode _ ?_
  intro (structs', funcs') h
  obtain ⟨hstructs, hfuncs⟩ := Prod.mk.inj h
  simp only [Script.erase, hstructs, hfuncs]

/-! ## Erasing keeps the references -/

mutual

theorem Expr.references_erase : ∀ e : Expr,
    e.erase.references = e.references.map Reference.erase
  | .identifier ident => rfl
  | .call callee args range => by
    simp only [Expr.erase, Expr.references, List.map_cons, Expr.references_eraseArgs args]
    rfl
  | .field value name => by
    simp only [Expr.erase, Expr.references, List.map_append, Expr.references_erase value]
    rfl
  | .structLit name inits range => by
    simp only [Expr.erase, Expr.references, List.map_cons, Expr.references_eraseInits inits]
    rfl
  | .constant range => rfl

theorem Expr.references_eraseArgs : ∀ es : List Expr,
    Expr.argReferences (Expr.eraseArgs es) = (Expr.argReferences es).map Reference.erase
  | [] => rfl
  | e :: es => by
    simp only [Expr.eraseArgs, Expr.argReferences, List.map_append, Expr.references_erase e,
      Expr.references_eraseArgs es]

theorem Expr.references_eraseInits : ∀ inits : List (WrittenName × Expr),
    Expr.initReferences (Expr.eraseInits inits) =
      (Expr.initReferences inits).map Reference.erase
  | [] => rfl
  | (name, value) :: inits => by
    simp only [Expr.eraseInits, Expr.initReferences, List.map_cons, List.map_append,
      Expr.references_erase value, Expr.references_eraseInits inits]
    rfl

end

theorem StructDecl.references_erase (d : StructDecl) :
    d.erase.references = d.references.map Reference.erase := by
  simp only [references, erase, List.map_map]
  rfl

theorem FuncDecl.references_erase (d : FuncDecl) :
    d.erase.references = d.references.map Reference.erase := by
  have hbody : (d.body.map Expr.erase).flatMap Expr.references =
      (d.body.flatMap Expr.references).map Reference.erase := by
    rw [List.flatMap_map, List.map_flatMap]
    exact List.flatMap_congr fun e _ => e.references_erase
  have hreturns : ((d.returns.map TypeRef.erase).map Reference.typeRef).toList =
      (d.returns.map Reference.typeRef).toList.map Reference.erase := by
    cases d.returns <;> rfl
  simp only [references, annotations, erase, List.map_append, List.map_map, hbody, hreturns]
  rfl

/-- Erasing keeps the references and their order. -/
theorem Script.references_erase (s : Script) :
    s.erase.references = s.references.map Reference.erase := by
  simp only [references, erase, List.map_append, List.flatMap_map, List.map_flatMap,
    StructDecl.references_erase, FuncDecl.references_erase]

/-! ## A tree is known by its references and the rest -/

/-- Trees that differ in links only have as many references. -/
theorem length_of_erase_eq {α β : Type} {erase : α → α} {refs : α → List β} {f : β → β}
    (hrefs : ∀ a, refs (erase a) = (refs a).map f) {a b : α} (h : erase a = erase b) :
    (refs a).length = (refs b).length := by
  rw [← List.length_map f, ← hrefs, h, hrefs, List.length_map]

mutual

theorem Expr.eq_of_erase_eq : ∀ {a b : Expr}, a.erase = b.erase → a.references = b.references →
    a = b
  | .identifier ident, b, h, hr => by
    cases b <;> simp only [Expr.erase, reduceCtorEq] at h
    simp only [Expr.references, List.cons.injEq, Reference.identifier.injEq, and_true] at hr
    rw [hr]
  | .call callee args range, b, h, hr => by
    cases b <;> simp only [Expr.erase, reduceCtorEq, Expr.call.injEq] at h
    simp only [Expr.references, List.cons.injEq, Reference.callee.injEq] at hr
    rw [hr.1, Expr.args_eq_of_erase_eq h.2.1 hr.2, h.2.2]
  | .field value name, b, h, hr => by
    cases b <;> simp only [Expr.erase, reduceCtorEq, Expr.field.injEq] at h
    simp only [Expr.references] at hr
    obtain ⟨hvalue, hname⟩ := List.append_inj hr (length_of_erase_eq Expr.references_erase h.1)
    simp only [List.cons.injEq, Reference.field.injEq, and_true] at hname
    rw [Expr.eq_of_erase_eq h.1 hvalue, hname]
  | .structLit name inits range, b, h, hr => by
    cases b <;> simp only [Expr.erase, reduceCtorEq, Expr.structLit.injEq] at h
    simp only [Expr.references, List.cons.injEq, Reference.structLit.injEq] at hr
    rw [hr.1, Expr.inits_eq_of_erase_eq h.2.1 hr.2, h.2.2]
  | .constant range, b, h, hr => by
    cases b <;> simp only [Expr.erase, reduceCtorEq, Expr.constant.injEq] at h
    rw [h]

theorem Expr.args_eq_of_erase_eq : ∀ {as bs : List Expr},
    Expr.eraseArgs as = Expr.eraseArgs bs → Expr.argReferences as = Expr.argReferences bs → as = bs
  | [], [], _, _ => rfl
  | a :: as, b :: bs, h, hr => by
    simp only [Expr.eraseArgs, List.cons.injEq] at h
    simp only [Expr.argReferences] at hr
    obtain ⟨ha, has⟩ := List.append_inj hr (length_of_erase_eq Expr.references_erase h.1)
    rw [Expr.eq_of_erase_eq h.1 ha, Expr.args_eq_of_erase_eq h.2 has]
  | [], _ :: _, h, _ => by simp [Expr.eraseArgs] at h
  | _ :: _, [], h, _ => by simp [Expr.eraseArgs] at h

theorem Expr.inits_eq_of_erase_eq : ∀ {as bs : List (WrittenName × Expr)},
    Expr.eraseInits as = Expr.eraseInits bs → Expr.initReferences as = Expr.initReferences bs →
    as = bs
  | [], [], _, _ => rfl
  | (n, a) :: as, (m, b) :: bs, h, hr => by
    simp only [Expr.eraseInits, List.cons.injEq, Prod.mk.injEq] at h
    simp only [Expr.initReferences, List.cons.injEq, Reference.init.injEq] at hr
    obtain ⟨ha, has⟩ := List.append_inj hr.2 (length_of_erase_eq Expr.references_erase h.1.2)
    rw [hr.1, Expr.eq_of_erase_eq h.1.2 ha, Expr.inits_eq_of_erase_eq h.2 has]
  | [], _ :: _, h, _ => by simp [Expr.eraseInits] at h
  | _ :: _, [], h, _ => by simp [Expr.eraseInits] at h

end

/-- The same for the trees of a list, where `erase` and `refs` are of one tree. -/
theorem eq_of_map_erase_eq {α β : Type} {erase : α → α} {refs : α → List β}
    (hlength : ∀ {a b}, erase a = erase b → (refs a).length = (refs b).length)
    (heq : ∀ {a b}, erase a = erase b → refs a = refs b → a = b) :
    ∀ {as bs : List α}, as.map erase = bs.map erase → as.flatMap refs = bs.flatMap refs → as = bs
  | [], [], _, _ => rfl
  | a :: as, b :: bs, h, hr => by
    simp only [List.map_cons, List.cons.injEq] at h
    simp only [List.flatMap_cons] at hr
    obtain ⟨ha, has⟩ := List.append_inj hr (hlength h.1)
    rw [heq h.1 ha, eq_of_map_erase_eq hlength heq h.2 has]
  | [], _ :: _, h, _ => by simp at h
  | _ :: _, [], h, _ => by simp at h

theorem StructDecl.eq_of_erase_eq {a b : StructDecl} (h : a.erase = b.erase)
    (hr : a.references = b.references) : a = b := by
  obtain ⟨name, range, documentation, fields⟩ := a
  obtain ⟨name', range', documentation', fields'⟩ := b
  simp only [erase, StructDecl.mk.injEq] at h
  simp only [references, ← List.flatMap_pure_eq_map] at hr
  have hfield : ∀ {f g : FieldDecl}, f.erase = g.erase →
      [Reference.typeRef f.type] = [Reference.typeRef g.type] → f = g := by
    intro f g hf ht
    obtain ⟨⟨fn, ft, fr⟩, fd⟩ := f
    obtain ⟨⟨gn, gt, gr⟩, gd⟩ := g
    simp only [FieldDecl.erase, FieldDecl.mk.injEq, MemberDecl.mk.injEq] at hf
    simp only [List.cons.injEq, Reference.typeRef.injEq, and_true] at ht
    rw [hf.1.1, ht, hf.1.2.2, hf.2]
  rw [h.1, h.2.1, h.2.2.1, eq_of_map_erase_eq (fun _ => rfl) hfield h.2.2.2 hr]

theorem MemberDecl.eq_of_erase_eq {a b : MemberDecl} (h : a.erase = b.erase)
    (ht : [Reference.typeRef a.type] = [Reference.typeRef b.type]) : a = b := by
  obtain ⟨name, type, range⟩ := a
  obtain ⟨name', type', range'⟩ := b
  simp only [erase, MemberDecl.mk.injEq] at h
  simp only [List.cons.injEq, Reference.typeRef.injEq, and_true] at ht
  rw [h.1, ht, h.2.2]

theorem FuncDecl.eq_of_erase_eq {a b : FuncDecl} (h : a.erase = b.erase)
    (hr : a.references = b.references) : a = b := by
  obtain ⟨name, range, documentation, params, returns, body⟩ := a
  obtain ⟨name', range', documentation', params', returns', body'⟩ := b
  simp only [erase, FuncDecl.mk.injEq] at h
  obtain ⟨hname, hrange, hdocumentation, hparams, hreturns, hbody⟩ := h
  have hplen : params.length = params'.length := by
    simpa only [List.length_map] using congrArg List.length hparams
  have hrlen : (returns.map Reference.typeRef).toList.length =
      (returns'.map Reference.typeRef).toList.length := by
    cases returns <;> cases returns' <;> simp at hreturns ⊢
  simp only [references, annotations, List.append_assoc] at hr
  obtain ⟨hp, hr⟩ := List.append_inj hr (by simpa only [List.length_map] using hplen)
  obtain ⟨hret, hb⟩ := List.append_inj hr hrlen
  simp only [← List.flatMap_pure_eq_map] at hp
  have hreturns : returns = returns' := by
    cases returns <;> cases returns' <;> simp at hret ⊢
    exact hret
  rw [hname, hrange, hdocumentation, hreturns,
    eq_of_map_erase_eq (fun _ => rfl) MemberDecl.eq_of_erase_eq hparams hp,
    eq_of_map_erase_eq (length_of_erase_eq Expr.references_erase) Expr.eq_of_erase_eq hbody hb]

theorem references_eraseStructs (structs : List StructDecl) :
    (structs.map StructDecl.erase).flatMap StructDecl.references =
      (structs.flatMap StructDecl.references).map Reference.erase := by
  simp only [List.flatMap_map, List.map_flatMap, StructDecl.references_erase]

/-- **A script is known by its references and the erased script.** -/
theorem Script.eq_of_erase_eq {a b : Script} (h : a.erase = b.erase)
    (hr : a.references = b.references) : a = b := by
  obtain ⟨file, package, imports, structs, funcs⟩ := a
  obtain ⟨file', package', imports', structs', funcs'⟩ := b
  simp only [erase, Script.mk.injEq] at h
  obtain ⟨hfile, hpackage, himports, hstructs, hfuncs⟩ := h
  obtain ⟨hs, hf⟩ := List.append_inj hr (length_of_erase_eq references_eraseStructs hstructs)
  rw [hfile, hpackage, himports,
    eq_of_map_erase_eq (length_of_erase_eq StructDecl.references_erase)
      StructDecl.eq_of_erase_eq hstructs hs,
    eq_of_map_erase_eq (length_of_erase_eq FuncDecl.references_erase)
      FuncDecl.eq_of_erase_eq hfuncs hf]

end NameScope
