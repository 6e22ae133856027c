import NameScope.Proofs.Declared.Located
import NameScope.Proofs.Declared.Members
import NameScope.Proofs.Linking.Places

/-!
# Indexing and linking see the same members

The parameters of a func are gone over twice. Indexing makes a table of them, which callers of the
func see; linking makes a list of locals, which the body of the func sees. Each has its own test
for names that are taken and resolves the annotations anew. Both come to the same: the locals are
the entries of the table, in order.

* one step: a table takes a member exactly if the locals do (`LinkScope.Mirrors.any_eq`);
* a run: all parameters of a func (`linkParams_mirrors`), by induction on them.

**Results.** `linking_sees_indexed_members`: the parameters, and the types of fields and of return
values.
-/
namespace NameScope

/-- A parameter of a table as the body of the func sees it. -/
def Member.toLocal (name : String) (m : Member) : Local := ⟨name, m.location, m.type⟩

namespace LinkScope

/-- The part of the scope that indexing reads as well. -/
def indexScope (s : LinkScope) : IndexScope :=
  { config := s.config, types := s.types, imports := s.imports, file := s.file }

/-- The locals are the parameters of the table, in order. -/
def Mirrors (s : LinkScope) (params : OrderedMap String Member) : Prop :=
  s.locals = params.entries.map fun (name, m) => m.toLocal name

section

variable {s : LinkScope} {params : OrderedMap String Member}

/-- A name is taken in the locals exactly if it is in the table. -/
theorem Mirrors.any_eq (h : s.Mirrors params) (name : String) :
    s.locals.any (·.name == name) = (params.get? name).isSome := by
  rw [Bool.eq_iff_iff, List.any_eq_true, Option.isSome_iff_exists]
  constructor
  · rintro ⟨l, hl, hname⟩
    rw [h] at hl
    obtain ⟨⟨key, m⟩, hentry, rfl⟩ := List.mem_map.1 hl
    have hkey : key = name := beq_iff_eq.1 hname
    exact ⟨m, (params.get?_eq_some_iff name m).2 (hkey ▸ hentry)⟩
  · rintro ⟨m, hm⟩
    refine ⟨m.toLocal name, ?_, beq_self_eq_true name⟩
    rw [h]
    exact List.mem_map.2 ⟨(name, m), (params.get?_eq_some_iff name m).1 hm, rfl⟩

/-- The type that linking an annotation gives is the one that indexing reads. -/
theorem type_of_linkType {type : TypeRef} {t : Option VarType}
    (h : (s.linkType type).outcome = .ok t) : t = s.types.typeOf s.imports type := by
  unfold linkType at h
  cases type with
  | primitive kind range => exact (Except.ok.inj h).symm
  | named name =>
    simp only at h
    split at h
    · exact (Except.ok.inj h).symm
    · cases h

/-- Linking an annotation without a target does not stop. -/
theorem linkType_of_unlinked {type : TypeRef} (h : (Reference.typeRef type).target = none) :
    (s.linkType type).outcome = .ok (s.types.typeOf s.imports type) := by
  unfold linkType
  cases type with
  | primitive kind range => rfl
  | named name =>
    have hname : name.target = none := h
    have hlink : ∃ linked, (s.types.lookupRef s.imports (.named name)).link name = .ok linked := by
      unfold Lookup.link
      split
      · exact ⟨_, WrittenName.link_of_unlinked hname _⟩
      · exact ⟨name, rfl⟩
    obtain ⟨linked, hlinked⟩ := hlink
    simp only [hlinked]
    rfl

/-- **The locals mirror the table of the parameters**, whatever was accepted before. -/
theorem linkParams_mirrors {decls : List MemberDecl} {body : LinkScope} (h : s.Mirrors params)
    (hbody : (s.linkParams decls).outcome = .ok body) :
    body.Mirrors (s.indexScope.addMembers .parameter params (decls.map fun p => (none, p))).1 := by
  induction decls generalizing s params with
  | nil =>
    cases Except.ok.inj hbody
    exact h
  | cons p decls ih =>
    obtain ⟨type, htype, hrest, -⟩ := Walk.of_mapNode_andThen_ok hbody
    obtain rfl := type_of_linkType htype
    rw [h.any_eq] at hrest
    rw [List.map_cons]
    cases hget : params.get? p.name.text with
    | some first =>
      rw [hget] at hrest
      rw [IndexScope.addMembers_taken hget]
      exact ih h hrest
    | none =>
      rw [hget] at hrest
      rw [IndexScope.addMembers_new hget]
      have hstep : LinkScope.Mirrors { s with locals := s.locals ++
          [⟨p.name.text, ⟨s.file, p.range⟩, s.types.typeOf s.imports p.type⟩] }
          (params.insert p.name.text ⟨⟨⟨s.file, p.range⟩, none⟩,
            s.types.typeOf s.imports p.type⟩) := by
        unfold Mirrors
        rw [OrderedMap.entries_insert_of_get? hget, List.map_append, ← h]
        rfl
      have hbody := ih hstep hrest
      exact hbody

end

end LinkScope

/-- **Indexing and linking see the same members.** In a script that is not linked yet, the locals in
the scope of the body of a func are the parameters that indexing stores for the func: the same
names in the same order, with the same places and types. Linking the annotation of a field that
indexing stores, or of a return value, gives the type that indexing stores. -/
theorem linking_sees_indexed_members (registry : Registry) (types : TypeIndex) (config : Config)
    (script : Script) (h : ∀ r ∈ script.references, r.target = none) :
    let s := LinkScope.ofScript registry types config script
    let index := IndexScope.ofScript config types script
    (∃ linked reports, script.linked registry types config = .ok (linked, reports) ∧
      ∀ (i : Nat) (func : FuncDecl), script.funcs[i]? = some func → ∃ body after,
        linked.funcs[i]? = some after ∧ func.LinkedIn s body after reports ∧
        body.locals =
          (index.funcDef func).1.params.entries.map fun (name, m) => ⟨name, m.location, m.type⟩) ∧
    (∀ func ∈ script.funcs, ∀ type, func.returns = some type →
      (s.linkType type).outcome = .ok (index.funcDef func).1.returns) ∧
    ∀ decl ∈ script.structs, ∀ key member,
      (index.structDef decl).1.fields.get? key = some member →
      ∃ field, decl.fields.find? (·.name.text == key) = some field ∧
        (s.linkType field.type).outcome = .ok member.type := by
  intro s index
  refine ⟨?_, ?_, ?_⟩
  · obtain ⟨linked, hlinked, -⟩ := script.linked_of_unlinked registry types config h
    refine ⟨linked, _, hlinked, fun i func hfunc => ?_⟩
    obtain ⟨body, after, hafter, hin⟩ := Script.body_of_linked hlinked hfunc
    have hempty : s.Mirrors .empty := rfl
    exact ⟨body, after, hafter, hin, LinkScope.linkParams_mirrors hempty hin.scope⟩
  · intro func hfunc type htype
    have hmem := func.annotations_subset (FuncDecl.typeRef_returns_mem htype)
    have htarget := h _ (Script.func_references_subset hfunc hmem)
    have hreturns : (index.funcDef func).1.returns = types.typeOf index.imports type := by
      show (index.returnType func).1 = _
      unfold IndexScope.returnType
      rw [htype]
      rfl
    rw [hreturns]
    exact LinkScope.linkType_of_unlinked htarget
  · intro decl hdecl key member hmember
    rw [index.get?_fields, Option.map_eq_some_iff] at hmember
    obtain ⟨field, hfield, rfl⟩ := hmember
    have hmem := StructDecl.typeRef_field_mem (List.mem_of_find?_eq_some hfield)
    have htarget := h _ (Script.struct_references_subset hdecl hmem)
    exact ⟨field, hfield, LinkScope.linkType_of_unlinked htarget⟩

/-- `func main(p: Point, q: int, p: int) -> int`, where no `Point` is known: the locals are `p`, of
no known type, and `q`. -/
theorem second_p_is_no_local :
    let p : MemberDecl := { name := { text := "p" }, type := .named { name := ⟨["Point"]⟩ } }
    let q : MemberDecl := { name := { text := "q" }, type := .primitive .int {} }
    let main : FuncDecl := {
      name := { text := "main" }
      params := [p, q, { q with name := { text := "p" } }]
      returns := some (.primitive .int {}) }
    let script : Script := { file := ⟨0⟩, package := ⟨["game"]⟩, funcs := [main] }
    let s := LinkScope.ofScript .empty .empty {} script
    (∀ r ∈ script.references, r.target = none) ∧
    (∃ linked reports body after, script.linked .empty .empty {} = .ok (linked, reports) ∧
      linked.funcs[0]? = some after ∧ main.LinkedIn s body after reports ∧
      body.locals = [⟨"p", ⟨⟨0⟩, {}⟩, none⟩, ⟨"q", ⟨⟨0⟩, {}⟩, some (.primitive .int)⟩]) ∧
    (s.linkType (.primitive .int {})).outcome = .ok (some (.primitive .int)) := by
  intro p q main script s
  have h : ∀ r ∈ script.references, r.target = none := by decide
  obtain ⟨⟨linked, reports, hlinked, hfuncs⟩, hreturns, -⟩ :=
    linking_sees_indexed_members .empty .empty {} script h
  obtain ⟨body, after, hafter, hin, hlocals⟩ := hfuncs 0 main rfl
  exact ⟨h, ⟨linked, reports, body, after, hlinked, hafter, hin, hlocals⟩,
    hreturns main (List.mem_singleton_self main) _ rfl⟩

end NameScope
