import NameScope.Proofs.Declared.Origin
import NameScope.Proofs.Linking.Follows

/-!
# Struct types are anchored

The type of a value names a struct by its qualified name and says nothing of its bundle; to find
the fields of the value, all bundles are asked and the first answer counts. Were the struct
declared in two bundles, that could be the wrong one.

It never is. A struct becomes the type of something only through a name that has exactly one
meaning among the imported packages. Packages are imported by their name in all bundles at once,
so a second declaration of the same qualified name would have been a second meaning
(`Registry.declares_once`). The type may then flow to scripts with other imports, since it no
longer depends on any.

**Results.**
* `Indexed.anchors_of_named`: a struct that some reference means alone is declared once, is found
  by its qualified name, and is what every other reference of that type or name means
  (`Indexed.Anchors`);
* `Expr.struct_type_cases`: where a struct type of an expression comes from;
* `Expr.namedUnder_of_type`, `Expr.named_of_type`: so it is one that some reference means alone;
* `struct_types_are_anchored`: so no stored type and no type of an expression is dangling or
  ambiguous.
-/
namespace NameScope

/-! ## Declarations of a qualified name -/

/-- The package `id` declares the struct `q`. -/
def Registry.Declares (r : Registry) (id : PackageId) (q : QualifiedName) (d : StructDef) :
    Prop :=
  ∃ index name, r.get? id = some index ∧ index.structs.get? name = some d ∧
    id.package.append name = q

theorem Lookup.eq_singleton_of_single? {l : Lookup α} {m : α} (h : l.single? = some m) :
    ∃ imports, l.alternatives = [⟨m, imports⟩] := by
  unfold single? at h
  split at h
  · rename_i only hl
    cases h
    exact ⟨only.imports, hl⟩
  · cases h

theorem Lookup.mem_of_single? {l : Lookup α} {m : α} (h : l.single? = some m) :
    ∃ imports, ⟨m, imports⟩ ∈ l.alternatives := by
  obtain ⟨imports, honly⟩ := eq_singleton_of_single? h
  rw [honly]
  exact ⟨imports, List.mem_singleton_self _⟩

theorem QualifiedName.append_inj {p p' : QualifiedName} {s s' : String}
    (h : p.append s = p'.append s') : p = p' ∧ s = s' := by
  have hs : p.segments ++ [s] = p'.segments ++ [s'] := congrArg segments h
  obtain ⟨hp, hlast⟩ := List.append_inj' hs rfl
  exact ⟨congrArg QualifiedName.mk hp, List.singleton_inj.1 hlast⟩

namespace Registry

theorem declares_of_findStruct? {r : Registry} {q : QualifiedName} {d : StructDef}
    (h : r.findStruct? q = some d) : ∃ id, r.Declares id q d := by
  obtain ⟨⟨id, index⟩, he, hd⟩ := List.exists_of_findSome?_eq_some h
  simp only at hd
  split at hd
  · rename_i hq
    exact ⟨id, index, q.last, (Bundles.mem_toList_iff r id index).1 he, hd, hq⟩
  · cases hd

theorem exists_findStruct? {r : Registry} {id : PackageId} {q : QualifiedName} {d : StructDef}
    (h : r.Declares id q d) : ∃ d', r.findStruct? q = some d' := by
  obtain ⟨index, name, hindex, hd, rfl⟩ := h
  rw [← Option.isSome_iff_exists, findStruct?, List.findSome?_isSome_iff]
  refine ⟨(id, index), (Bundles.mem_toList_iff r id index).2 hindex, ?_⟩
  simp [QualifiedName.last_append, hd]

/-- A func that a name means is in the registry. -/
theorem get?_of_mem_lookupFunc {r : Registry} {imports : ImportSet} {n : QualifiedName}
    {a : Alternative FuncMatch} (h : a ∈ (r.lookupFunc imports n).alternatives) :
    ∃ id index name, r.get? id = some index ∧
      index.funcs.get? name = some a.value.definition := by
  unfold lookupFunc at h
  rw [Lookup.alternatives_filterMap, Bundles.alternatives_lookup, List.mem_filterMap] at h
  obtain ⟨found, hfound, ha⟩ := h
  obtain ⟨id, index, hindex, -, c, hc, rfl⟩ := Bundles.mem_search.1 hfound
  obtain ⟨⟨name, d⟩, he, rfl⟩ := List.mem_map.1 hc
  cases ha
  exact ⟨id, index, name, (Bundles.mem_toList_iff r id index).1 hindex,
    (OrderedMap.get?_eq_some_iff _ _ _).2 (List.mem_filter.1 he).1⟩

/-- The imported structs that a name may mean. -/
theorem mem_alternatives_lookupStruct {r : Registry} {imports : ImportSet} {n : QualifiedName}
    {a : Alternative StructMatch} :
    a ∈ (r.lookupStruct imports n).alternatives ↔
      ∃ id index name d, r.get? id = some index ∧ index.structs.get? name = some d ∧
        id.package ∈ imports ∧ name = n.last ∧ n.isSuffixOf (id.package.append name) = true ∧
        a = ⟨⟨id.package, name, d⟩, [id]⟩ := by
  unfold lookupStruct
  rw [Lookup.alternatives_filterMap, Bundles.alternatives_lookup, List.mem_filterMap]
  constructor
  · rintro ⟨found, hfound, ha⟩
    obtain ⟨id, index, hindex, himp, c, hc, rfl⟩ := Bundles.mem_search.1 hfound
    obtain ⟨⟨name, d⟩, he, rfl⟩ := List.mem_map.1 hc
    obtain ⟨he, hq⟩ := List.mem_filter.1 he
    rw [Bool.and_eq_true, beq_iff_eq] at hq
    exact ⟨id, index, name, d, (Bundles.mem_toList_iff r id index).1 hindex,
      (OrderedMap.get?_eq_some_iff _ _ _).2 he, of_decide_eq_true himp, hq.1, hq.2,
      (Option.some.inj ha).symm⟩
  · rintro ⟨id, index, name, d, hindex, hd, himp, hlast, hsuffix, rfl⟩
    refine ⟨⟨.struct ⟨id.package, name, d⟩, [id]⟩, ?_, rfl⟩
    refine Bundles.mem_search.2 ⟨id, index, (Bundles.mem_toList_iff r id index).2 hindex,
      decide_eq_true himp, .struct ⟨id.package, name, d⟩, List.mem_map.2 ⟨(name, d), ?_, rfl⟩, rfl⟩
    refine List.mem_filter.2 ⟨(OrderedMap.get?_eq_some_iff _ _ _).1 hd, ?_⟩
    rw [Bool.and_eq_true, beq_iff_eq]
    exact ⟨hlast, hsuffix⟩

/-- **What a name means alone is declared once**, in all bundles and whatever is imported. -/
theorem declares_once {r : Registry} {imports : ImportSet} {n : QualifiedName} {m : StructMatch}
    (h : (r.lookupStruct imports n).single? = some m) :
    ∃ id, r.Declares id m.qualified m.definition ∧
      ∀ id' d', r.Declares id' m.qualified d' → id' = id ∧ d' = m.definition := by
  obtain ⟨ids, honly⟩ := Lookup.eq_singleton_of_single? h
  have hm : ⟨m, ids⟩ ∈ (r.lookupStruct imports n).alternatives := by
    rw [honly]
    exact List.mem_singleton_self _
  obtain ⟨id, index, name, d, hindex, hd, himp, hlast, hsuffix, he⟩ :=
    mem_alternatives_lookupStruct.1 hm
  cases he
  refine ⟨id, ⟨index, name, hindex, hd, rfl⟩, ?_⟩
  rintro id' d' ⟨index', name', hindex', hd', hq⟩
  obtain ⟨hp, rfl⟩ := QualifiedName.append_inj hq
  -- another declaration of the name would be an alternative as well
  have hm' : ⟨⟨id'.package, name', d'⟩, [id']⟩ ∈ (r.lookupStruct imports n).alternatives :=
    mem_alternatives_lookupStruct.2 ⟨id', index', name', d', hindex', hd', hp ▸ himp, hlast,
      hp ▸ hsuffix, rfl⟩
  rw [honly, List.mem_singleton, Alternative.mk.injEq, StructMatch.mk.injEq,
    List.singleton_inj] at hm'
  obtain ⟨⟨-, -, hd'⟩, hid'⟩ := hm'
  exact ⟨hid', hd'⟩

end Registry

/-! ## Structs that a reference means alone -/

/-- Some name, seen with some imports, means the struct and nothing else. -/
def Registry.Named (r : Registry) (q : QualifiedName) : Prop :=
  ∃ imports n m, (r.lookupStruct imports n).single? = some m ∧ m.qualified = q

/-- The same, of one import set. -/
def Registry.NamedUnder (r : Registry) (imports : ImportSet) (q : QualifiedName) : Prop :=
  ∃ n m, (r.lookupStruct imports n).single? = some m ∧ m.qualified = q

theorem Registry.NamedUnder.named {r : Registry} {imports : ImportSet} {q : QualifiedName}
    (h : r.NamedUnder imports q) : r.Named q :=
  ⟨imports, h⟩

/-- An annotation that is a struct type names that struct, and links to it. -/
theorem struct_of_typeOf {r : Registry} {imports : ImportSet} {type : TypeRef}
    {q : QualifiedName} (h : r.typeNames.typeOf imports type = some (.struct q)) :
    ∃ written m, type = .named written ∧
      (r.lookupStruct imports written.name).single? = some m ∧ m.qualified = q ∧
      (r.typeNames.lookupRef imports type).target? = some m.definition.toTarget := by
  cases type with
  | primitive kind range => cases h
  | named name =>
    have hl : r.typeNames.lookupRef imports (.named name) =
        (r.lookupStruct imports name.name).map StructMatch.asType :=
      lookupType_typeNames r imports name.name
    unfold TypeIndex.typeOf at h
    rw [hl, Lookup.single?_map, Option.map_map, Option.map_eq_some_iff] at h
    obtain ⟨m, hm, hq⟩ := h
    refine ⟨name, m, rfl, hm, VarType.struct.inj hq, ?_⟩
    rw [hl, Lookup.target?, Lookup.single?_map, hm]
    rfl

/-- The struct is declared in one package of one bundle only. It is found by its qualified name,
and every reference of that type or name means it. -/
structure Indexed.Anchors (x : Indexed) (q : QualifiedName) (d : StructDef) : Prop where
  once : ∃ id, x.registry.Declares id q d ∧
    ∀ id' d', x.registry.Declares id' q d' → id' = id ∧ d' = d
  found : x.registry.findStruct? q = some d
  annotated : ∀ imports type, x.types.typeOf imports type = some (.struct q) →
    (x.types.lookupRef imports type).target? = some d.toTarget
  named : ∀ imports n m, (x.registry.lookupStruct imports n).single? = some m →
    m.qualified = q → m.definition = d

/-- **A struct that some reference means alone is anchored.** -/
theorem Indexed.anchors_of_named {x : Indexed} (hx : x.registry.typeNames = x.types)
    {q : QualifiedName} (h : x.registry.Named q) : ∃ d, x.Anchors q d := by
  obtain ⟨imports, n, m, hm, rfl⟩ := h
  obtain ⟨id, hdeclares, honce⟩ := Registry.declares_once hm
  have hnamed : ∀ imports n m', (x.registry.lookupStruct imports n).single? = some m' →
      m'.qualified = m.qualified → m'.definition = m.definition := by
    intro imports' n' m' hm' hq
    obtain ⟨id', hdeclares', -⟩ := Registry.declares_once hm'
    exact (honce id' m'.definition (hq ▸ hdeclares')).2
  refine ⟨m.definition, ⟨id, hdeclares, honce⟩, ?_, ?_, hnamed⟩
  · obtain ⟨d, hd⟩ := Registry.exists_findStruct? hdeclares
    obtain ⟨id', hdeclares'⟩ := Registry.declares_of_findStruct? hd
    rw [hd, (honce id' d hdeclares').2]
  · intro imports' type ht
    rw [← hx] at ht ⊢
    obtain ⟨written, m', -, hm', hq, htarget⟩ := struct_of_typeOf ht
    rw [htarget, hnamed imports' written.name m' hm' hq]

/-! ## Types of expressions -/

theorem Registry.Stores.namedUnder {r : Registry} {config : Config}
    {scripts : List BundledScript} {q : QualifiedName} (h : r.Stores (.struct q))
    (hr : r.MadeFrom config r.typeNames scripts) :
    ∃ s ∈ scripts, r.NamedUnder (s.script.importedPackages config.selfImport) q := by
  obtain ⟨s, hs, type, -, ht⟩ := h.annotated hr
  obtain ⟨written, m, -, hm, hq, -⟩ := struct_of_typeOf ht
  exact ⟨s, hs, written.name, m, hm, hq⟩

theorem Registry.Stores.named {r : Registry} {config : Config} {scripts : List BundledScript}
    {q : QualifiedName} (h : r.Stores (.struct q))
    (hr : r.MadeFrom config r.typeNames scripts) : r.Named q := by
  obtain ⟨s, -, hnamed⟩ := h.namedUnder hr
  exact hnamed.named

/-- **Where a struct type of an expression comes from**: it is that of the annotation of a parameter,
or stored in the registry, or named by a literal. No induction is needed: the owner of a field is a
definition of the registry, whatever the value before it is. -/
theorem Expr.struct_type_cases {s : LinkScope} {params : List MemberDecl} {e : Expr}
    {q : QualifiedName} (h : e.type s params = some (.struct q)) :
    (∃ p ∈ params, s.types.typeOf s.imports p.type = some (.struct q)) ∨
      s.registry.Stores (.struct q) ∨
      ∃ name m, .structLit name ∈ e.references ∧ (s.structs name.name).single? = some m ∧
        m.qualified = q := by
  cases e with
  | identifier ident =>
    obtain ⟨param, hparam, ht⟩ := Option.bind_eq_some_iff.1 h
    obtain ⟨text, -, hfind⟩ := Option.bind_eq_some_iff.1 hparam
    exact .inl ⟨param, List.mem_of_find?_eq_some hfind, ht⟩
  | call callee args range =>
    obtain ⟨m, hm, ht⟩ := Option.bind_eq_some_iff.1 h
    obtain ⟨ids, hmem⟩ := Lookup.mem_of_single? hm
    obtain ⟨id, index, name, hindex, hfunc⟩ := Registry.get?_of_mem_lookupFunc hmem
    exact .inr (.inl (.returns hindex hfunc ht))
  | field value name =>
    obtain ⟨member, hmember, ht⟩ := Option.bind_eq_some_iff.1 h
    obtain ⟨owner, howner, hfield⟩ := Option.bind_eq_some_iff.1 hmember
    obtain ⟨p, -, hp⟩ := Option.bind_eq_some_iff.1 howner
    obtain ⟨d, hd, rfl⟩ := Option.map_eq_some_iff.1 hp
    obtain ⟨id, index, key, hindex, hstruct, -⟩ := Registry.declares_of_findStruct? hd
    obtain ⟨text, -, hget⟩ := Option.bind_eq_some_iff.1 hfield
    exact .inr (.inl (.field hindex hstruct hget ht))
  | structLit name inits range =>
    obtain ⟨m, hm, hq⟩ := Option.map_eq_some_iff.1 h
    exact .inr (.inr ⟨name, m, List.mem_cons_self, hm, VarType.struct.inj hq⟩)
  | constant range => cases h

/-- **A struct type of an expression** is one that some reference means alone, with the imports of
the script around or of one that was indexed. -/
theorem Expr.namedUnder_of_type {s : LinkScope} {config : Config} {scripts : List BundledScript}
    (hs : s.registry.typeNames = s.types) (hr : s.registry.MadeFrom config s.types scripts)
    {params : List MemberDecl} {e : Expr} {q : QualifiedName}
    (h : e.type s params = some (.struct q)) :
    s.registry.NamedUnder s.imports q ∨
      ∃ t ∈ scripts, s.registry.NamedUnder (t.script.importedPackages config.selfImport) q := by
  rw [← hs] at hr
  rcases Expr.struct_type_cases h with ⟨param, -, ht⟩ | hstored | ⟨name, m, -, hm, hq⟩
  · rw [← hs] at ht
    obtain ⟨written, m, -, hm, hq, -⟩ := struct_of_typeOf ht
    exact .inl ⟨written.name, m, hm, hq⟩
  · exact .inr (hstored.namedUnder hr)
  · exact .inl ⟨name.name, m, hm, hq⟩

theorem Expr.named_of_type {s : LinkScope} {config : Config} {scripts : List BundledScript}
    (hs : s.registry.typeNames = s.types) (hr : s.registry.MadeFrom config s.types scripts)
    {params : List MemberDecl} {e : Expr} {q : QualifiedName}
    (h : e.type s params = some (.struct q)) : s.registry.Named q := by
  rcases Expr.namedUnder_of_type hs hr h with h | ⟨t, -, h⟩
  · exact h.named
  · exact h.named

/-! ## Sessions -/

/-- **No struct type is dangling or ambiguous.** Each struct type that the registry of a session
stores is anchored, at the struct that an annotation of the session links to. So is each struct
type that linking computes in the body of a func, for any expression of any script; hence the
fields of its value are known. -/
theorem struct_types_are_anchored (config : Config) (scripts : List BundledScript) :
    let session := Indexed.ofScripts config scripts
    (∀ q, session.registry.Stores (.struct q) → ∃ d, session.Anchors q d ∧
      ∃ s ∈ scripts, ∃ written, .typeRef written ∈ s.script.references ∧
        (session.types.lookupRef (s.script.importedPackages config.selfImport) written).single? =
          some ⟨.struct q, some d.toTarget⟩) ∧
    ∀ (settings : Config) (script : Script) (params : List MemberDecl) (body : LinkScope)
      (e : Expr) (q : QualifiedName),
      ((LinkScope.ofScript session.registry session.types settings script).linkParams
        params).outcome = .ok body →
      (e.link body).outcome = .ok (some (.struct q)) →
      ∃ d, session.Anchors q d ∧
        ∀ field, body.linkAccess (some (.struct q)) field = body.linkField q d field := by
  intro session
  have htypes : session.registry.typeNames = session.types := typeNames_ofScripts config scripts
  have hmade : session.registry.MadeFrom config session.types scripts :=
    madeFrom_ofScripts config scripts
  constructor
  · intro q hq
    obtain ⟨d, hd⟩ := Indexed.anchors_of_named htypes (hq.named (htypes ▸ hmade))
    obtain ⟨s, hs, written, hw, ht⟩ := hq.annotated hmade
    refine ⟨d, hd, s, hs, written, hw, ?_⟩
    have htarget := hd.annotated _ written ht
    obtain ⟨m, hm, hmq⟩ := Option.map_eq_some_iff.1 ht
    obtain ⟨type, target⟩ := m
    unfold Lookup.target? at htarget
    rw [hm] at htarget ⊢
    cases hmq
    have htarget : target = some d.toTarget := htarget
    rw [htarget]
  · intro settings script params body e q hbody he
    let s := LinkScope.ofScript session.registry session.types settings script
    have hshows : body.Shows s params := linkParams_shows rfl hbody
    have htype := Expr.type_of_link hshows he
    obtain ⟨d, hd⟩ := Indexed.anchors_of_named htypes
      (Expr.named_of_type (s := s) htypes hmade htype.symm)
    refine ⟨d, hd, fun field => ?_⟩
    have hr : body.registry = session.registry := by rw [hshows.rest]; rfl
    unfold LinkScope.linkAccess
    simp only [Option.bind_some, VarType.struct?, hr, hd.found]

/-- `struct Point { next: Point }` in the package `util` of one bundle, and another struct in the
package `util` of another. -/
def twoUtils : List BundledScript :=
  [⟨⟨"core"⟩, {
      file := ⟨0⟩
      package := ⟨["util"]⟩
      structs := [{
        name := { text := "Point" }
        fields := [{ name := { text := "next" }, type := .named { name := ⟨["Point"]⟩ } }] }] }⟩,
    ⟨⟨"mods"⟩, {
      file := ⟨1⟩
      package := ⟨["util"]⟩
      structs := [{ name := { text := "Grid" } }] }⟩]

/-- `p.next` in `func (p: Point)`, in a script that imports `util`: its type is the one that is
stored for the field. -/
theorem next_point_is_anchored :
    let session := Indexed.ofScripts {} twoUtils
    let script : Script := { file := ⟨2⟩, package := ⟨["game"]⟩, imports := [{ name := ⟨["util"]⟩ }] }
    let params : List MemberDecl :=
      [{ name := { text := "p" }, type := .named { name := ⟨["Point"]⟩ } }]
    let e : Expr := .field (.identifier { name := { name := ⟨["p"]⟩ } }) { name := ⟨["next"]⟩ }
    (session.registry.Stores (.struct ⟨["util", "Point"]⟩) ∧
      ∃ d, session.Anchors ⟨["util", "Point"]⟩ d) ∧
    ∃ body, ((LinkScope.ofScript session.registry session.types {} script).linkParams
        params).outcome = .ok body ∧
      (e.link body).outcome = .ok (some (.struct ⟨["util", "Point"]⟩)) ∧
      ∃ d, ∀ field, body.linkAccess (some (.struct ⟨["util", "Point"]⟩)) field =
        body.linkField ⟨["util", "Point"]⟩ d field := by
  intro session script params e
  obtain ⟨hstored, hcomputed⟩ := struct_types_are_anchored {} twoUtils
  have hs : session.registry.Stores (.struct ⟨["util", "Point"]⟩) :=
    .field (rfl : session.registry.get? ⟨⟨"core"⟩, ⟨["util"]⟩⟩ = some _)
      (rfl : OrderedMap.get? _ "Point" = some _) (rfl : OrderedMap.get? _ "next" = some _) rfl
  obtain ⟨body, hbody, he⟩ : ∃ body,
      ((LinkScope.ofScript session.registry session.types {} script).linkParams params).outcome =
        .ok body ∧ (e.link body).outcome = .ok (some (.struct ⟨["util", "Point"]⟩)) :=
    ⟨_, rfl, rfl⟩
  obtain ⟨d, hd, -⟩ := hstored ⟨["util", "Point"]⟩ hs
  obtain ⟨d', -, haccess⟩ := hcomputed {} script params body e ⟨["util", "Point"]⟩ hbody he
  exact ⟨⟨hs, d, hd⟩, body, hbody, he, d', haccess⟩

end NameScope
