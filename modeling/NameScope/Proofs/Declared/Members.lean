import NameScope.Proofs.Declared.Annotations
import NameScope.Proofs.Declared.Standing
import NameScope.Proofs.Lookup.Reported

/-!
# Members, the first of each name

A declaration lists members, and several may have one name. Its table keeps the first of each name,
in the order in which the names were first met; of each other member the name is reported, with a
pointer to the first. A member that is kept is reported if its type is not known.

Fields and parameters are handled alike, but for the documentation that parameters do not have.

* one step: a member whose name is taken, a member with a new name (`addMembers_taken`,
  `addMembers_new`);
* a run: all members, those met so far included (`keepsFirst_addMembers`,
  `memberReports_addMembers`).

**Results.** `first_members_are_kept`: the tables and the reports of each struct and each func.
-/
namespace NameScope

namespace IndexScope

/-! ## What is said of an annotation -/

/-- The type that the annotation of `member` stands for, and what is reported of it. -/
inductive Reads (s : IndexScope) (member : String) :
    TypeRef → Option VarType → List Diagnostic → Prop
  | primitive (kind : Primitive) (range : Range) :
    s.Reads member (.primitive kind range) (some (.primitive kind)) []
  /-- The annotation resolves to exactly one alternative. -/
  | known {name : WrittenName} {a : Alternative TypeMatch}
      (one : (s.types.lookupType s.imports name.name).alternatives = [a]) :
    s.Reads member (.named name) (some a.value.type) []
  /-- One diagnostic says why the type is not known: E0001, E0002 or E0003. -/
  | unknown {name : WrittenName} {d : Diagnostic}
      (notOne : ∀ a, (s.types.lookupType s.imports name.name).alternatives ≠ [a])
      (code : d.isLookupError = true)
      (why : (s.types.lookupType s.imports name.name).Verdict s.config s.file .typeOf member
        name.range [d]) :
    s.Reads member (.named name) none [d]

/-- What a table stores of a member with its documentation. -/
structure Stores (s : IndexScope) (decl : Option String × MemberDecl) (m : Member) : Prop where
  location : m.location = ⟨s.file, decl.2.range⟩
  documentation : m.documentation = decl.1
  type : ∃ reports, s.Reads decl.2.name.text decl.2.type m.type reports

/-- The table holds the first of the members of each name, in the order of these. -/
structure KeepsFirst (s : IndexScope) (decls : List (Option String × MemberDecl))
    (table : OrderedMap String Member) : Prop where
  keys : table.keys = (decls.map (·.2.name.text)).eraseDups
  members : ∀ key, Option.Rel s.Stores (decls.find? (·.2.name.text == key)) (table.get? key)

/-- What is reported of members that come after the members `before`. -/
inductive MemberReports (s : IndexScope) (kind : MemberKind) :
    List MemberDecl → List MemberDecl → List Diagnostic → Prop
  | nil (before : List MemberDecl) : s.MemberReports kind before [] []
  /-- The name is taken, and `first` is the first member that has it. -/
  | repeated {before decls : List MemberDecl} {decl first : MemberDecl} {reports : List Diagnostic}
      (taken : before.find? (·.name.text == decl.name.text) = some first)
      (rest : s.MemberReports kind (before ++ [decl]) decls reports) :
    s.MemberReports kind before (decl :: decls) ({
      file := s.file
      range := decl.name.range
      severity := .error
      code := some "E0004"
      message := kind.text ++ " " ++ decl.name.text ++ " was already defined"
      related := [⟨⟨s.file, first.range⟩, "previously defined here"⟩] } :: reports)
  /-- The name is new, and so the member is kept. -/
  | kept {before decls : List MemberDecl} {decl : MemberDecl} {type : Option VarType}
      {own reports : List Diagnostic}
      (new : before.find? (·.name.text == decl.name.text) = none)
      (reads : s.Reads decl.name.text decl.type type own)
      (rest : s.MemberReports kind (before ++ [decl]) decls reports) :
    s.MemberReports kind before (decl :: decls) (own ++ reports)

section

variable {s : IndexScope}

/-- A member's annotation is read. -/
theorem reads_memberType (member : String) (type : TypeRef) :
    s.Reads member type (s.memberType member type).1 (s.memberType member type).2 := by
  cases type with
  | primitive kind range => exact .primitive kind range
  | named name =>
    let l := s.types.lookupType s.imports name.name
    have hverdict := Lookup.verdict_report? (s.types.presentable_lookupType s.imports name.name)
      s.config s.file .typeOf member name.range
    have htype : (s.memberType member (.named name)).1 = l.single?.map (·.type) := rfl
    have hreports : (s.memberType member (.named name)).2 =
      (l.report? s.config s.file .typeOf member name.range).toList := rfl
    rw [htype, hreports]
    cases hd : l.report? s.config s.file .typeOf member name.range with
    | none =>
      obtain ⟨a, ha⟩ : ∃ a, l.alternatives = [a] :=
        List.length_eq_one_iff.1 (beq_iff_eq.1 ((Lookup.report?_eq_none_iff ..).1 hd))
      have hsingle : l.single? = some a.value := by
        unfold Lookup.single?
        rw [ha]
      rw [hsingle]
      exact .known ha
    | some d =>
      have hne : ∀ a, l.alternatives ≠ [a] := by
        intro a ha
        have hnone : l.report? s.config s.file .typeOf member name.range = none :=
          (Lookup.report?_eq_none_iff ..).2 (by simp [Lookup.isResolved, ha])
        rw [hd] at hnone
        cases hnone
      rw [Lookup.single?_eq_none hne]
      rw [hd] at hverdict
      exact .unknown hne (Lookup.isLookupError_of_report? hd) hverdict

/-! ## Members one after the other -/

variable {kind : MemberKind}

/-- A member whose name is taken is reported. -/
theorem addMembers_taken {accepted : OrderedMap String Member} {p : Option String × MemberDecl}
    {first : Member} (h : accepted.get? p.2.name.text = some first)
    (decls : List (Option String × MemberDecl)) :
    s.addMembers kind accepted (p :: decls) =
      ((s.addMembers kind accepted decls).1,
        s.duplicateMember kind p.2.name first :: (s.addMembers kind accepted decls).2) := by
  obtain ⟨documentation, decl⟩ := p
  simp only [addMembers, h]

/-- A member with a new name is accepted, and its annotation is reported. -/
theorem addMembers_new {accepted : OrderedMap String Member} {p : Option String × MemberDecl}
    (h : accepted.get? p.2.name.text = none) (decls : List (Option String × MemberDecl)) :
    let read := s.memberType p.2.name.text p.2.type
    let members := s.addMembers kind
      (accepted.insert p.2.name.text ⟨⟨⟨s.file, p.2.range⟩, p.1⟩, read.1⟩) decls
    s.addMembers kind accepted (p :: decls) = (members.1, read.2 ++ members.2) := by
  obtain ⟨documentation, decl⟩ := p
  simp only [addMembers, h]

theorem addMembers_append (accepted : OrderedMap String Member)
    (decls decls' : List (Option String × MemberDecl)) :
    (s.addMembers kind accepted (decls ++ decls')).1 =
      (s.addMembers kind (s.addMembers kind accepted decls).1 decls').1 := by
  induction decls generalizing accepted with
  | nil => rfl
  | cons p decls ih =>
    rw [List.cons_append]
    cases hget : accepted.get? p.2.name.text with
    | some first => rw [addMembers_taken hget, addMembers_taken hget, ih]
    | none => rw [addMembers_new hget, addMembers_new hget, ih]

theorem keys_addMembers_singleton (accepted : OrderedMap String Member)
    (p : Option String × MemberDecl) :
    (s.addMembers kind accepted [p]).1.keys =
      if p.2.name.text ∈ accepted.keys then accepted.keys
      else accepted.keys ++ [p.2.name.text] := by
  cases hget : accepted.get? p.2.name.text with
  | some first =>
    rw [addMembers_taken hget, if_pos (OrderedMap.mem_keys_of_get? hget)]
    rfl
  | none =>
    rw [addMembers_new hget]
    exact OrderedMap.keys_insert accepted p.2.name.text _

theorem keys_addMembers (decls : List (Option String × MemberDecl)) :
    (s.addMembers kind .empty decls).1.keys = (decls.map (·.2.name.text)).eraseDups := by
  induction decls using List.reverseRecOn with
  | nil => rfl
  | append_singleton decls p ih =>
    rw [addMembers_append, keys_addMembers_singleton, ih, List.map_append, List.map_singleton,
      eraseDups_concat]
    simp only [List.mem_eraseDups]

theorem keepsFirst_addMembers (decls : List (Option String × MemberDecl)) :
    s.KeepsFirst decls (s.addMembers kind .empty decls).1 := by
  refine ⟨keys_addMembers decls, fun key => ?_⟩
  rw [get?_addMembers, OrderedMap.get?_empty, Option.none_or]
  cases decls.find? (·.2.name.text == key) with
  | none => exact .none
  | some p => exact .some ⟨rfl, rfl, _, reads_memberType p.2.name.text p.2.type⟩

/-- **Each member is reported as the members before it demand.** -/
theorem memberReports_addMembers (before decls : List (Option String × MemberDecl)) :
    s.MemberReports kind (before.map Prod.snd) (decls.map Prod.snd)
      (s.addMembers kind (s.addMembers kind .empty before).1 decls).2 := by
  induction decls generalizing before with
  | nil => exact .nil _
  | cons p decls ih =>
    -- what is accepted is the table of `before`, so a look-up in it is one in `before`
    have hrest := ih (before ++ [p])
    have hget := s.get?_addMembers kind before .empty p.2.name.text
    rw [addMembers_append, List.map_append, List.map_singleton] at hrest
    rw [OrderedMap.get?_empty, Option.none_or] at hget
    have hbefore : (before.map Prod.snd).find? (·.name.text == p.2.name.text) =
        (before.find? (·.2.name.text == p.2.name.text)).map Prod.snd := List.find?_map
    cases hfind : before.find? (·.2.name.text == p.2.name.text) with
    | some first =>
      rw [hfind] at hget hbefore
      rw [addMembers_taken hget] at hrest ⊢
      exact .repeated hbefore hrest
    | none =>
      rw [hfind] at hget hbefore
      rw [addMembers_new hget] at hrest ⊢
      exact .kept hbefore (reads_memberType p.2.name.text p.2.type) hrest

end

/-! ## Declarations -/

/-- **First members are kept, and all others are reported.** The table of a struct holds the first
field of each name, that of a func the first parameter of each name, without documentation. Each
member that repeats a name is reported with a pointer to the first, and each member that is kept if
its type is not known, in the order in which they are declared; after the parameters, the return
value of a func if its type is declared and not known. -/
theorem first_members_are_kept (s : IndexScope) :
    (∀ decl : StructDecl,
      s.KeepsFirst (decl.fields.map fun f => (f.documentation, f.toMemberDecl))
        (s.structDef decl).1.fields ∧
      s.MemberReports .field [] (decl.fields.map (·.toMemberDecl)) (s.structDef decl).2) ∧
    ∀ decl : FuncDecl,
      s.KeepsFirst (decl.params.map fun p => (none, p)) (s.funcDef decl).1.params ∧
      ∃ ofParams ofReturns, (s.funcDef decl).2 = ofParams ++ ofReturns ∧
        s.MemberReports .parameter [] decl.params ofParams ∧
        match decl.returns with
        | none => (s.funcDef decl).1.returns = none ∧ ofReturns = []
        | some type => s.Reads (returnValue decl) type (s.funcDef decl).1.returns ofReturns := by
  constructor
  · intro decl
    let decls := decl.fields.map fun f => (f.documentation, f.toMemberDecl)
    have hreports : s.MemberReports .field [] (decls.map Prod.snd) (s.structDef decl).2 :=
      memberReports_addMembers [] decls
    rw [List.map_map] at hreports
    exact ⟨keepsFirst_addMembers decls, hreports⟩
  · intro decl
    let decls : List (Option String × MemberDecl) := decl.params.map fun p => (none, p)
    have hdecls : decls.map Prod.snd = decl.params := List.map_map.trans (List.map_id _)
    have hreports : s.MemberReports .parameter [] (decls.map Prod.snd)
        (s.addMembers .parameter .empty decls).2 := memberReports_addMembers [] decls
    rw [hdecls] at hreports
    refine ⟨keepsFirst_addMembers decls, _, (s.returnType decl).2, rfl, hreports, ?_⟩
    have hreturns : (s.funcDef decl).1.returns = (s.returnType decl).1 := rfl
    rw [hreturns]
    unfold returnType
    cases decl.returns with
    | none => exact ⟨rfl, rfl⟩
    | some type => exact reads_memberType (returnValue decl) type

/-- `struct S { x: int, x: Missing, y: Missing }`: the second `x` is reported by its name only. -/
example :
    let field (name type : String) : FieldDecl :=
      { name := { text := name }, type := .named { name := ⟨[type]⟩ } }
    let x : FieldDecl := { name := { text := "x" }, type := .primitive .int {} }
    let s : IndexScope := { config := {}, types := .empty, imports := .ofList [], file := ⟨0⟩ }
    let decl : StructDecl :=
      { name := { text := "S" }, fields := [x, field "x" "Missing", field "y" "Missing"] }
    (s.structDef decl).2.map (·.message) =
      ["field x was already defined", "could not resolve type of y"] := by
  decide

end IndexScope

end NameScope
