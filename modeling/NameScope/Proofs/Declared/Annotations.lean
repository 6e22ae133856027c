import NameScope.Proofs.Declared.Located

/-!
# Annotations and what indexing reports of them

The annotations of a script are listed in the order of its fields, parameters and return values
(`Script.annotated`), each with the mark whether it belongs to a member that repeats an earlier
name. Indexing looks up those without the mark and reports each that does not mean exactly one
type. Of a member with the mark it reports the name and never looks at the annotation.

* `filter_addMembers`: the members of one declaration, by induction with the names met so far;
* `filter_addDecls`, `PackageIndex.filter_add`: all declarations, repeated ones included.
-/
namespace NameScope

/-- The report of a name that does not mean exactly one thing. -/
def Diagnostic.isLookupError (d : Diagnostic) : Bool :=
  d.code == some "E0001" || d.code == some "E0002" || d.code == some "E0003"

theorem Lookup.isLookupError_of_report? [Matched α] {l : Lookup α} {config : Config}
    {file : FileId} {kind : ReferenceKind} {name : String} {range : Range} {d : Diagnostic}
    (h : l.report? config file kind name range = some d) : d.isLookupError = true := by
  obtain ⟨⟨error, related⟩, herror, rfl⟩ := Option.map_eq_some_iff.1 h
  rcases l with (_ | ⟨a, _ | ⟨b, as⟩⟩) | (_ | ⟨a, as⟩)
  · cases herror
    rfl
  · cases herror
  · cases herror
    cases kind <;> rfl
  · cases herror
    rfl
  · cases herror
    rfl

/-! ## The annotations of a script -/

/-- A field, a parameter or a return value with its annotation. -/
structure Annotated where
  /-- What is annotated, as reports call it. -/
  member : String
  type : TypeRef
  /-- It is a field or a parameter, and an earlier one has its name. -/
  repeated : Bool := false

/-- The annotations of members that come after members of the names `earlier`. -/
def memberAnnotations (earlier : List String) : List MemberDecl → List Annotated
  | [] => []
  | decl :: decls =>
    { member := decl.name.text
      type := decl.type
      repeated := decide (decl.name.text ∈ earlier) } ::
      memberAnnotations (decl.name.text :: earlier) decls

def StructDecl.annotated (d : StructDecl) : List Annotated :=
  memberAnnotations [] (d.fields.map (·.toMemberDecl))

def FuncDecl.annotated (d : FuncDecl) : List Annotated :=
  memberAnnotations [] d.params ++
    (d.returns.map fun type => { member := IndexScope.returnValue d, type }).toList

/-- All annotations of a script. -/
def Script.annotated (s : Script) : List Annotated :=
  s.structs.flatMap StructDecl.annotated ++ s.funcs.flatMap FuncDecl.annotated

/-- What indexing reports of an annotation. It passes over that of a repeated member. -/
def Annotated.report? (s : IndexScope) (t : Annotated) : Option Diagnostic :=
  if t.repeated then none else s.types.report? s.config s.imports s.file t.member t.type

namespace IndexScope

variable {s : IndexScope}

/-! ## One declaration -/

theorem filter_memberType (member : String) (type : TypeRef) :
    (s.memberType member type).2.filter Diagnostic.isLookupError =
      (s.types.report? s.config s.imports s.file member type).toList :=
  List.filter_eq_self.2 fun _ hd => Lookup.isLookupError_of_report? (Option.mem_toList.1 hd)

/-- The members met so far are accepted under just the names of `earlier`. -/
theorem filter_addMembers {kind : MemberKind} (decls : List (Option String × MemberDecl))
    {earlier : List String} {accepted : OrderedMap String Member}
    (h : ∀ key, key ∈ earlier ↔ (accepted.get? key).isSome = true) :
    (s.addMembers kind accepted decls).2.filter Diagnostic.isLookupError =
      (memberAnnotations earlier (decls.map Prod.snd)).filterMap (·.report? s) := by
  induction decls generalizing earlier accepted with
  | nil => rfl
  | cons p decls ih =>
    obtain ⟨documentation, decl⟩ := p
    have htaken := h decl.name.text
    unfold addMembers
    simp only [List.map_cons, memberAnnotations]
    cases hget : accepted.get? decl.name.text with
    | some first =>
      rw [hget] at htaken
      have hmem : decl.name.text ∈ earlier := htaken.2 rfl
      have hnext : ∀ key, key ∈ decl.name.text :: earlier ↔ (accepted.get? key).isSome = true := by
        intro key
        rw [List.mem_cons, ← h key, or_iff_right_of_imp]
        rintro rfl
        exact hmem
      have hname : (s.duplicateMember kind decl.name first).isLookupError = false := rfl
      rw [List.filterMap_cons_none (by simp [Annotated.report?, hmem]), ← ih hnext]
      exact List.filter_cons_of_neg (by simp [hname])
    | none =>
      rw [hget] at htaken
      have hmem : decl.name.text ∉ earlier := fun hm => nomatch htaken.1 hm
      let member : Member :=
        ⟨⟨⟨s.file, decl.range⟩, documentation⟩, (s.memberType decl.name.text decl.type).1⟩
      have hnext : ∀ key, key ∈ decl.name.text :: earlier ↔
          ((accepted.insert decl.name.text member).get? key).isSome = true := by
        intro key
        rw [List.mem_cons, h key, OrderedMap.get?_insert]
        by_cases hkey : decl.name.text = key
        · simp [hkey]
        · simp [hkey, Ne.symm hkey]
      have hreport : Annotated.report? s ⟨decl.name.text, decl.type, decide
          (decl.name.text ∈ earlier)⟩ =
          s.types.report? s.config s.imports s.file decl.name.text decl.type := by
        simp [Annotated.report?, hmem]
      rw [List.filterMap_eq_flatMap_toList, List.flatMap_cons, ← List.filterMap_eq_flatMap_toList,
        hreport, List.filter_append, filter_memberType, ← ih hnext]

theorem filter_allMembers (kind : MemberKind) (decls : List (Option String × MemberDecl)) :
    (s.addMembers kind .empty decls).2.filter Diagnostic.isLookupError =
      (memberAnnotations [] (decls.map Prod.snd)).filterMap (·.report? s) :=
  filter_addMembers decls fun key => by simp

theorem filter_structDef (decl : StructDecl) :
    (s.structDef decl).2.filter Diagnostic.isLookupError =
      decl.annotated.filterMap (·.report? s) := by
  have hmembers := filter_allMembers (s := s) .field
    (decl.fields.map fun f => (f.documentation, f.toMemberDecl))
  rw [List.map_map] at hmembers
  exact hmembers

theorem filter_returnType (decl : FuncDecl) :
    (s.returnType decl).2.filter Diagnostic.isLookupError =
      (decl.returns.map fun type => (⟨returnValue decl, type, false⟩ : Annotated)).toList.filterMap
        (·.report? s) := by
  unfold returnType
  cases decl.returns with
  | none => rfl
  | some type =>
    refine (filter_memberType _ type).trans ?_
    simp only [Option.map_some, Option.toList_some, List.filterMap_cons, List.filterMap_nil,
      Annotated.report?]
    cases s.types.report? s.config s.imports s.file (returnValue decl) type <;> rfl

theorem filter_funcDef (decl : FuncDecl) :
    (s.funcDef decl).2.filter Diagnostic.isLookupError =
      decl.annotated.filterMap (·.report? s) := by
  have hmembers := filter_allMembers (s := s) .parameter (decl.params.map fun p => (none, p))
  have hsame : (Prod.snd ∘ fun p : MemberDecl => ((none : Option String), p)) = id := rfl
  rw [List.map_map, hsame, List.map_id] at hmembers
  unfold FuncDecl.annotated
  rw [List.filterMap_append, ← hmembers]
  exact (List.filter_append _ _).trans (congrArg _ (filter_returnType decl))

/-! ## All declarations -/

/-- Whether a declaration stands or repeats a name, its annotations are reported. -/
theorem filter_addDecls {δ ι : Type} {kind : DeclKind} {package : QualifiedName}
    {name : ι → Ident} {define : ι → δ × List Diagnostic} {place : δ → Target}
    {annotated : ι → List Annotated}
    (h : ∀ decl, (define decl).2.filter Diagnostic.isLookupError =
      (annotated decl).filterMap (·.report? s)) (decls : List ι) {table : OrderedMap String δ} :
    (s.addDecls kind package name define place table decls).2.filter Diagnostic.isLookupError =
      (decls.flatMap annotated).filterMap (·.report? s) := by
  induction decls generalizing table with
  | nil => rfl
  | cons decl decls ih =>
    have hrepeat : ∀ first, (s.duplicateDecl? kind package (name decl) first).toList.filter
        Diagnostic.isLookupError = [] := by
      intro first
      refine List.filter_eq_nil_iff.2 fun d hd => ?_
      obtain ⟨first, -, hd⟩ := Option.bind_eq_some_iff.1 (Option.mem_toList.1 hd)
      obtain ⟨severity, -, hd⟩ := Option.bind_eq_some_iff.1 hd
      cases hd
      exact Bool.false_ne_true
    simp only [addDecls, List.filter_append, List.flatMap_cons, List.filterMap_append, h, hrepeat,
      ih, List.append_nil]

end IndexScope

/-- **The look-up errors of indexing** are those of the annotations, in their order, whatever the
index of the package holds already. -/
theorem PackageIndex.filter_add (config : Config) (types : TypeIndex) (index : PackageIndex)
    (script : Script) :
    (index.add config types script).2.filter Diagnostic.isLookupError =
      script.annotated.filterMap (·.report? (.ofScript config types script)) := by
  unfold Script.annotated
  simp only [add, IndexScope.addStructs_eq, IndexScope.addFuncs_eq, List.filter_append,
    List.filterMap_append, IndexScope.filter_addDecls IndexScope.filter_structDef,
    IndexScope.filter_addDecls IndexScope.filter_funcDef]

end NameScope
