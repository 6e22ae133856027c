import NameScope.Declared.Session

/-!
# What indexing writes

A declaration is written to the table of its package, a member to the table of its declaration.
Tables only answer look-ups, so what is written is said by what the look-ups find afterwards.
-/
namespace NameScope

/-! ## Declarations -/

theorem OrderedMap.get?_declare {δ : Type} (policy : DuplicatePolicy)
    (table : OrderedMap String δ) (name key : String) (definition : δ) :
    (table.declare policy name definition).get? key =
      if name = key then
        some (if policy.severity?.isSome then (table.get? key).getD definition else definition)
      else table.get? key := by
  unfold declare
  by_cases hk : name = key
  · subst hk
    cases hget : table.get? name with
    | none => simp [get?_insert]
    | some old => cases policy.severity? <;> simp [get?_insert, hget]
  · rw [if_neg hk]
    split
    · rfl
    · rw [get?_insert, if_neg hk]

/-- Writes declarations one after the other. -/
def OrderedMap.declareAll {δ ε : Type} (policy : DuplicatePolicy) (name : ε → String)
    (define : ε → δ) (table : OrderedMap String δ) (decls : List ε) : OrderedMap String δ :=
  decls.foldl (fun table decl => table.declare policy (name decl) (define decl)) table

namespace IndexScope

theorem addStructs_fst (s : IndexScope) (package : QualifiedName)
    (table : OrderedMap String StructDef) (decls : List StructDecl) :
    (s.addStructs package table decls).1 =
      table.declareAll s.config.duplicates (·.name.text) (fun decl => (s.structDef decl).1)
        decls := by
  induction decls generalizing table with
  | nil => rfl
  | cons decl decls ih => exact ih _

theorem addFuncs_fst (s : IndexScope) (package : QualifiedName)
    (table : OrderedMap String FuncDef) (decls : List FuncDecl) :
    (s.addFuncs package table decls).1 =
      table.declareAll s.config.duplicates (·.name.text) (fun decl => (s.funcDef decl).1)
        decls := by
  induction decls generalizing table with
  | nil => rfl
  | cons decl decls ih => exact ih _

/-! ## Members -/

/-- Of the members of one name the first counts. It has the type of its annotation. -/
theorem get?_addMembers (s : IndexScope) (kind : MemberKind)
    (decls : List (Option String × MemberDecl)) (accepted : OrderedMap String Member)
    (key : String) :
    (s.addMembers kind accepted decls).1.get? key =
      (accepted.get? key).or ((decls.find? fun p => p.2.name.text == key).map fun p =>
        ⟨⟨⟨s.file, p.2.range⟩, p.1⟩, s.types.typeOf s.imports p.2.type⟩) := by
  induction decls generalizing accepted with
  | nil => simp [addMembers]
  | cons p decls ih =>
    obtain ⟨documentation, decl⟩ := p
    unfold addMembers
    cases hget : accepted.get? decl.name.text with
    | some first =>
      refine (ih accepted).trans ?_
      by_cases hkey : decl.name.text = key
      · rw [← hkey, hget]
        rfl
      · simp [hkey]
    | none =>
      refine (ih _).trans ?_
      rw [OrderedMap.get?_insert]
      by_cases hkey : decl.name.text = key
      · rw [if_pos hkey, ← hkey, hget]
        simp [memberType]
      · rw [if_neg hkey]
        simp [hkey]

theorem get?_fields (s : IndexScope) (decl : StructDecl) (key : String) :
    (s.structDef decl).1.fields.get? key =
      (decl.fields.find? fun f => f.name.text == key).map fun f =>
        ⟨⟨⟨s.file, f.range⟩, f.documentation⟩, s.types.typeOf s.imports f.type⟩ := by
  refine (s.get?_addMembers .field _ .empty key).trans ?_
  rw [List.find?_map, Option.map_map]
  rfl

theorem get?_params (s : IndexScope) (decl : FuncDecl) (key : String) :
    (s.funcDef decl).1.params.get? key =
      (decl.params.find? fun p => p.name.text == key).map fun p =>
        ⟨⟨⟨s.file, p.range⟩, none⟩, s.types.typeOf s.imports p.type⟩ := by
  refine (s.get?_addMembers .parameter _ .empty key).trans ?_
  rw [List.find?_map, Option.map_map]
  rfl

end IndexScope

/-! ## Scripts -/

/-- Indexing a script rewrites the index of its package only. -/
theorem Indexed.get?_addScript {config : Config} {types : TypeIndex} (r : Registry)
    (s : BundledScript) (id : PackageId) :
    (addScript config types r s).1.get? id =
      if s.id = id then
        some (((r.get? s.id).getD (.empty s.script.package)).add config types s.script).1
      else r.get? id :=
  Bundles.get?_insert r s.id id _

end NameScope
