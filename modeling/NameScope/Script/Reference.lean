import NameScope.Script.Basic

/-!
# The references of a script

`Script.references` lists every place of a script that may be linked, in the order in which a
reader meets them: the annotations of the structs, then func by func its annotations and its body.
A callee comes before its arguments, a value before the name of its field, the name of a struct
literal before its fields, and each field name before the value given to it.

Editor queries and the statements about linking read a script through this list only.
-/
namespace NameScope

/-- A place that may be linked, with all that linking may change there. -/
inductive Reference where
  /-- The type of a field, a parameter or a return value. -/
  | typeRef (type : TypeRef)
  | identifier (ident : Identifier)
  | callee (ident : Identifier)
  /-- The name of a field after its value. -/
  | field (name : WrittenName)
  | structLit (name : WrittenName)
  /-- The name of a field in a struct literal. -/
  | init (name : WrittenName)
  deriving DecidableEq, Repr

namespace Reference

/-- What is linked; a primitive annotation has no name. -/
def name? : Reference → Option WrittenName
  | .typeRef (.primitive _ _) => none
  | .typeRef (.named name) => some name
  | .identifier ident => some ident.name
  | .callee ident => some ident.name
  | .field name => some name
  | .structLit name => some name
  | .init name => some name

def range : Reference → Range
  | .typeRef type => type.range
  | .identifier ident => ident.name.range
  | .callee ident => ident.name.range
  | .field name => name.range
  | .structLit name => name.range
  | .init name => name.range

def target (r : Reference) : Option Target := r.name?.bind (·.target)

end Reference

/-- The text on an identifier that is linked to `target`: the name, with its type if it is a
parameter or has one, and the documentation of the target below a rule. -/
def Identifier.describe (i : Identifier) (target : Target) : String :=
  let header :=
    if i.isLocal || i.type.isSome then
      "`" ++ i.name.name.text ++ ": " ++ VarType.render i.type ++ "`"
    else "`" ++ i.name.name.text ++ "`"
  match target.documentation with
  | some documentation => header ++ "\n\n---\n\n" ++ documentation
  | none => header

/-- What an editor shows of the target of a reference. -/
def Reference.documentation? : Reference → Option String
  | .identifier ident | .callee ident => ident.name.target.map ident.describe
  | r => r.target.bind (·.documentation)

mutual

/-- The references of an expression. -/
def Expr.references : Expr → List Reference
  | .identifier ident => [.identifier ident]
  | .call callee args _ => .callee callee :: Expr.argReferences args
  | .field value name => value.references ++ [.field name]
  | .structLit name inits _ => .structLit name :: Expr.initReferences inits
  | .constant _ => []

def Expr.argReferences : List Expr → List Reference
  | [] => []
  | e :: es => e.references ++ Expr.argReferences es

def Expr.initReferences : List (WrittenName × Expr) → List Reference
  | [] => []
  | (name, value) :: inits => .init name :: (value.references ++ Expr.initReferences inits)

end

theorem Expr.argReferences_eq_flatMap (es : List Expr) :
    Expr.argReferences es = es.flatMap Expr.references := by
  induction es with
  | nil => rfl
  | cons e es ih => simp [Expr.argReferences, ih]

theorem Expr.initReferences_eq_flatMap (inits : List (WrittenName × Expr)) :
    Expr.initReferences inits = inits.flatMap fun i => .init i.1 :: i.2.references := by
  induction inits with
  | nil => rfl
  | cons i inits ih => simp [Expr.initReferences, ih]

def StructDecl.references (d : StructDecl) : List Reference :=
  d.fields.map fun f => .typeRef f.type

/-- The references of a func's parameters and return value. -/
def FuncDecl.annotations (d : FuncDecl) : List Reference :=
  d.params.map (fun p => .typeRef p.type) ++ (d.returns.map Reference.typeRef).toList

def FuncDecl.references (d : FuncDecl) : List Reference :=
  d.annotations ++ d.body.flatMap Expr.references

/-- Every place that may be linked. -/
def Script.references (s : Script) : List Reference :=
  s.structs.flatMap StructDecl.references ++ s.funcs.flatMap FuncDecl.references

/-! ## What is among the references -/

theorem StructDecl.typeRef_field_mem {d : StructDecl} {field : FieldDecl} (h : field ∈ d.fields) :
    .typeRef field.type ∈ d.references :=
  List.mem_map.2 ⟨field, h, rfl⟩

theorem FuncDecl.typeRef_param_mem {d : FuncDecl} {param : MemberDecl} (h : param ∈ d.params) :
    .typeRef param.type ∈ d.annotations :=
  List.mem_append_left _ (List.mem_map.2 ⟨param, h, rfl⟩)

theorem FuncDecl.typeRef_returns_mem {d : FuncDecl} {type : TypeRef} (h : d.returns = some type) :
    .typeRef type ∈ d.annotations := by
  refine List.mem_append_right _ ?_
  rw [h]
  exact List.mem_singleton_self _

theorem FuncDecl.annotations_subset (d : FuncDecl) : d.annotations ⊆ d.references :=
  List.subset_append_left _ _

theorem Script.struct_references_subset {s : Script} {d : StructDecl} (h : d ∈ s.structs) :
    d.references ⊆ s.references :=
  fun _ hr => List.mem_append_left _ (List.mem_flatMap.2 ⟨d, h, hr⟩)

theorem Script.func_references_subset {s : Script} {d : FuncDecl} (h : d ∈ s.funcs) :
    d.references ⊆ s.references :=
  fun _ hr => List.mem_append_right _ (List.mem_flatMap.2 ⟨d, h, hr⟩)

end NameScope
