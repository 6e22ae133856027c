import NameScope.Config
import NameScope.Data.Basic
import NameScope.Diagnostic.Basic
import NameScope.Script.VarType

/-!
# Reading and writing values as data

Each kind of value that leaves the library has a written form and a reader. A structure is written
as a record of its fields; its reader also takes a list of them, ignores members it does not know,
and treats a missing optional field as absent. Settings may leave out any field.
-/
namespace NameScope

class Codec (α : Type u) where
  encode : α → Data
  decode : Data → Option α

export Codec (encode decode)

namespace Codec

/-- A field that must be there. -/
def required [Codec α] (field : Option Data) : Option α := field.bind decode

/-- A field that is `missing` when it is not there. -/
def withDefault [Codec α] (missing : α) : Option Data → Option α
  | none => some missing
  | some d => decode d

instance : Codec UInt32 where
  encode n := .integer n.toNat
  decode
    | .integer n => if 0 ≤ n ∧ n < UInt32.size then some (UInt32.ofNat n.toNat) else none
    | _ => none

instance : Codec UInt64 where
  encode n := .integer n.toNat
  decode
    | .integer n => if 0 ≤ n ∧ n < UInt64.size then some (UInt64.ofNat n.toNat) else none
    | _ => none

instance : Codec Bool where
  encode := .bool
  decode
    | .bool b => some b
    | _ => none

instance : Codec String where
  encode := .text
  decode
    | .text s => some s
    | _ => none

/-- Null is the absent value. -/
instance [Codec α] : Codec (Option α) where
  encode
    | none => .null
    | some a => encode a
  decode
    | .null => some none
    | d => (decode d).map some

instance [Codec α] : Codec (List α) where
  encode as := .list (as.map encode)
  decode
    | .list items => items.mapM decode
    | _ => none

/-- Cases without content, by their names. -/
@[reducible] def ofCases (cases : List α) (name : α → String) : Codec α where
  encode a := .text (name a)
  decode d := d.caseName?.bind fun n => cases.find? fun a => name a == n

instance : Codec FileId where
  encode f := encode f.index
  decode d := (decode d).map FileId.mk

instance : Codec Position where
  encode p := .record [("line", encode p.line), ("character", encode p.character)]
  decode d := do
    let [line, character] ← d.fields? ["line", "character"] | none
    some ⟨← required line, ← required character⟩

instance : Codec Range where
  encode r := .record [("start", encode r.start), ("end", encode r.stop)]
  decode d := do
    let [start, stop] ← d.fields? ["start", "end"] | none
    some ⟨← required start, ← required stop⟩

instance : Codec Location where
  encode l := .record [("file", encode l.file), ("range", encode l.range)]
  decode d := do
    let [file, range] ← d.fields? ["file", "range"] | none
    some ⟨← required file, ← required range⟩

/-- The name of a severity in written data. -/
def severityName : Severity → String
  | .error => "Error"
  | .warning => "Warning"
  | .info => "Info"
  | .hint => "Hint"

instance : Codec Severity := ofCases [.error, .warning, .info, .hint] severityName

instance : Codec Related where
  encode r := .record [("location", encode r.location), ("message", encode r.message)]
  decode d := do
    let [location, message] ← d.fields? ["location", "message"] | none
    some ⟨← required location, ← required message⟩

instance : Codec Diagnostic where
  encode d := .record [
    ("file", encode d.file), ("range", encode d.range), ("severity", encode d.severity),
    ("code", encode d.code), ("message", encode d.message), ("related", encode d.related)]
  decode d := do
    let [file, range, severity, code, message, related] ←
      d.fields? ["file", "range", "severity", "code", "message", "related"] | none
    some ⟨← required file, ← required range, ← required severity, ← withDefault none code,
      ← required message, ← required related⟩

/-- The name of a primitive type in written data. -/
def primitiveName : Primitive → String
  | .int => "Int"
  | .bool => "Bool"
  | .string => "String"
  | .text => "Text"
  | .entity => "Entity"
  | .ratio => "Ratio"
  | .col => "Col"
  | .pos => "Pos"
  | .texture => "Texture"
  | .player => "Player"

instance : Codec Primitive := ofCases Primitive.all primitiveName

/-- The segments are not checked. -/
instance : Codec QualifiedName where
  encode n := .record [("segments", encode n.segments)]
  decode d := do
    let [segments] ← d.fields? ["segments"] | none
    some ⟨← required segments⟩

instance : Codec VarType where
  encode
    | .primitive kind => .record [("Primitive", encode kind)]
    | .struct name => .record [("Struct", encode name)]
  decode
    | .record [("Primitive", kind)] => (decode kind).map VarType.primitive
    | .record [("Struct", name)] => (decode name).map VarType.struct
    | _ => none

instance : Codec BundleName where
  encode b := encode b.text
  decode d := (decode d).map BundleName.mk

/-- The name of a policy in written data. -/
def policyName : DuplicatePolicy → String
  | .error => "error"
  | .warning => "warning"
  | .allow => "allow"

instance : Codec DuplicatePolicy := ofCases [.error, .warning, .allow] policyName

/-- A missing field keeps its default. -/
instance : Codec Config where
  encode c := .record [
    ("duplicate_declarations", encode c.duplicates), ("implicit_self_import", encode c.selfImport),
    ("max_suggestions", encode c.maxSuggestions)]
  decode d := do
    let [duplicates, selfImport, maxSuggestions] ← d.fieldsUpTo?
      ["duplicate_declarations", "implicit_self_import", "max_suggestions"] | none
    let initial : Config := {}
    some ⟨← withDefault initial.duplicates duplicates, ← withDefault initial.selfImport selfImport,
      ← withDefault initial.maxSuggestions maxSuggestions⟩

end Codec

end NameScope
