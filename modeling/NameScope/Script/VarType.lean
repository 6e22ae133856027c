import NameScope.Name.Qualified

/-!
# Types of fields, parameters and expressions

A type is a primitive one, named by a keyword, or a struct, named by its qualified name. A type
that could not be found is no type; it is shown as `<unknown>`.

**Results.** * `ofKeyword?_keyword`: each keyword is read back.
-/
namespace NameScope

/-- The built-in types. -/
inductive Primitive where
  | int | bool | string | text | entity | ratio | col | pos | texture | player
  deriving DecidableEq, Repr, Inhabited

namespace Primitive

/-- All of them, in the order of the language. -/
def all : List Primitive :=
  [.int, .bool, .string, .text, .entity, .ratio, .col, .pos, .texture, .player]

def keyword : Primitive → String
  | .int => "int"
  | .bool => "bool"
  | .string => "string"
  | .text => "text"
  | .entity => "entity"
  | .ratio => "ratio"
  | .col => "col"
  | .pos => "pos"
  | .texture => "texture"
  | .player => "player"

def ofKeyword? (keyword : String) : Option Primitive := all.find? (·.keyword == keyword)

theorem ofKeyword?_keyword (p : Primitive) : ofKeyword? p.keyword = some p := by
  cases p <;> decide

end Primitive

/-- A known type. -/
inductive VarType where
  | primitive (kind : Primitive)
  | struct (name : QualifiedName)
  deriving DecidableEq, Repr, Inhabited

namespace VarType

def text : VarType → String
  | .primitive kind => kind.keyword
  | .struct name => name.text

/-- The name of a struct type. -/
def struct? : VarType → Option QualifiedName
  | .struct name => some name
  | .primitive _ => none

/-- A type that may be unknown. -/
def render : Option VarType → String
  | some type => type.text
  | none => "<unknown>"

end VarType

end NameScope
