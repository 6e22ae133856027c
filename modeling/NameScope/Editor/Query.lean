import NameScope.Script.Reference
import NameScope.Source.FileSet

/-!
# Editor queries on a linked script

Nothing is looked up here: all answers come from the targets that linking left in the script.
-/
namespace NameScope

namespace Reference

/-- Of two references, the later one if the earlier one covers it. -/
def inner (best next : Reference) : Reference :=
  if best.range.covers next.range then next else best

/-- The innermost of the references that contain a position. -/
def innermost (references : List Reference) (position : Position) : Option Reference :=
  match references.filter (·.range.contains position) with
  | [] => none
  | first :: others => some (others.foldl inner first)

end Reference

/-- What an editor shows on a reference. -/
structure Hover where
  /-- Markdown. -/
  contents : String
  range : Range
  deriving DecidableEq, Repr

/-- The way from a reference to its declaration. -/
structure Definition where
  origin : Range
  target : Location
  deriving DecidableEq, Repr

/-- A reference that can be clicked. -/
structure DocumentLink where
  range : Range
  target : Location
  tooltip : String
  deriving DecidableEq, Repr

namespace Script

/-- The innermost reference at a position. -/
def referenceAt (s : Script) (position : Position) : Option Reference :=
  Reference.innermost s.references position

/-- What to show at a position: nothing without a reference, a target, or documentation. -/
def hover (s : Script) (position : Position) : Option Hover := do
  let reference ← s.referenceAt position
  let contents ← reference.documentation?
  some { contents, range := reference.range }

/-- The declaration of the reference at a position. -/
def definition (s : Script) (position : Position) : Option Definition := do
  let reference ← s.referenceAt position
  let target ← reference.target
  some { origin := reference.range, target := target.location }

end Script

/-- The link of a reference to a target, whose start must have a displayed form. -/
def DocumentLink.make? (files : FileSet) (range : Range) (target : Location) :
    Option DocumentLink :=
  target.range.start.text?.map fun place =>
    { range, target, tooltip := "Go to " ++ files.displayName target.file ++ ":" ++ place }

/-- The links of all references that have a target. There is no answer if one of the targets
starts where no position can be displayed. -/
def Script.documentLinks? (s : Script) (files : FileSet) : Option (List DocumentLink) :=
  (s.references.filterMap fun r => r.target.map fun t => (r.range, t.location)).mapM
    fun (range, target) => DocumentLink.make? files range target

end NameScope
