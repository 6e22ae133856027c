import NameScope.OrderedMap.Basic
import NameScope.Source.Path
import NameScope.Source.Position

/-!
# The files of a session

A file set gives each path a number and remembers the spelling that was seen first. Numbers count
up and are never given twice, not even after `forget`. Forgetting a file moves the last file into
its place.
-/
namespace NameScope

/-- The numbered paths of a session. -/
structure FileSet where
  /-- The number of each known path. -/
  ids : OrderedMap (List PathPart) FileId
  /-- The first spelling of each known path. -/
  paths : OrderedMap FileId String
  /-- The number that the next new path gets. -/
  next : UInt32

namespace FileSet

def empty : FileSet := ⟨.empty, .empty, 0⟩

instance : Inhabited FileSet := ⟨empty⟩

/-- The number of a path: the known one, or the next. There is no next one after `2 ^ 32 - 1` of
them were given. -/
def register? (s : FileSet) (path : String) : Option (FileId × FileSet) :=
  let parts := PathPart.ofPath path
  match s.ids.get? parts with
  | some id => some (id, s)
  | none =>
    if s.next.toNat + 1 < UInt32.size then
      let id : FileId := ⟨s.next⟩
      some (id, ⟨s.ids.insert parts id, s.paths.insert id path, s.next + 1⟩)
    else none

/-- The path of a file, as it was first spelled. -/
def path? (s : FileSet) (file : FileId) : Option String := s.paths.get? file

/-- The path of a file, or `file#N`. -/
def displayName (s : FileSet) (file : FileId) : String := (s.path? file).getD file.text

/-- Forgets a file; its number is not given again. -/
def forget (s : FileSet) (file : FileId) : FileSet :=
  match s.paths.get? file with
  | none => s
  | some path =>
    { s with paths := s.paths.swapErase file, ids := s.ids.swapErase (PathPart.ofPath path) }

/-- The number of known files. -/
def size (s : FileSet) : Nat := s.ids.size

def isEmpty (s : FileSet) : Bool := s.size == 0

/-- All known files. -/
def files (s : FileSet) : List FileId := s.paths.keys

end FileSet

end NameScope
