import NameScope.Lookup.Report
import NameScope.Lookup.Search

/-!
# Resolving names

The three ways to resolve a written name: as a func, as a struct, and as a type. Each looks the
name up and reports to a log; the first two link the name when exactly one declaration matches.
A name that has a target already is looked up and reported like any other, and then not linked.
-/
namespace NameScope

/-- The target of the only match. -/
def Lookup.target? [Matched α] (l : Lookup α) : Option Target := l.single?.bind Matched.target

/-- A match that has a place is linked to, if it is the only one. -/
theorem Lookup.exists_target?_iff [Matched α] (h : ∀ m : α, ∃ t, Matched.target m = some t)
    (l : Lookup α) : (∃ t, l.target? = some t) ↔ l.alternatives.length = 1 := by
  rw [← l.isResolved_iff_length, l.isResolved_iff, Option.isSome_iff_exists]
  unfold target?
  constructor
  · rintro ⟨t, ht⟩
    obtain ⟨m, hm, -⟩ := Option.bind_eq_some_iff.1 ht
    exact ⟨m, hm⟩
  · rintro ⟨m, hm⟩
    obtain ⟨t, ht⟩ := h m
    exact ⟨t, Option.bind_eq_some_iff.2 ⟨m, hm, ht⟩⟩

/-- Links a name to the only match, if there is one. -/
def Lookup.link [Matched α] (l : Lookup α) (name : WrittenName) : Except LinkError WrittenName :=
  match l.target? with
  | some target => name.link target
  | none => .ok name

/-- What is left after an attempt to resolve a name, whether it ended well or not. -/
structure Attempt (α : Type u) where
  /-- The name, linked or as it was. -/
  name : WrittenName
  log : DiagnosticLog
  outcome : Except LinkError (Lookup α)

/-- Reports a look-up of `name`, then links it. -/
def Lookup.attempt [Matched α] (config : Config) (kind : ReferenceKind) (l : Lookup α)
    (name : WrittenName) (log : DiagnosticLog) : Attempt α :=
  let log := log.addAll (l.report? config log.file kind name.name.text name.range).toList
  match l.link name with
  | .ok linked => ⟨linked, log, .ok l⟩
  | .error e => ⟨name, log, .error e⟩

namespace Registry

/-- The funcs that a name may mean. -/
def lookupFunc (r : Registry) (imports : ImportSet) (name : QualifiedName) : Lookup FuncMatch :=
  (r.lookup imports ⟨.func, name⟩).filterMap Candidate.func?

/-- The structs that a name may mean. -/
def lookupStruct (r : Registry) (imports : ImportSet) (name : QualifiedName) :
    Lookup StructMatch :=
  (r.lookup imports ⟨.struct, name⟩).filterMap Candidate.struct?

def resolveFunc (r : Registry) (config : Config) (imports : ImportSet) (name : WrittenName)
    (log : DiagnosticLog) : Attempt FuncMatch :=
  (r.lookupFunc imports name.name).attempt config .func name log

def resolveStruct (r : Registry) (config : Config) (imports : ImportSet) (name : WrittenName)
    (log : DiagnosticLog) : Attempt StructMatch :=
  (r.lookupStruct imports name.name).attempt config .struct name log

end Registry

namespace TypeIndex

/-- The types that a name may mean. -/
def lookupType (types : TypeIndex) (imports : ImportSet) (name : QualifiedName) :
    Lookup TypeMatch :=
  (types.lookup imports ⟨.type, name⟩).filterMap Candidate.type?

/-- The types that an annotation may mean. A primitive one means itself and needs no import. -/
def lookupRef (types : TypeIndex) (imports : ImportSet) : TypeRef → Lookup TypeMatch
  | .primitive kind _ => .imported [⟨⟨.primitive kind, none⟩, []⟩]
  | .named name => types.lookupType imports name.name

/-- What is reported of the annotation of `member`. -/
def report? (types : TypeIndex) (config : Config) (imports : ImportSet) (file : FileId)
    (member : String) (type : TypeRef) : Option Diagnostic :=
  (types.lookupRef imports type).report? config file .typeOf member type.range

/-- Resolves the annotation of `member`, without linking it. -/
def resolveType (types : TypeIndex) (config : Config) (imports : ImportSet) (member : String)
    (type : TypeRef) (log : DiagnosticLog) : Lookup TypeMatch × DiagnosticLog :=
  (types.lookupRef imports type,
    log.addAll (types.report? config imports log.file member type).toList)

/-- The type of an annotation, if there is exactly one. -/
def typeOf (types : TypeIndex) (imports : ImportSet) (type : TypeRef) : Option VarType :=
  (types.lookupRef imports type).single?.map (·.type)

end TypeIndex

end NameScope
