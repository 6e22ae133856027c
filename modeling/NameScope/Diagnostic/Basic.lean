import NameScope.Diagnostic.SemanticError
import NameScope.Diagnostic.Severity
import NameScope.Source.Position

/-!
# Diagnostics

A diagnostic is a message at a range of one file, with other places that belong to it. Faults in a
user's script are diagnostics; a log gathers those of one pass over one script, in order.
-/
namespace NameScope

/-- A second place that a diagnostic points to. -/
structure Related where
  location : Location
  message : String
  deriving DecidableEq, Repr, Inhabited

structure Diagnostic where
  file : FileId
  range : Range
  severity : Severity
  code : Option String := none
  message : String
  related : List Related := []
  deriving DecidableEq, Repr, Inhabited

namespace Diagnostic

/-- The report of a semantic error. -/
def ofError (file : FileId) (range : Range) (severity : Severity) (error : SemanticError)
    (related : List Related := []) : Diagnostic :=
  { file, range, severity, code := some error.code, message := error.message, related }

/-- `file#N:line:character: severity[code]: message`. -/
def text? (d : Diagnostic) : Option String :=
  d.range.start.text?.map fun place =>
    d.file.text ++ ":" ++ place ++ ": " ++ d.severity.text ++
      (match d.code with
        | some code => "[" ++ code ++ "]"
        | none => "") ++
      ": " ++ d.message

def isError (d : Diagnostic) : Bool := d.severity == .error

end Diagnostic

/-- The diagnostics of one pass over the script of `file`. -/
structure DiagnosticLog where
  file : FileId
  entries : List Diagnostic := []
  deriving DecidableEq, Repr, Inhabited

namespace DiagnosticLog

def add (l : DiagnosticLog) (d : Diagnostic) : DiagnosticLog :=
  { l with entries := l.entries ++ [d] }

def addAll (l : DiagnosticLog) (ds : List Diagnostic) : DiagnosticLog :=
  { l with entries := l.entries ++ ds }

/-- Adds the report of a semantic error in the log's file. -/
def report (l : DiagnosticLog) (range : Range) (severity : Severity) (error : SemanticError)
    (related : List Related := []) : DiagnosticLog :=
  l.add (.ofError l.file range severity error related)

def size (l : DiagnosticLog) : Nat := l.entries.length

def isEmpty (l : DiagnosticLog) : Bool := l.entries.isEmpty

/-- The number of entries of a severity. -/
def count (l : DiagnosticLog) (severity : Severity) : Nat :=
  l.entries.countP (·.severity == severity)

def hasErrors (l : DiagnosticLog) : Bool := l.entries.any Diagnostic.isError

/-- All entries, and the log without them. -/
def take (l : DiagnosticLog) : List Diagnostic × DiagnosticLog := (l.entries, ⟨l.file, []⟩)

@[simp] theorem entries_add (l : DiagnosticLog) (d : Diagnostic) :
    (l.add d).entries = l.entries ++ [d] := rfl

@[simp] theorem entries_addAll (l : DiagnosticLog) (ds : List Diagnostic) :
    (l.addAll ds).entries = l.entries ++ ds := rfl

@[simp] theorem addAll_nil (l : DiagnosticLog) : l.addAll [] = l := by simp [addAll]

@[simp] theorem file_add (l : DiagnosticLog) (d : Diagnostic) : (l.add d).file = l.file := rfl

@[simp] theorem file_addAll (l : DiagnosticLog) (ds : List Diagnostic) :
    (l.addAll ds).file = l.file := rfl

end DiagnosticLog

end NameScope
