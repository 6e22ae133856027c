import NameScope.Config
import NameScope.Diagnostic.Basic
import NameScope.Lookup.Basic
import NameScope.Lookup.Candidate

/-!
# How a look-up is reported

| imported | not imported | report |
|---|---|---|
| exactly one | – | none |
| none | none | unresolved |
| none | some | out of scope, with suggestions |
| several | – | ambiguous |

At most one diagnostic is made, always an error.
-/
namespace NameScope

/-- The places where the alternatives are declared. -/
def Alternative.related [Matched α] (alternatives : List (Alternative α)) : List Related :=
  alternatives.filterMap fun a =>
    (Matched.target a.value).map fun target =>
      ⟨target.location, "candidate: " ++ Matched.qualifiedText a.value⟩

/-- The error for several alternatives. -/
def SemanticError.ofAlternatives (kind : ReferenceKind) (name : String)
    (candidates : List String) : SemanticError :=
  match kind with
  | .typeOf => .ambiguousType name candidates
  | kind => .ambiguous kind name candidates

/-- The error of a look-up, with the places that belong to it. -/
def Lookup.error? [Matched α] (config : Config) (kind : ReferenceKind) (name : String) :
    Lookup α → Option (SemanticError × List Related)
  | .imported [] | .notImported [] => some (.unresolved kind name, [])
  | .imported [_] => none
  | .imported alternatives =>
    some (.ofAlternatives kind name (alternatives.map fun a => Matched.qualifiedText a.value),
      Alternative.related alternatives)
  | .notImported candidates =>
    let shown := candidates.take (config.shown candidates.length)
    some (.outOfScope kind name (shown.map (·.imports)) (candidates.length - shown.length),
      Alternative.related shown)

/-- The diagnostic of a look-up. -/
def Lookup.report? [Matched α] (config : Config) (file : FileId) (kind : ReferenceKind)
    (name : String) (range : Range) (l : Lookup α) : Option Diagnostic :=
  (l.error? config kind name).map fun (error, related) =>
    .ofError file range .error error related

/-- Nothing is reported exactly when the name is resolved. -/
theorem Lookup.report?_eq_none_iff [Matched α] (config : Config) (file : FileId)
    (kind : ReferenceKind) (name : String) (range : Range) (l : Lookup α) :
    l.report? config file kind name range = none ↔ l.isResolved = true := by
  rcases l with (_ | ⟨a, _ | ⟨b, as⟩⟩) | (_ | ⟨a, as⟩) <;>
    simp [report?, error?, isResolved, alternatives]

end NameScope
