import NameScope.Diagnostic.Basic
import NameScope.Script.WrittenName

/-!
# Walks that link

A walk links the names of a tree in order and stops at the first name that refuses its link. Either
way it gives the tree back, with all links made so far: `node` is there whatever `outcome` says.

**Results.** * `andThen_error`, `andThen_ok`: a walk that stopped leaves the rest as it was, any
other goes on with it; * `list_ok`.
-/
namespace NameScope

/-- What is left of a node after a walk over it. -/
structure Walk (ν : Type u) (α : Type v) where
  /-- The node, as far as it is linked. -/
  node : ν
  reports : List Diagnostic := []
  /-- What the walk computed, or why it stopped. -/
  outcome : Except LinkError α

namespace Walk

variable {ν μ : Type u} {α β γ : Type v}

/-- A walk over nothing that can be linked. -/
def done (node : ν) (value : α) : Walk ν α := { node, outcome := .ok value }

/-- Walks on over `rest`, unless the walk stopped. -/
def andThen (w : Walk ν α) (rest : μ) (next : α → Walk μ β) : Walk (ν × μ) β :=
  match w.outcome with
  | .error e => ⟨(w.node, rest), w.reports, .error e⟩
  | .ok value =>
    let after := next value
    ⟨(w.node, after.node), w.reports ++ after.reports, after.outcome⟩

/-- Puts the node into a larger one. -/
def mapNode (f : ν → μ) (w : Walk ν α) : Walk μ α := { w with node := f w.node }

/-- Changes what the walk computed. -/
def mapValue (f : α → β) (w : Walk ν α) : Walk ν β := { w with outcome := w.outcome.map f }

/-- Walks over the nodes of a list one after the other. -/
def list (f : ν → Walk ν α) : List ν → Walk (List ν) PUnit
  | [] => done [] ⟨⟩
  | n :: ns => ((f n).andThen ns fun _ => list f ns).mapNode fun (n, ns) => n :: ns

theorem andThen_error {w : Walk ν α} {e : LinkError} (h : w.outcome = .error e) (rest : μ)
    (next : α → Walk μ β) : w.andThen rest next = ⟨(w.node, rest), w.reports, .error e⟩ := by
  simp [andThen, h]

theorem andThen_ok {w : Walk ν α} {value : α} (h : w.outcome = .ok value) (rest : μ)
    (next : α → Walk μ β) :
    w.andThen rest next =
      ⟨(w.node, (next value).node), w.reports ++ (next value).reports, (next value).outcome⟩ := by
  simp [andThen, h]

theorem mapValue_andThen (w : Walk ν α) (f : α → β) (rest : μ) (next : β → Walk μ γ) :
    (w.mapValue f).andThen rest next = w.andThen rest fun value => next (f value) := by
  cases hw : w.outcome with
  | error e => simp [andThen, mapValue, hw, Except.map]
  | ok value => simp [andThen, mapValue, hw, Except.map]

/-- What the rest computes may be changed after the walk, too. -/
theorem andThen_eq_mapValue (w : Walk ν α) (rest : μ) {next : α → Walk μ γ}
    {next' : α → Walk μ β} {f : β → γ}
    (h : ∀ value, w.outcome = .ok value → next value = (next' value).mapValue f) :
    w.andThen rest next = (w.andThen rest next').mapValue f := by
  cases hw : w.outcome with
  | error e =>
    rw [andThen_error hw, andThen_error hw]
    rfl
  | ok value =>
    rw [andThen_ok hw, andThen_ok hw, h value hw]
    rfl

/-- Where no walk over a node stops, the nodes are walked over one by one. -/
theorem list_ok {f : ν → Walk ν α} {ns : List ν} (h : ∀ n ∈ ns, ∃ value, (f n).outcome = .ok value) :
    list f ns = ⟨ns.map fun n => (f n).node, ns.flatMap fun n => (f n).reports, .ok ⟨⟩⟩ := by
  induction ns with
  | nil => rfl
  | cons n ns ih =>
    obtain ⟨value, hvalue⟩ := h n List.mem_cons_self
    unfold list
    rw [andThen_ok hvalue, ih fun n hn => h n (List.mem_cons_of_mem _ hn)]
    rfl

end Walk

end NameScope
