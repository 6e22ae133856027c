import Mathlib.Data.List.Pairwise
import NameScope.Editor.Query

/-!
# Editor queries agree with each other

Hover and definition are read off the innermost reference at a position, document links off all
references with a target. Nothing is assumed of the script: its references may overlap, and any of
them may be linked.

Where no two references overlap, the innermost one at a position is the only one there
(`Reference.innermost_of_disjoint`), so that every link can be reached by its positions.

**Results.** * `editor_queries_agree`: what is hovered has a definition, a definition is among the
links, and without overlaps a link is the definition at each of its positions.
-/
namespace NameScope

/-! ## Ranges and positions -/

/-- A position that can be shown to a reader, who counts from one. -/
def Position.Displayable (p : Position) : Prop :=
  p.line.toNat + 1 < UInt32.size ∧ p.character.toNat + 1 < UInt32.size

instance (p : Position) : Decidable p.Displayable := inferInstanceAs (Decidable (_ ∧ _))

theorem Position.exists_text? {p : Position} (h : p.Displayable) : ∃ text, p.text? = some text := by
  unfold text? oneBased?
  rw [if_pos h.1, if_pos h.2]
  exact ⟨_, rfl⟩

/-- No position is in both ranges. -/
def Range.Disjoint (a b : Range) : Prop :=
  ∀ p, ¬ (a.contains p = true ∧ b.contains p = true)

/-- A range that stops where another one starts, or before. -/
theorem Range.disjoint_of_le {a b : Range} (h : a.stop ≤ b.start) : a.Disjoint b := by
  intro p ⟨ha, hb⟩
  rw [contains_iff_rank] at ha hb
  have hle := (Position.le_iff_rank a.stop b.start).1 h
  omega

/-! ## The innermost reference -/

namespace Reference

/-- The innermost of some references is one of them. -/
theorem foldl_inner_mem (best : Reference) (others : List Reference) :
    others.foldl inner best ∈ best :: others := by
  induction others generalizing best with
  | nil => exact List.mem_singleton_self best
  | cons next others ih =>
    have hinner : inner best next = best ∨ inner best next = next := by
      unfold inner
      split
      · exact .inr rfl
      · exact .inl rfl
    have hmem : others.foldl inner (inner best next) ∈ inner best next :: others := ih _
    rw [List.foldl_cons]
    rcases List.mem_cons.1 hmem with h | h
    · rw [h]
      rcases hinner with h | h <;> simp [h]
    · exact List.mem_cons_of_mem _ (List.mem_cons_of_mem _ h)

theorem mem_of_innermost {references : List Reference} {position : Position}
    {r : Reference} (h : innermost references position = some r) : r ∈ references := by
  unfold innermost at h
  split at h
  · cases h
  · rename_i first others hfilter
    cases h
    have hmem := foldl_inner_mem first others
    rw [← hfilter] at hmem
    exact (List.mem_filter.1 hmem).1

/-- Among references that do not overlap, the innermost at a position is any that contains it. -/
theorem innermost_of_disjoint {references : List Reference}
    (h : references.Pairwise fun r r' => r.range.Disjoint r'.range) {r : Reference}
    (hr : r ∈ references) {position : Position} (hp : r.range.contains position = true) :
    innermost references position = some r := by
  have hmem : r ∈ references.filter (·.range.contains position) := List.mem_filter.2 ⟨hr, hp⟩
  have hhere : ∀ r' ∈ references.filter (·.range.contains position),
      r'.range.contains position = true := fun r' hr' => (List.mem_filter.1 hr').2
  have hapart := h.sublist (List.filter_sublist (p := (·.range.contains position)))
  unfold innermost
  generalize references.filter (·.range.contains position) = here at hmem hhere hapart
  rcases here with _ | ⟨a, _ | ⟨b, others⟩⟩
  · cases hmem
  · rw [List.mem_singleton.1 hmem]
    rfl
  · have hab := (List.pairwise_cons.1 hapart).1 b List.mem_cons_self
    exact absurd ⟨hhere a List.mem_cons_self, hhere b (List.mem_cons_of_mem _ List.mem_cons_self)⟩
      (hab position)

/-- Documentation is that of a target, also where an identifier puts a text of its own before
it. -/
theorem exists_target_of_documentation? {r : Reference} {text : String}
    (h : r.documentation? = some text) : ∃ target, r.target = some target := by
  cases r with
  | identifier ident | callee ident =>
    obtain ⟨target, htarget, -⟩ := Option.map_eq_some_iff.1 h
    exact ⟨target, htarget⟩
  | typeRef type | field name | structLit name | init name =>
    obtain ⟨target, htarget, -⟩ := Option.bind_eq_some_iff.1 h
    exact ⟨target, htarget⟩

end Reference

/-! ## The queries of a script -/

namespace Script

variable {script : Script}

/-- A definition is found where the innermost reference has a target. -/
theorem definition_eq_some_iff {position : Position} {definition : Definition} :
    script.definition position = some definition ↔
      ∃ r target, script.referenceAt position = some r ∧ r.target = some target ∧
        definition = ⟨r.range, target.location⟩ := by
  simp only [Script.definition, Option.bind_eq_bind, Option.bind_eq_some_iff, Option.some.injEq]
  constructor
  · rintro ⟨r, hr, target, htarget, rfl⟩
    exact ⟨r, target, hr, htarget, rfl⟩
  · rintro ⟨r, target, hr, htarget, rfl⟩
    exact ⟨r, hr, target, htarget, rfl⟩

/-- An editor goes where a link of the script goes. -/
theorem exists_reference_of_definition {position : Position} {definition : Definition}
    (h : script.definition position = some definition) :
    ∃ r ∈ script.references, ∃ target, r.target = some target ∧
      definition.target = target.location := by
  obtain ⟨r, target, hr, htarget, rfl⟩ := definition_eq_some_iff.1 h
  exact ⟨r, Reference.mem_of_innermost hr, target, htarget, rfl⟩

/-- All targets start where a reader can be told. -/
def Displayable (script : Script) : Prop :=
  ∀ r ∈ script.references, ∀ target ∈ r.target, target.location.range.start.Displayable

instance (script : Script) : Decidable script.Displayable :=
  inferInstanceAs (Decidable (∀ r ∈ script.references, ∀ target ∈ r.target, _))

end Script

theorem mapM_eq_some_map {α β : Type} {f : α → Option β} {g : α → β} {l : List α}
    (h : ∀ a ∈ l, f a = some (g a)) : l.mapM f = some (l.map g) := by
  induction l with
  | nil => rfl
  | cons a l ih =>
    rw [List.mapM_cons, h a List.mem_cons_self, ih fun b hb => h b (List.mem_cons_of_mem _ hb)]
    rfl

/-- There are links, and they are those of the references with a target. -/
theorem Script.exists_documentLinks? {script : Script} (h : script.Displayable)
    (files : FileSet) : ∃ links, script.documentLinks? files = some links ∧
      ∀ range location, (∃ link ∈ links, link.range = range ∧ link.target = location) ↔
        ∃ r ∈ script.references, ∃ target, r.target = some target ∧
          r.range = range ∧ target.location = location := by
  let make : Range × Location → DocumentLink := fun p =>
    ⟨p.1, p.2, "Go to " ++ files.displayName p.2.file ++ ":" ++ (p.2.range.start.text?).getD ""⟩
  refine ⟨_, mapM_eq_some_map (g := make) fun (range, location) hmem => ?_, fun range location => ?_⟩
  · obtain ⟨r, hr, hlink⟩ := List.mem_filterMap.1 hmem
    obtain ⟨target, htarget, he⟩ := Option.map_eq_some_iff.1 hlink
    cases he
    obtain ⟨text, htext⟩ := Position.exists_text? (h r hr target htarget)
    simp only [DocumentLink.make?, htext, Option.map_some, make, Option.getD_some]
  · constructor
    · rintro ⟨link, hlink, rfl, rfl⟩
      obtain ⟨p, hp, rfl⟩ := List.mem_map.1 hlink
      obtain ⟨r, hr, hlink⟩ := List.mem_filterMap.1 hp
      obtain ⟨target, htarget, rfl⟩ := Option.map_eq_some_iff.1 hlink
      exact ⟨r, hr, target, htarget, rfl, rfl⟩
    · rintro ⟨r, hr, target, htarget, rfl, rfl⟩
      refine ⟨make (r.range, target.location), List.mem_map_of_mem ?_, rfl, rfl⟩
      exact List.mem_filterMap.2 ⟨r, hr, by rw [htarget]; rfl⟩

/-- **Editor queries agree with each other**, whatever is linked in the script. Where something is
shown on hover, there is a definition, from the same range. A definition is among the document
links, which exist if their targets can be displayed. And if no two references overlap, a link is
the definition at each position of its range. -/
theorem editor_queries_agree (script : Script) (files : FileSet) :
    (∀ position hover, script.hover position = some hover →
      ∃ definition, script.definition position = some definition ∧
        definition.origin = hover.range) ∧
    (script.Displayable → ∃ links, script.documentLinks? files = some links ∧
      (∀ position definition, script.definition position = some definition →
        ∃ link ∈ links, link.range = definition.origin ∧ link.target = definition.target) ∧
      ((script.references.Pairwise fun r r' => r.range.Disjoint r'.range) →
        ∀ link ∈ links, ∀ position, link.range.contains position = true →
          script.definition position = some ⟨link.range, link.target⟩)) := by
  constructor
  · intro position hover h
    obtain ⟨r, hr, h⟩ := Option.bind_eq_some_iff.1 h
    obtain ⟨contents, hcontents, h⟩ := Option.bind_eq_some_iff.1 h
    cases h
    obtain ⟨target, htarget⟩ := Reference.exists_target_of_documentation? hcontents
    exact ⟨_, Script.definition_eq_some_iff.2 ⟨r, target, hr, htarget, rfl⟩, rfl⟩
  · intro hshown
    obtain ⟨links, hlinks, hmem⟩ := Script.exists_documentLinks? hshown files
    refine ⟨links, hlinks, fun position definition h => ?_, fun hapart link hlink position hp => ?_⟩
    · obtain ⟨r, target, hr, htarget, rfl⟩ := Script.definition_eq_some_iff.1 h
      exact (hmem _ _).2 ⟨r, Reference.mem_of_innermost hr, target, htarget, rfl, rfl⟩
    · obtain ⟨r, hr, target, htarget, hrange, hlocation⟩ := (hmem _ _).1 ⟨link, hlink, rfl, rfl⟩
      rw [← hrange] at hp
      rw [← hrange, ← hlocation]
      exact Script.definition_eq_some_iff.2
        ⟨r, target, Reference.innermost_of_disjoint hapart hr hp, htarget, rfl⟩

/-- `func main(p: int) { spawn(p) }`, in which the call and the parameter are linked. -/
def callScript : Script :=
  { file := ⟨0⟩
    package := ⟨["game"]⟩
    funcs := [{
      name := { text := "main" }
      params := [{
        name := { text := "p" }
        type := .primitive .int ⟨⟨0, 13⟩, ⟨0, 16⟩⟩
        range := ⟨⟨0, 10⟩, ⟨0, 16⟩⟩ }]
      body := [.call
        { name :=
          { name := ⟨["spawn"]⟩
            range := ⟨⟨1, 4⟩, ⟨1, 9⟩⟩
            target := some ⟨⟨⟨1⟩, ⟨⟨3, 0⟩, ⟨3, 20⟩⟩⟩, some "Spawns an entity."⟩ } }
        [.identifier
          { name :=
            { name := ⟨["p"]⟩
              range := ⟨⟨1, 10⟩, ⟨1, 11⟩⟩
              target := some ⟨⟨⟨0⟩, ⟨⟨0, 10⟩, ⟨0, 16⟩⟩⟩, none⟩ }
            isLocal := true
            type := some (.primitive .int) }] ⟨⟨1, 4⟩, ⟨1, 12⟩⟩] }] }

theorem editor_queries_agree_on_call :
    callScript.Displayable ∧
    (callScript.references.Pairwise fun r r' => r.range.Disjoint r'.range) ∧
    callScript.hover ⟨1, 8⟩ = some ⟨"`spawn`\n\n---\n\nSpawns an entity.", ⟨⟨1, 4⟩, ⟨1, 9⟩⟩⟩ ∧
    (∃ definition, callScript.definition ⟨1, 8⟩ = some definition ∧
      definition.origin = ⟨⟨1, 4⟩, ⟨1, 9⟩⟩) ∧
    ∃ links, callScript.documentLinks? .empty = some links ∧ links.length = 2 ∧
      ∀ link ∈ links, callScript.definition link.range.start = some ⟨link.range, link.target⟩ := by
  have hshown : callScript.Displayable := by decide
  have hapart : callScript.references.Pairwise fun r r' => r.range.Disjoint r'.range := by
    have hle : callScript.references.Pairwise fun r r' => r.range.stop ≤ r'.range.start := by decide
    exact hle.imp Range.disjoint_of_le
  have hhover : callScript.hover ⟨1, 8⟩ =
      some ⟨"`spawn`\n\n---\n\nSpawns an entity.", ⟨⟨1, 4⟩, ⟨1, 9⟩⟩⟩ := by decide +kernel
  obtain ⟨hdefined, hlinked⟩ := editor_queries_agree callScript .empty
  obtain ⟨links, hlinks, -, hreached⟩ := hlinked hshown
  refine ⟨hshown, hapart, hhover, hdefined _ _ hhover, links, hlinks, ?_, ?_⟩
  · have hlength : (callScript.documentLinks? .empty).map (·.length) = some 2 := by decide +kernel
    rw [hlinks] at hlength
    exact Option.some.inj hlength
  · intro link hlink
    have hstart : (callScript.documentLinks? .empty).all fun links =>
      links.all fun link => link.range.contains link.range.start := by decide +kernel
    rw [hlinks, Option.all_some, List.all_eq_true] at hstart
    exact hreached hapart link hlink link.range.start (hstart link hlink)

end NameScope
