import Mathlib.Data.List.Forall2
import NameScope.Proofs.Lookup.Exact

/-!
# What is reported of a look-up

A look-up shows two lists, alternatives and candidates, and how long they are decides what is
reported: nothing, a name without any match, a name whose matches are not imported, or a name with
several meanings. `Lookup.Verdict` says this once, each case with its whole diagnostic. In
particular it says which list is shown: all alternatives, but of the candidates no more than the
settings allow, with a line for the number of the others.

A written name is linked in the first case only (`Attempt.Settles`).

* `Lookup.Presentable`: what look-ups show comes from one package each and has a place; so every
  match that is shown makes a line of its own, and a related entry of its own;
* `Lookup.verdict_report?`, `Lookup.settles_attempt`: for such look-ups the report is the verdict.

**Results.** * `lookups_are_reported_in_four_ways`: so it is for funcs, structs and types.
-/
namespace NameScope

/-! ## The four cases -/

/-- The line that suggests to import the package of a match. -/
def Alternative.Suggested (a : Alternative α) (line : String) : Prop :=
  ∃ id, a.imports = [id] ∧
    line = "\n• import " ++ id.package.text ++ " (" ++ id.bundle.text ++ ")"

/-- The entry that points to the declaration of a match. -/
def Alternative.Pointed [Matched α] (a : Alternative α) (entry : Related) : Prop :=
  ∃ target, Matched.target a.value = some target ∧
    entry = ⟨target.location, "candidate: " ++ Matched.qualifiedText a.value⟩

/-- The line for the candidates that are not shown. -/
def omittedLine : Nat → String
  | 0 => ""
  | k + 1 => "\n• ... and " ++ toString (k + 1) ++ " more"

/-- What is ambiguous, in words. A type goes by the member that has it. -/
def ReferenceKind.subject (kind : ReferenceKind) (name : String) : String :=
  match kind with
  | .typeOf => "type of " ++ name
  | kind => "reference to " ++ kind.text ++ " " ++ name

section

variable [Matched α] (config : Config) (file : FileId) (kind : ReferenceKind) (name : String)
  (range : Range)

/-- The diagnostics that a look-up deserves. The conditions exclude each other. -/
inductive Lookup.Verdict (l : Lookup α) : List Diagnostic → Prop
  | resolved {a : Alternative α} (h : l.alternatives = [a]) : Verdict l []
  | unresolved (h : l.alternatives = []) (hc : l.candidates = []) :
    Verdict l [{
      file, range, severity := .error, code := some "E0001"
      message := "could not resolve " ++ kind.text ++ " " ++ name }]
  | outOfScope {shown hidden : List (Alternative α)} {lines : List String} {related : List Related}
      (h : l.alternatives = []) (hne : l.candidates ≠ []) (hc : l.candidates = shown ++ hidden)
      (hlimit : ∀ limit, config.maxSuggestions = some limit →
        shown.length = min limit.toNat l.candidates.length)
      (hall : config.maxSuggestions = none → hidden = [])
      (hlines : List.Forall₂ Alternative.Suggested shown lines)
      (hrelated : List.Forall₂ Alternative.Pointed shown related) :
    Verdict l [{
      file, range, severity := .error, code := some "E0003", related
      message := "could not resolve " ++ kind.text ++ " " ++ name ++
        "; try one of the following:" ++ String.join lines ++ omittedLine hidden.length }]
  | ambiguous {related : List Related} (h : 2 ≤ l.alternatives.length)
      (hrelated : List.Forall₂ Alternative.Pointed l.alternatives related) :
    Verdict l [{
      file, range, severity := .error, code := some "E0002", related
      message := kind.subject name ++ " was ambiguous, possibilities were: " ++
        String.intercalate ", " (l.alternatives.map fun a => Matched.qualifiedText a.value) }]

end

/-- What an attempt to resolve a name that has no target leaves of the name and of the log, where
`place` says where a match is declared. -/
structure Attempt.Settles [Matched α] (config : Config) (kind : ReferenceKind) (place : α → Target)
    (name : WrittenName) (log : DiagnosticLog) (l : Lookup α) (x : Attempt α) : Prop where
  outcome : x.outcome = .ok l
  linked : ∀ a, l.alternatives = [a] → x.name = { name with target := some (place a.value) }
  left : (∀ a, l.alternatives ≠ [a]) → x.name = name
  reported : ∃ ds, x.log = ⟨log.file, log.entries ++ ds⟩ ∧
    l.Verdict config log.file kind name.name.text name.range ds

/-! ## What look-ups show -/

/-- Each candidate is tagged with one package, and each match has a place. -/
structure Lookup.Presentable [Matched α] (l : Lookup α) : Prop where
  tagged : ∀ a ∈ l.candidates, ∃ id, a.imports = [id]
  placed : ∀ a ∈ l.alternatives ++ l.candidates, ∃ target, Matched.target a.value = some target

section

variable {τ : Type} [Searchable τ] {b : Bundles τ} {imports : ImportSet} {q : Query}
  {pick : Candidate → Option α}

/-- A match of a typed look-up is picked from the candidates of one package. -/
theorem Bundles.mem_filterMap_lookup {a : Alternative α}
    (h : a ∈ ((b.lookup imports q).filterMap pick).alternatives ++
      ((b.lookup imports q).filterMap pick).candidates) :
    ∃ (id : PackageId) (table : τ), ∃ c ∈ Searchable.candidates id.package q table,
      pick c = some a.value ∧ a.imports = [id] := by
  have hsearch : ∀ {admits}, a ∈ (b.search q admits).filterMap (Alternative.filterMap pick) →
      ∃ (id : PackageId) (table : τ), ∃ c ∈ Searchable.candidates id.package q table,
        pick c = some a.value ∧ a.imports = [id] := by
    intro admits ha
    obtain ⟨found, hfound, ha⟩ := List.mem_filterMap.1 ha
    obtain ⟨id, table, -, -, c, hc, rfl⟩ := mem_search.1 hfound
    obtain ⟨m, hm, rfl⟩ := Option.map_eq_some_iff.1 ha
    exact ⟨id, table, c, hc, hm, rfl⟩
  rw [Lookup.alternatives_filterMap, Lookup.candidates_filterMap, alternatives_lookup,
    candidates_lookup] at h
  rcases List.mem_append.1 h with h | h
  · exact hsearch h
  · split at h
    · exact hsearch h
    · cases h

theorem Bundles.presentable_filterMap [Matched α]
    (hplaced : ∀ package (table : τ), ∀ c ∈ Searchable.candidates package q table,
      ∀ m, pick c = some m → ∃ target, Matched.target m = some target) :
    ((b.lookup imports q).filterMap pick).Presentable := by
  constructor
  · intro a ha
    obtain ⟨id, -, -, -, -, himports⟩ := mem_filterMap_lookup (List.mem_append_right _ ha)
    exact ⟨id, himports⟩
  · intro a ha
    obtain ⟨id, table, c, hc, hm, -⟩ := mem_filterMap_lookup ha
    exact hplaced id.package table c hc a.value hm

end

theorem Registry.presentable_lookupFunc (r : Registry) (imports : ImportSet) (n : QualifiedName) :
    (r.lookupFunc imports n).Presentable :=
  Bundles.presentable_filterMap fun _ _ _ _ _ _ => ⟨_, rfl⟩

theorem Registry.presentable_lookupStruct (r : Registry) (imports : ImportSet)
    (n : QualifiedName) : (r.lookupStruct imports n).Presentable :=
  Bundles.presentable_filterMap fun _ _ _ _ _ _ => ⟨_, rfl⟩

/-- A type that is looked up is a struct, and has the place of its declaration. -/
theorem TypeIndex.presentable_lookupType (types : TypeIndex) (imports : ImportSet)
    (n : QualifiedName) : (types.lookupType imports n).Presentable := by
  refine Bundles.presentable_filterMap fun package names c hc m hm => ?_
  have hc : c ∈ names.candidates package ⟨.type, n⟩ := hc
  rw [TypeNames.candidates_eq_select package ⟨.type, n⟩ names rfl] at hc
  obtain ⟨e, -, rfl⟩ := List.mem_map.1 hc
  cases hm
  exact ⟨e.2, rfl⟩

/-! ## The report is the verdict -/

theorem Alternative.related_pointed [Matched α] {as : List (Alternative α)}
    (h : ∀ a ∈ as, ∃ target, Matched.target a.value = some target) :
    List.Forall₂ Pointed as (Alternative.related as) := by
  induction as with
  | nil => exact .nil
  | cons a as ih =>
    obtain ⟨target, htarget⟩ := h a List.mem_cons_self
    have ih := ih fun a' ha' => h a' (List.mem_cons_of_mem _ ha')
    have hcons : related (a :: as) =
        ⟨target.location, "candidate: " ++ Matched.qualifiedText a.value⟩ :: related as := by
      simp [related, htarget]
    rw [hcons]
    exact .cons ⟨target, htarget, rfl⟩ ih

/-- Matches of one package each are suggested by a line each. -/
theorem suggestionLines_eq {as : List (Alternative α)} (h : ∀ a ∈ as, ∃ id, a.imports = [id])
    (k : Nat) : ∃ lines, List.Forall₂ Alternative.Suggested as lines ∧
      SemanticError.suggestionLines (as.map (·.imports)) k =
        String.join lines ++ omittedLine k := by
  refine ⟨as.map fun a => "\n• import " ++ String.intercalate ", " (a.imports.map PackageId.text),
    ?_, ?_⟩
  · rw [List.forall₂_map_right_iff, List.forall₂_same]
    intro a ha
    obtain ⟨id, hid⟩ := h a ha
    refine ⟨id, hid, ?_⟩
    rw [hid]
    simp [PackageId.text, String.append_assoc]
  · unfold SemanticError.suggestionLines
    rw [List.map_map]
    cases k with
    | zero => rfl
    | succ k => rfl

/-- **The report of a look-up is its verdict.** -/
theorem Lookup.verdict_report? [Matched α] {l : Lookup α} (h : l.Presentable) (config : Config)
    (file : FileId) (kind : ReferenceKind) (name : String) (range : Range) :
    l.Verdict config file kind name range (l.report? config file kind name range).toList := by
  rcases l with (_ | ⟨a, _ | ⟨a', as⟩⟩) | (_ | ⟨a, as⟩)
  · exact .unresolved rfl rfl
  · exact .resolved rfl
  · have hpointed := Alternative.related_pointed
      fun b hb => h.placed b (List.mem_append_left _ hb)
    have htwo : 2 ≤ (imported (a :: a' :: as)).alternatives.length := by simp [alternatives]
    cases kind <;> exact .ambiguous htwo hpointed
  · exact .unresolved rfl rfl
  · let n := config.shown (a :: as).length
    have hmem : ∀ b ∈ (a :: as).take n, b ∈ (notImported (a :: as)).candidates :=
      fun b hb => List.mem_of_mem_take hb
    have hlength : ((a :: as).take n).length = n := by
      rw [List.length_take, Nat.min_eq_left (config.shown_le _)]
    have hpointed := Alternative.related_pointed
      fun b hb => h.placed b (List.mem_append_right _ (hmem b hb))
    obtain ⟨lines, hlines, hmessage⟩ := suggestionLines_eq
      (fun b hb => h.tagged b (hmem b hb)) ((a :: as).drop n).length
    have homitted :
        (a :: as).length - ((a :: as).take n).length = ((a :: as).drop n).length := by
      rw [hlength, List.length_drop]
    have hv : (notImported (a :: as)).Verdict config file kind name range [_] :=
      .outOfScope rfl (List.cons_ne_nil a as) (List.take_append_drop n (a :: as)).symm
        (fun limit hlimit => by rw [hlength]; simp [n, Config.shown, hlimit, candidates])
        (fun hnone => by simp [n, Config.shown, hnone]) hlines hpointed
    rw [String.append_assoc, ← hmessage, ← homitted] at hv
    exact hv

/-- An attempt on a name without a target reports the look-up, and links the name to the only match
if there is one. -/
theorem Lookup.attempt_of_unlinked [Matched α] (l : Lookup α) {place : α → Target}
    (hplace : ∀ m, Matched.target m = some (place m)) (config : Config) (kind : ReferenceKind)
    {name : WrittenName} (hname : name.target = none) (log : DiagnosticLog) :
    l.attempt config kind name log =
      ⟨{ name with target := l.single?.map place },
        log.addAll (l.report? config log.file kind name.name.text name.range).toList, .ok l⟩ := by
  have htarget : l.target? = l.single?.map place := by
    unfold target?
    cases l.single? with
    | none => rfl
    | some m => exact hplace m
  have hlink : l.link name = .ok { name with target := l.single?.map place } := by
    unfold link
    rw [htarget]
    cases l.single? with
    | none =>
      obtain ⟨name, range, target⟩ := name
      cases hname
      rfl
    | some m => exact WrittenName.link_of_unlinked hname (place m)
  unfold attempt
  simp only [hlink]

theorem Lookup.single?_eq_none {l : Lookup α} (h : ∀ a, l.alternatives ≠ [a]) :
    l.single? = none := by
  unfold single?
  split
  · rename_i only honly
    exact absurd honly (h only)
  · rfl

/-- A name without a target is settled by an attempt to resolve it. -/
theorem Lookup.settles_attempt [Matched α] {l : Lookup α} (h : l.Presentable) {place : α → Target}
    (hplace : ∀ m, Matched.target m = some (place m)) (config : Config) (kind : ReferenceKind)
    {name : WrittenName} (hname : name.target = none) (log : DiagnosticLog) :
    (l.attempt config kind name log).Settles config kind place name log l := by
  rw [l.attempt_of_unlinked hplace config kind hname log]
  refine ⟨rfl, fun a ha => ?_, fun hne => ?_, _, rfl,
    Lookup.verdict_report? h config log.file kind name.name.text name.range⟩
  · simp [single?, ha]
  · rw [single?_eq_none hne, Option.map_none, ← hname]

/-- **Look-ups are reported in four ways.** Whether a name is looked up as a func, as a struct or as
the type of a member, the log grows by what the two lists deserve and keeps what it had. A func or a
struct name is linked exactly when it has one alternative; for a type the log is all that
changes. -/
theorem lookups_are_reported_in_four_ways (r : Registry) (types : TypeIndex) (imports : ImportSet)
    (config : Config) (log : DiagnosticLog) (name : WrittenName) (h : name.target = none)
    (member : String) :
    (r.resolveFunc config imports name log).Settles config .func (·.definition.toTarget) name log
      (r.lookupFunc imports name.name) ∧
    (r.resolveStruct config imports name log).Settles config .struct (·.definition.toTarget) name
      log (r.lookupStruct imports name.name) ∧
    ∃ ds, types.resolveType config imports member (.named name) log =
        (types.lookupType imports name.name, ⟨log.file, log.entries ++ ds⟩) ∧
      (types.lookupType imports name.name).Verdict config log.file .typeOf member name.range ds :=
  ⟨Lookup.settles_attempt (r.presentable_lookupFunc imports name.name) (fun _ => rfl) _ _ h log,
    Lookup.settles_attempt (r.presentable_lookupStruct imports name.name) (fun _ => rfl) _ _ h log,
    _, rfl, Lookup.verdict_report? (types.presentable_lookupType imports name.name) _ _ _ _ _⟩

/-- Two of the packages `util` have a `Point`; one is suggested, the other is counted. -/
theorem one_of_two_points_is_suggested :
    (⟨⟨["Point"]⟩, {}, none⟩ : WrittenName).target = none ∧
    (threeUtils.resolveStruct { maxSuggestions := some 1 } (.ofList []) ⟨⟨["Point"]⟩, {}, none⟩
      ⟨⟨9⟩, []⟩).Settles { maxSuggestions := some 1 } .struct (·.definition.toTarget)
      ⟨⟨["Point"]⟩, {}, none⟩ ⟨⟨9⟩, []⟩ (threeUtils.lookupStruct (.ofList []) ⟨["Point"]⟩) ∧
    (threeUtils.resolveStruct { maxSuggestions := some 1 } (.ofList []) ⟨⟨["Point"]⟩, {}, none⟩
      ⟨⟨9⟩, []⟩).log.entries.map (fun d => (d.message, d.related.length)) =
      [("could not resolve struct Point; try one of the following:" ++
        "\n• import util (mods)\n• ... and 1 more", 1)] :=
  have h : (⟨⟨["Point"]⟩, {}, none⟩ : WrittenName).target = none := rfl
  ⟨h, (lookups_are_reported_in_four_ways threeUtils .empty (.ofList [])
    { maxSuggestions := some 1 } ⟨⟨9⟩, []⟩ ⟨⟨["Point"]⟩, {}, none⟩ h "x").2.1, by decide +kernel⟩

end NameScope
