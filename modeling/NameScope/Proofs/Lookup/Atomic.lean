import NameScope.Lookup.Resolve

/-!
# Attempts that are refused

An attempt to resolve a name looks it up, reports to the log and then links the name. The link may
be refused, after the log was written and although the name belongs to the caller. No trace of a
refused attempt is left all the same. What is reported and what is linked are decided in different
places, but by the same number of alternatives: where there is a declaration to link to there is
nothing to report.

**Results.**
* `Lookup.attempt_cases`: the three ways in which an attempt ends, each with the name, the log and
  the outcome that it leaves;
* `second_link_is_refused_without_trace`: for funcs and structs, linked before or not.
-/
namespace NameScope

/-- An attempt to resolve a name is refused as a whole or not at all; `l` is the look-up. -/
structure Attempt.Atomic [Matched α] (name : WrittenName) (log : DiagnosticLog) (l : Lookup α)
    (x : Attempt α) : Prop where
  /-- It is refused if the name has a target and would get another, and only then. -/
  refused_iff : (∃ e, x.outcome = .error e) ↔ name.isLinked = true ∧ l.alternatives.length = 1
  /-- The refusal names the target that is there. The name and the log are as before. -/
  refused : ∀ e, x.outcome = .error e → x.name = name ∧ x.log = log ∧
    ∃ old, name.target = some old ∧ e = ⟨name.name.text, old.location⟩
  /-- Otherwise a target that is there is kept, a missing one is added where there is one match, and
  nothing else of the name changes; the log keeps what it had and gets one more entry at most. -/
  settled : ∀ found, x.outcome = .ok found → found = l ∧
    x.name = { name with target := name.target.or l.target? } ∧
    ∃ d : Option Diagnostic, x.log = ⟨log.file, log.entries ++ d.toList⟩

section

variable [Matched α]

/-- **How an attempt ends.** Without a declaration to link to the name stays and the look-up is
reported; with one nothing is reported, and the name is linked or the attempt is refused. -/
theorem Lookup.attempt_cases (h : ∀ m : α, ∃ t, Matched.target m = some t) (l : Lookup α)
    (config : Config) (kind : ReferenceKind) (name : WrittenName) (log : DiagnosticLog) :
    (l.target? = none ∧ l.attempt config kind name log =
      ⟨name, log.addAll (l.report? config log.file kind name.name.text name.range).toList, .ok l⟩) ∨
    (∃ t, l.target? = some t ∧ name.target = none ∧
      l.attempt config kind name log = ⟨{ name with target := some t }, log, .ok l⟩) ∨
    ∃ t old, l.target? = some t ∧ name.target = some old ∧
      l.attempt config kind name log = ⟨name, log, .error ⟨name.name.text, old.location⟩⟩ := by
  cases ht : l.target? with
  | none =>
    have hlink : l.link name = .ok name := by simp only [link, ht]
    exact .inl ⟨rfl, by simp only [attempt, hlink]⟩
  | some t =>
    -- the same count that lets the name be linked keeps the report away
    have hreport : l.report? config log.file kind name.name.text name.range = none := by
      rw [report?_eq_none_iff, isResolved_iff_length, ← exists_target?_iff h]
      exact ⟨t, ht⟩
    refine .inr ?_
    cases hold : name.target with
    | none =>
      have hlink : l.link name = .ok { name with target := some t } := by
        simp only [link, ht, WrittenName.link_of_unlinked hold]
      refine .inl ⟨t, rfl, rfl, ?_⟩
      simp only [attempt, hlink, hreport, Option.toList_none, DiagnosticLog.addAll_nil]
    | some old =>
      have hlink : l.link name = .error ⟨name.name.text, old.location⟩ := by
        simp only [link, ht]
        exact (WrittenName.link_eq_error_iff name t _).2 ⟨old, hold, rfl⟩
      refine .inr ⟨t, old, rfl, rfl, ?_⟩
      simp only [attempt, hlink, hreport, Option.toList_none, DiagnosticLog.addAll_nil]

theorem Lookup.attempt_atomic (h : ∀ m : α, ∃ t, Matched.target m = some t) (l : Lookup α)
    (config : Config) (kind : ReferenceKind) (name : WrittenName) (log : DiagnosticLog) :
    (l.attempt config kind name log).Atomic name log l := by
  have hcount := exists_target?_iff h l
  have hlog : log = ⟨log.file, log.entries ++ (none : Option Diagnostic).toList⟩ := by simp
  obtain ⟨ht, hx⟩ | ⟨t, ht, hname, hx⟩ | ⟨t, old, ht, hname, hx⟩ :=
    l.attempt_cases h config kind name log
  · rw [ht] at hcount
    have hkept : name = { name with target := name.target.or l.target? } := by simp [ht]
    rw [hx]
    exact {
      refused_iff := ⟨fun ⟨e, he⟩ => (nomatch he), fun ⟨_, hone⟩ => (nomatch hcount.2 hone)⟩
      refused := fun e he => nomatch he
      settled := fun found hfound => ⟨(Except.ok.inj hfound).symm, hkept, _, rfl⟩ }
  · have hlinked : ({ name with target := some t } : WrittenName) =
        { name with target := name.target.or l.target? } := by simp [ht, hname]
    have hnot : ¬ name.isLinked = true := by simp [WrittenName.isLinked, hname]
    rw [hx]
    exact {
      refused_iff := ⟨fun ⟨e, he⟩ => (nomatch he), fun ⟨hl, _⟩ => absurd hl hnot⟩
      refused := fun e he => nomatch he
      settled := fun found hfound => ⟨(Except.ok.inj hfound).symm, hlinked, none, hlog⟩ }
  · have hl : name.isLinked = true := by simp [WrittenName.isLinked, hname]
    rw [hx]
    exact {
      refused_iff := ⟨fun _ => ⟨hl, hcount.1 ⟨t, ht⟩⟩, fun _ => ⟨_, rfl⟩⟩
      refused := fun e he => ⟨rfl, rfl, old, hname, (Except.error.inj he).symm⟩
      settled := fun found hfound => nomatch hfound }

end

/-- **A second link is refused without a trace.** Whatever is imported, logged and written, an
attempt to resolve a name as a func or as a struct is refused exactly if the name has a target and
one alternative. Then the name and the log are as they were; otherwise the target is kept, and the
log has at most one more entry. -/
theorem second_link_is_refused_without_trace (r : Registry) (config : Config)
    (imports : ImportSet) (name : WrittenName) (log : DiagnosticLog) :
    (r.resolveFunc config imports name log).Atomic name log (r.lookupFunc imports name.name) ∧
      (r.resolveStruct config imports name log).Atomic name log
        (r.lookupStruct imports name.name) :=
  ⟨Lookup.attempt_atomic (fun _ => ⟨_, rfl⟩) _ config .func name log,
    Lookup.attempt_atomic (fun _ => ⟨_, rfl⟩) _ config .struct name log⟩

/-- A name that has a target is refused where it has one match, and is ambiguous without harm. -/
example :
    let f : FuncDef := ⟨⟨⟨⟨0⟩, {}⟩, none⟩, .empty, none⟩
    let package (bundle : String) : PackageId := ⟨⟨bundle⟩, ⟨["util"]⟩⟩
    let index : PackageIndex := ⟨⟨["util"]⟩, .empty, OrderedMap.empty.insert "f" f⟩
    let one : Registry := Bundles.empty.insert (package "core") index
    let two : Registry := one.insert (package "mods") index
    let name : WrittenName := { name := ⟨["f"]⟩, target := some ⟨⟨⟨1⟩, {}⟩, none⟩ }
    let attempt (r : Registry) := r.resolveFunc {} (.ofList [⟨["util"]⟩]) name ⟨⟨2⟩, []⟩
    ((attempt one).outcome.isOk, (attempt one).log.entries.length) = (false, 0) ∧
      ((attempt two).outcome.isOk, (attempt two).log.entries.length) = (true, 1) := by
  decide

end NameScope
