import NameScope.Proofs.Lookup.Reported
import NameScope.Proofs.Session.Order

/-!
# What the settings decide

How many candidates are suggested, and whether a repeated declaration is an error or a warning, are
questions of how something is reported. Two runs over the same scripts that differ in such a setting
are compared: settings enter where a look-up is reported and where a name is declared again
(`Config.Alike`), and from there they reach diagnostics only.

* one report: `Lookup.alike_suggestions`, `Lookup.alike_severity`;
* a script, in either round: `IndexScope.alike_of_config`, `LinkScope.alike_of_config`;
* a session: `Config.Alike.agree`.

**Results.** * `settings_decide_what_they_name`.
-/
namespace NameScope

/-! ## Diagnostics that follow the settings -/

/-- Two reports that differ in what they suggest at most. Both show the same candidates from the
first on, as many of them as their settings allow; without a limit that is all of them. -/
structure Diagnostic.SameButSuggestions (config config' : Config) (d d' : Diagnostic) : Prop where
  file : d'.file = d.file
  range : d'.range = d.range
  severity : d'.severity = d.severity
  code : d'.code = d.code
  settled : d.code ≠ some "E0003" → d' = d
  suggested : d.code = some "E0003" → ∃ all : List Related,
    d.related = all.take (config.shown all.length) ∧
      d'.related = all.take (config'.shown all.length)

/-- Two reports that are the same, unless they are of a repeated declaration, which is an error in
the first and a warning in the second. -/
inductive Diagnostic.SameButSeverity : Diagnostic → Diagnostic → Prop
  | same (d : Diagnostic) : d.SameButSeverity d
  | repeated {d : Diagnostic} (hcode : d.code = some "E0005") (herror : d.severity = .error) :
    d.SameButSeverity { d with severity := .warning }

theorem Diagnostic.SameButSuggestions.refl {config config' : Config} (d : Diagnostic)
    (h : d.code ≠ some "E0003") : d.SameButSuggestions config config' d :=
  ⟨rfl, rfl, rfl, rfl, fun _ => rfl, fun hcode => absurd hcode h⟩

/-- What suggests nothing is reported the same under any limit. -/
theorem Diagnostic.SameButSuggestions.ofError {config config' : Config} {file : FileId}
    {range : Range} {severity : Severity} {e : SemanticError} {related : List Related}
    (h : e.code ≠ "E0003") : (Diagnostic.ofError file range severity e related).SameButSuggestions
      config config' (Diagnostic.ofError file range severity e related) :=
  .refl _ fun hcode => h (Option.some.inj hcode)

/-! ## One look-up -/

theorem Alternative.Pointed.unique [Matched α] : Relator.RightUnique (Pointed (α := α)) := by
  rintro a entry entry' ⟨target, htarget, rfl⟩ ⟨target', htarget', rfl⟩
  cases htarget.symm.trans htarget'
  rfl

/-- The first matches are shown by the first entries. -/
theorem Alternative.related_take [Matched α] {as : List (Alternative α)}
    (h : ∀ a ∈ as, ∃ target, Matched.target a.value = some target) (n : ℕ) :
    related (as.take n) = (related as).take n :=
  List.right_unique_forall₂' Pointed.unique
    (related_pointed fun a ha => h a (List.mem_of_mem_take ha))
    (List.forall₂_take n (related_pointed h))

/-- Whatever the limit, a look-up is reported with the same error, and its candidates are shown from
the first on. -/
theorem Lookup.alike_suggestions [Matched α] {l : Lookup α} (h : l.Presentable)
    (config config' : Config) :
    l.Alike (Diagnostic.SameButSuggestions config config') config config' l where
  single := rfl
  report file kind name range _ := by
    rcases l with (_ | ⟨a, _ | ⟨b, as⟩⟩) | (_ | ⟨a, as⟩)
    · exact .some (.ofError (by simp [SemanticError.code]))
    · exact .none
    · refine .some (.ofError ?_)
      cases kind <;> simp [SemanticError.ofAlternatives, SemanticError.code]
    · exact .some (.ofError (by simp [SemanticError.code]))
    · have hplaced : ∀ b ∈ a :: as, ∃ target, Matched.target b.value = some target :=
        fun b hb => h.placed b (List.mem_append_right _ hb)
      have hshown : ∀ c : Config,
          Alternative.related ((a :: as).take (c.shown (a :: as).length)) =
            (Alternative.related (a :: as)).take
              (c.shown (Alternative.related (a :: as)).length) := fun c => by
        rw [← (Alternative.related_pointed hplaced).length_eq]
        exact Alternative.related_take hplaced _
      exact .some ⟨rfl, rfl, rfl, rfl, fun hcode => absurd rfl hcode, fun _ =>
        ⟨Alternative.related (a :: as), hshown config, hshown config'⟩⟩

/-- The policy for duplicates is nothing to a look-up. -/
theorem Lookup.alike_severity [Matched α] (l : Lookup α) (config : Config)
    (policy policy' : DuplicatePolicy) :
    l.Alike Diagnostic.SameButSeverity { config with duplicates := policy }
      { config with duplicates := policy' } l where
  single := rfl
  report _ _ _ _ _ := option_rel_refl .same _

/-! ## One script -/

/-- Two settings under which names are declared alike, and under which look-ups and repeated
declarations are reported with diagnostics that are related. -/
structure Config.Alike (D : Diagnostic → Diagnostic → Prop) (config config' : Config) : Prop where
  refl : ∀ d, d.code ≠ some "E0003" → D d d
  selfImport : config'.selfImport = config.selfImport
  replaces : config'.duplicates.severity?.isSome = config.duplicates.severity?.isSome
  duplicate : ∀ (s : IndexScope) kind package name first, Option.Rel D
    ({ s with config := config }.duplicateDecl? kind package name first)
    ({ s with config := config' }.duplicateDecl? kind package name first)
  lookup : ∀ {α : Type} [Matched α] (l : Lookup α), l.Presentable → l.Alike D config config' l

theorem Config.alike_suggestions (config : Config) (limit : Option UInt64) :
    Config.Alike (Diagnostic.SameButSuggestions config { config with maxSuggestions := limit })
      config { config with maxSuggestions := limit } where
  refl := Diagnostic.SameButSuggestions.refl
  selfImport := rfl
  replaces := rfl
  duplicate s kind package name first := by
    refine option_rel_self fun d hd => ?_
    obtain ⟨target, -, hd⟩ := Option.bind_eq_some_iff.1 hd
    obtain ⟨severity, -, hd⟩ := Option.bind_eq_some_iff.1 hd
    cases hd
    exact .ofError (by simp [SemanticError.code])
  lookup _ h := Lookup.alike_suggestions h _ _

theorem Config.alike_severity (config : Config) :
    Config.Alike Diagnostic.SameButSeverity { config with duplicates := .error }
      { config with duplicates := .warning } where
  refl d _ := .same d
  selfImport := rfl
  replaces := rfl
  duplicate s kind package name first := by
    cases first with
    | none => exact .none
    | some target => exact .some (.repeated rfl rfl)
  lookup l _ := l.alike_severity config _ _

section

variable {D : Diagnostic → Diagnostic → Prop} {config config' : Config}

/-- An annotation is looked up in the same types, and reported as the settings say. -/
theorem Config.Alike.lookupRef (h : config.Alike D config') (types : TypeIndex)
    (imports : ImportSet) (type : TypeRef) :
    (types.lookupRef imports type).Alike D config config' (types.lookupRef imports type) := by
  cases type with
  | primitive kind range => exact ⟨rfl, fun _ _ _ _ _ => .none⟩
  | named name => exact h.lookup _ (types.presentable_lookupType imports name.name)

theorem IndexScope.alike_of_config (h : config.Alike D config') (types : TypeIndex)
    (script : Script) :
    (ofScript config types script).Alike D (ofScript config' types script) := by
  have hscope : ofScript config' types script =
      { ofScript config types script with config := config' } := by
    simp only [ofScript, h.selfImport]
  rw [hscope]
  exact {
    refl := h.refl
    file := rfl
    replaces := h.replaces
    duplicate := h.duplicate (ofScript config types script)
    types := h.lookupRef types _ }

theorem LinkScope.alike_of_config (h : config.Alike D config') (registry : Registry)
    (types : TypeIndex) (script : Script) :
    (ofScript registry types config script).Alike D (ofScript registry types config' script) := by
  have hscope : ofScript registry types config' script =
      { ofScript registry types config script with config := config' } := by
    simp only [ofScript, h.selfImport]
  rw [hscope]
  exact {
    refl := h.refl
    file := rfl
    types := fun _ => rfl
    funcs := fun n => h.lookup _ (registry.presentable_lookupFunc _ n)
    structs := fun n => h.lookup _ (registry.presentable_lookupStruct _ n)
    owner := fun _ _ => rfl }

/-! ## All scripts -/

theorem Indexed.typesOf_policy {policy policy' : DuplicatePolicy}
    (h : policy'.severity?.isSome = policy.severity?.isSome) (scripts : List BundledScript) :
    typesOf policy' scripts = typesOf policy scripts := by
  have hdeclare : declareTypes policy' = declareTypes policy := by
    funext types s
    simp only [declareTypes, TypeNames.declare, OrderedMap.declare_policy h]
  rw [typesOf, typesOf, hdeclare]

theorem Indexed.types_of_config (h : config.Alike D config') (scripts : List BundledScript) :
    (ofScripts config' scripts).types = (ofScripts config scripts).types :=
  typesOf_policy h.replaces scripts

/-- Scripts make the same registry under both settings, whatever the types. -/
theorem Indexed.addScripts_of_config (h : config.Alike D config') (types : TypeIndex)
    (scripts : List BundledScript) :
    (addScripts config' types .empty scripts).1 = (addScripts config types .empty scripts).1 ∧
      List.Forall₂ D (addScripts config types .empty scripts).2
        (addScripts config' types .empty scripts).2 :=
  addScripts_alike .empty fun s _ => IndexScope.alike_of_config h types s.script

/-- Scripts that are linked alike one by one are linked alike one after the other. -/
theorem linkAll_alike {registry : Registry} {types : TypeIndex} {scripts : List Script}
    (h : ∀ s ∈ scripts, ∃ tree reports reports',
      s.linked registry types config = .ok (tree, reports) ∧
        s.linked registry types config' = .ok (tree, reports') ∧ List.Forall₂ D reports reports') :
    ∃ trees reports reports', linkAll registry types config scripts = .ok (trees, reports) ∧
      linkAll registry types config' scripts = .ok (trees, reports') ∧
      List.Forall₂ D reports reports' := by
  induction scripts with
  | nil => exact ⟨[], [], [], rfl, rfl, .nil⟩
  | cons s scripts ih =>
    obtain ⟨tree, reports, reports', hs, hs', hreports⟩ := h s List.mem_cons_self
    obtain ⟨trees, rest, rest', hall, hall', hrest⟩ :=
      ih fun s' hs' => h s' (List.mem_cons_of_mem _ hs')
    refine ⟨tree :: trees, reports ++ rest, reports' ++ rest', ?_, ?_,
      List.rel_append hreports hrest⟩
    · rw [linkAll, hs, hall]
      rfl
    · rw [linkAll, hs', hall']
      rfl

/-- What two settings make of the same scripts: the same registry, type names and linked scripts,
and script by script diagnostics that are related. -/
structure Config.Agree (D : Diagnostic → Diagnostic → Prop) (config config' : Config)
    (scripts : List BundledScript) : Prop where
  registry : (Indexed.ofScripts config' scripts).registry =
    (Indexed.ofScripts config scripts).registry
  types : (Indexed.ofScripts config' scripts).types = (Indexed.ofScripts config scripts).types
  indexing : ∀ before s after, scripts = before ++ s :: after → List.Forall₂ D
    (Indexed.reportsAfter config (Indexed.ofScripts config scripts).types before s)
    (Indexed.reportsAfter config' (Indexed.ofScripts config' scripts).types before s)
  linking : ∀ s ∈ scripts, ∃ tree reports reports',
    s.script.linked (Indexed.ofScripts config scripts).registry
        (Indexed.ofScripts config scripts).types config = .ok (tree, reports) ∧
      s.script.linked (Indexed.ofScripts config' scripts).registry
        (Indexed.ofScripts config' scripts).types config' = .ok (tree, reports') ∧
      List.Forall₂ D reports reports'
  snapshot : ∃ a a', Snapshot.build config scripts = .ok a ∧
    Snapshot.build config' scripts = .ok a' ∧ a'.registry = a.registry ∧ a'.types = a.types ∧
    a'.scripts = a.scripts ∧ List.Forall₂ D a.reports a'.reports

/-- **Settings that report alike agree** on a session in which nothing is linked yet. -/
theorem Config.Alike.agree (h : config.Alike D config') {scripts : List BundledScript}
    (hunlinked : ∀ s ∈ scripts, ∀ r ∈ s.script.references, r.target = none) :
    config.Agree D config' scripts := by
  let x := Indexed.ofScripts config scripts
  let x' := Indexed.ofScripts config' scripts
  have htypes : x'.types = x.types := Indexed.types_of_config h scripts
  obtain ⟨hregistry, hreports⟩ : x'.registry = x.registry ∧
      List.Forall₂ D x.diagnostics x'.diagnostics := by
    have hx' : Indexed.addScripts config' x'.types .empty scripts = (x'.registry, x'.diagnostics) :=
      rfl
    have hadd := Indexed.addScripts_of_config h x.types scripts
    rw [← htypes, hx', htypes] at hadd
    exact hadd
  have hlinking : ∀ s ∈ scripts, ∃ tree reports reports',
      s.script.linked x.registry x.types config = .ok (tree, reports) ∧
        s.script.linked x.registry x.types config' = .ok (tree, reports') ∧
        List.Forall₂ D reports reports' := fun s hs =>
    Script.linked_alike (LinkScope.alike_of_config h x.registry x.types s.script) (hunlinked s hs)
  refine ⟨hregistry, htypes, ?_, ?_, ?_⟩
  · rintro before s after -
    rw [htypes]
    have hbefore := (Indexed.addScripts_of_config h x.types before).1
    unfold Indexed.reportsAfter
    rw [hbefore]
    exact (Indexed.addScript_alike s.script.imports _
      (IndexScope.alike_of_config h x.types s.script)).2
  · rw [hregistry, htypes]
    exact hlinking
  · obtain ⟨trees, reports, reports', hall, hall', hrest⟩ :
        ∃ trees reports reports',
          linkAll x.registry x.types config (scripts.map (·.script)) = .ok (trees, reports) ∧
          linkAll x'.registry x'.types config' (scripts.map (·.script)) = .ok (trees, reports') ∧
          List.Forall₂ D reports reports' := by
      rw [hregistry, htypes]
      exact linkAll_alike (List.forall_mem_map.2 hlinking)
    exact ⟨_, _, Snapshot.build_of_linkAll hall, Snapshot.build_of_linkAll hall', hregistry, htypes,
      rfl, List.rel_append hreports hrest⟩

end

/-- **Settings decide what they name, and nothing else.** In a session in which nothing is linked
yet, a limit of suggestions shows in what is reported of names out of scope, and whether duplicates
are errors or warnings shows in the severity of their reports. The registry, the type names, the
linked scripts and all other reports are the same. -/
theorem settings_decide_what_they_name (config : Config) {scripts : List BundledScript}
    (hunlinked : ∀ s ∈ scripts, ∀ r ∈ s.script.references, r.target = none) :
    (∀ limit, Config.Agree
      (Diagnostic.SameButSuggestions config { config with maxSuggestions := limit })
      config { config with maxSuggestions := limit } scripts) ∧
    Config.Agree Diagnostic.SameButSeverity { config with duplicates := .error }
      { config with duplicates := .warning } scripts :=
  ⟨fun limit => (config.alike_suggestions limit).agree hunlinked,
    config.alike_severity.agree hunlinked⟩

/-- `pointUser` without its import. -/
def strayPointUser : BundledScript :=
  { pointUser with script := { pointUser.script with imports := [] } }

/-- Of three declarations of `Point` one repeats another, and the two that are left are suggested to
a script that imports neither. A limit of one leaves the first of them. -/
theorem settings_show_in_reports_of_point :
    let scripts := [pointIn "core" ⟨0⟩, pointIn "core" ⟨1⟩, pointIn "mods" ⟨3⟩, strayPointUser]
    let shown (config : Config) := (Indexed.ofScripts config scripts).diagnostics.map
      fun d => (d.code, d.severity, d.related.length)
    (∀ s ∈ scripts, ∀ r ∈ s.script.references, r.target = none) ∧
    Config.Agree (Diagnostic.SameButSuggestions {} { maxSuggestions := some 1 })
      {} { maxSuggestions := some 1 } scripts ∧
    Config.Agree Diagnostic.SameButSeverity {} { duplicates := .warning } scripts ∧
    shown {} = [(some "E0005", .error, 1), (some "E0003", .error, 2)] ∧
    shown { maxSuggestions := some 1 } = [(some "E0005", .error, 1), (some "E0003", .error, 1)] ∧
    shown { duplicates := .warning } = [(some "E0005", .warning, 1), (some "E0003", .error, 2)] := by
  intro scripts shown
  have hunlinked : ∀ s ∈ scripts, ∀ r ∈ s.script.references, r.target = none := by decide
  obtain ⟨hsuggestions, hseverity⟩ := settings_decide_what_they_name {} hunlinked
  exact ⟨hunlinked, hsuggestions (some 1), hseverity, by decide, by decide, by decide⟩

end NameScope
