import NameScope.Data.Codec

/-!
# Written values are read back

Each reader gives back what its writer wrote (`RoundTrips`). This is proved part by part: numbers and
texts, then absent values and lists, then the cases of an enumeration by their names, then records by
their fields. An absent value is a null, so that only a value which is never written as a null can
be told from it (`NonNull`).

Settings may leave out any field. A record of settings is a patch (`Config.Patch`): some fields with
their values, among members of other names. Reading it replaces these fields of the default settings
and no others, and there is no other way to read a record.

**Results.** * `written_values_are_read_back`.
-/
namespace NameScope

namespace Codec

/-- What was written is read back. -/
class RoundTrips (α : Type u) [Codec α] : Prop where
  decode_encode : ∀ a : α, decode (encode a) = some a

/-- No value is written as a null. -/
class NonNull (α : Type u) [Codec α] : Prop where
  encode_ne_null : ∀ a : α, encode a ≠ .null

/-! ## Numbers, texts, absent values and lists -/

instance : RoundTrips UInt32 where
  decode_encode n := by
    have hn := n.toNat_lt
    show (if 0 ≤ (n.toNat : Int) ∧ (n.toNat : Int) < UInt32.size then
      some (UInt32.ofNat (n.toNat : Int).toNat) else none) = some n
    rw [if_pos (by unfold UInt32.size; omega), Int.toNat_natCast, UInt32.ofNat_toNat]

instance : RoundTrips UInt64 where
  decode_encode n := by
    have hn := n.toNat_lt
    show (if 0 ≤ (n.toNat : Int) ∧ (n.toNat : Int) < UInt64.size then
      some (UInt64.ofNat (n.toNat : Int).toNat) else none) = some n
    rw [if_pos (by unfold UInt64.size; omega), Int.toNat_natCast, UInt64.ofNat_toNat]

instance : NonNull UInt64 := ⟨fun _ h => by cases h⟩

instance : RoundTrips Bool := ⟨fun _ => rfl⟩

instance : RoundTrips String := ⟨fun _ => rfl⟩

instance : NonNull String := ⟨fun _ h => by cases h⟩

section

variable {α : Type u} [Codec α]

theorem decode_of_ne_null {d : Data} (h : d ≠ .null) :
    (decode d : Option (Option α)) = (decode d).map some := by
  cases d with
  | null => exact absurd rfl h
  | bool | integer | decimal | text | list | record => rfl

instance [RoundTrips α] [NonNull α] : RoundTrips (Option α) where
  decode_encode
    | none => rfl
    | some a => by
      show decode (encode a) = some (some a)
      rw [decode_of_ne_null (NonNull.encode_ne_null a), RoundTrips.decode_encode a]
      rfl

instance [RoundTrips α] : RoundTrips (List α) where
  decode_encode as := by
    show (as.map encode).mapM decode = some as
    induction as with
    | nil => rfl
    | cons a as ih =>
      rw [List.map_cons, List.mapM_cons, RoundTrips.decode_encode a, ih]
      rfl

theorem required_encode [RoundTrips α] (a : α) : required (some (encode a)) = some a :=
  RoundTrips.decode_encode a

theorem withDefault_encode [RoundTrips α] (missing a : α) :
    withDefault missing (some (encode a)) = some a :=
  RoundTrips.decode_encode a

end

/-! ## Enumerations -/

/-- A case is read back if no earlier one has its name. -/
theorem roundTrips_ofCases {α : Type u} {cases : List α} {name : α → String}
    (h : ∀ a, cases.find? (fun b => name b == name a) = some a) :
    @RoundTrips α (ofCases cases name) :=
  letI := ofCases cases name
  ⟨h⟩

instance : RoundTrips Severity := roundTrips_ofCases fun a => by cases a <;> decide

instance : RoundTrips Primitive := roundTrips_ofCases fun a => by cases a <;> decide

instance : RoundTrips DuplicatePolicy := roundTrips_ofCases fun a => by cases a <;> decide

/-! ## Records -/

instance : RoundTrips FileId where
  decode_encode f := by
    show (decode (encode f.index)).map FileId.mk = some f
    rw [RoundTrips.decode_encode]
    rfl

instance : RoundTrips BundleName where
  decode_encode b := by
    show (decode (encode b.text)).map BundleName.mk = some b
    rw [RoundTrips.decode_encode]
    rfl

section

variable {members : List (String × Data)} (h : (members.map Prod.fst).Nodup)

include h

theorem member?_eq_some_iff {name : String} {d : Data} :
    Data.member? name members = some d ↔ (name, d) ∈ members := by
  induction members with
  | nil => simp [Data.member?]
  | cons m members ih =>
    obtain ⟨n, e⟩ := m
    obtain ⟨hn, hrest⟩ := List.nodup_cons.1 h
    rw [Data.member?, List.mem_cons, Prod.mk.injEq]
    by_cases hname : n = name
    · subst hname
      have hlater : (n, d) ∉ members := fun hmem => hn (List.mem_map.2 ⟨(n, d), hmem, rfl⟩)
      simp [hlater, eq_comm]
    · rw [if_neg hname, ih hrest]
      simp [Ne.symm hname]

theorem member?_eq_none_iff {name : String} :
    Data.member? name members = none ↔ ∀ d, (name, d) ∉ members := by
  simp only [← member?_eq_some_iff h, Option.eq_none_iff_forall_ne_some]

/-- A record has the fields that it is made of. -/
theorem fields?_record :
    (Data.record members).fields? (members.map Prod.fst) = some (members.map fun m => some m.2) := by
  show some ((members.map Prod.fst).map fun name => Data.member? name members) = _
  rw [List.map_map]
  refine congrArg some (List.map_congr_left fun m hm => ?_)
  exact (member?_eq_some_iff h).2 hm

end

/-- A record of two fields is read field by field. -/
theorem decode_two {α β γ : Type} [Codec α] [Codec β] [RoundTrips α] [RoundTrips β]
    (make : α → β → γ) {n m : String} (h : n ≠ m) (a : α) (b : β) :
    (do
      let [x, y] ← (Data.record [(n, encode a), (m, encode b)]).fields? [n, m] | none
      some (make (← required x) (← required y))) = some (make a b) := by
  have hfields : (Data.record [(n, encode a), (m, encode b)]).fields? [n, m] =
      some [some (encode a), some (encode b)] := fields?_record (by simpa using h)
  refine Option.bind_eq_some_iff.2 ⟨_, hfields, ?_⟩
  refine Option.bind_eq_some_iff.2 ⟨a, required_encode a, ?_⟩
  refine Option.bind_eq_some_iff.2 ⟨b, required_encode b, ?_⟩
  rfl

instance : RoundTrips Position := ⟨fun p => decode_two Position.mk (by decide) p.line p.character⟩

instance : RoundTrips Range := ⟨fun r => decode_two Range.mk (by decide) r.start r.stop⟩

instance : RoundTrips Location := ⟨fun l => decode_two Location.mk (by decide) l.file l.range⟩

instance : RoundTrips Related := ⟨fun r => decode_two Related.mk (by decide) r.location r.message⟩

instance : RoundTrips Diagnostic where
  decode_encode d := by
    have hnames : ["file", "range", "severity", "code", "message", "related"].Nodup := by decide
    have hfields : (encode d).fields? ["file", "range", "severity", "code", "message", "related"] =
        some [some (encode d.file), some (encode d.range), some (encode d.severity),
          some (encode d.code), some (encode d.message), some (encode d.related)] :=
      fields?_record hnames
    refine Option.bind_eq_some_iff.2 ⟨_, hfields, ?_⟩
    refine Option.bind_eq_some_iff.2 ⟨d.file, required_encode d.file, ?_⟩
    refine Option.bind_eq_some_iff.2 ⟨d.range, required_encode d.range, ?_⟩
    refine Option.bind_eq_some_iff.2 ⟨d.severity, required_encode d.severity, ?_⟩
    refine Option.bind_eq_some_iff.2 ⟨d.code, withDefault_encode none d.code, ?_⟩
    refine Option.bind_eq_some_iff.2 ⟨d.message, required_encode d.message, ?_⟩
    refine Option.bind_eq_some_iff.2 ⟨d.related, required_encode d.related, ?_⟩
    rfl

instance : RoundTrips QualifiedName where
  decode_encode n := by
    have hname : ["segments"].Nodup := by decide
    have hfields : (encode n).fields? ["segments"] = some [some (encode n.segments)] :=
      fields?_record hname
    refine Option.bind_eq_some_iff.2 ⟨_, hfields, ?_⟩
    refine Option.bind_eq_some_iff.2 ⟨n.segments, required_encode n.segments, ?_⟩
    rfl

instance : RoundTrips VarType where
  decode_encode
    | .primitive kind => by
      show (decode (encode kind)).map VarType.primitive = some (.primitive kind)
      rw [RoundTrips.decode_encode]
      rfl
    | .struct name => by
      show (decode (encode name)).map VarType.struct = some (.struct name)
      rw [RoundTrips.decode_encode]
      rfl

end Codec

/-! ## Settings -/

/-- New values for some of the settings. -/
structure Config.Patch where
  duplicates : Option DuplicatePolicy := none
  selfImport : Option Bool := none
  maxSuggestions : Option (Option UInt64) := none

namespace Config.Patch

/-- Replaces the settings that the patch has values for. -/
def apply (p : Patch) (c : Config) : Config where
  duplicates := p.duplicates.getD c.duplicates
  selfImport := p.selfImport.getD c.selfImport
  maxSuggestions := p.maxSuggestions.getD c.maxSuggestions

end Config.Patch

/-- The field of a record: it is not there, or it is there and reads as the value. -/
def Data.HasField {α : Type} [Codec α] (members : List (String × Data)) (name : String) :
    Option α → Prop
  | none => ∀ d, (name, d) ∉ members
  | some a => ∃ d, (name, d) ∈ members ∧ decode d = some a

/-- The record has the fields of the patch, and of the other settings none. Members of other names
do not matter. -/
structure Config.Patch.WrittenIn (p : Patch) (members : List (String × Data)) : Prop where
  duplicates : Data.HasField members "duplicate_declarations" p.duplicates
  selfImport : Data.HasField members "implicit_self_import" p.selfImport
  maxSuggestions : Data.HasField members "max_suggestions" p.maxSuggestions

namespace Codec

/-- A field that may be missing is read as its value, or as the one for a missing field. -/
theorem withDefault_member?_iff {α : Type} [Codec α] {members : List (String × Data)}
    (h : (members.map Prod.fst).Nodup) (name : String) (missing a : α) :
    withDefault missing (Data.member? name members) = some a ↔
      ∃ field : Option α, Data.HasField members name field ∧ a = field.getD missing := by
  cases hm : Data.member? name members with
  | none =>
    have hnone := (member?_eq_none_iff h).1 hm
    constructor
    · intro ha
      exact ⟨none, hnone, (Option.some.inj ha).symm⟩
    · rintro ⟨none | b, hfield, rfl⟩
      · rfl
      · obtain ⟨d, hd, -⟩ := hfield
        exact absurd hd (hnone d)
  | some d =>
    have hd := (member?_eq_some_iff h).1 hm
    constructor
    · intro ha
      exact ⟨some a, ⟨d, hd, ha⟩, rfl⟩
    · rintro ⟨none | b, hfield, rfl⟩
      · exact absurd hd (hfield d)
      · obtain ⟨d', hd', hb⟩ := hfield
        rw [← member?_eq_some_iff h, hm, Option.some.injEq] at hd'
        subst hd'
        exact hb

/-- A record is read as the default settings with a patch that is written in it. -/
theorem decode_config_iff {members : List (String × Data)} (h : (members.map Prod.fst).Nodup)
    (c : Config) :
    decode (.record members) = some c ↔
      ∃ p : Config.Patch, p.WrittenIn members ∧ c = p.apply {} := by
  have hread : (decode (.record members) : Option Config) = (do
      some (Config.mk
        (← withDefault .error (Data.member? "duplicate_declarations" members))
        (← withDefault true (Data.member? "implicit_self_import" members))
        (← withDefault none (Data.member? "max_suggestions" members)))) := rfl
  rw [hread]
  simp only [Option.bind_eq_bind, Option.bind_eq_some_iff, withDefault_member?_iff h]
  constructor
  · rintro ⟨-, ⟨duplicates, hduplicates, rfl⟩, -, ⟨selfImport, hselfImport, rfl⟩,
      -, ⟨maxSuggestions, hmaxSuggestions, rfl⟩, hc⟩
    exact ⟨⟨duplicates, selfImport, maxSuggestions⟩, ⟨hduplicates, hselfImport, hmaxSuggestions⟩,
      (Option.some.inj hc).symm⟩
  · rintro ⟨p, hp, rfl⟩
    exact ⟨_, ⟨p.duplicates, hp.duplicates, rfl⟩, _, ⟨p.selfImport, hp.selfImport, rfl⟩,
      _, ⟨p.maxSuggestions, hp.maxSuggestions, rfl⟩, rfl⟩

instance : RoundTrips Config where
  decode_encode c := by
    let members : List (String × Data) := [("duplicate_declarations", encode c.duplicates),
      ("implicit_self_import", encode c.selfImport), ("max_suggestions", encode c.maxSuggestions)]
    have hnames : (members.map Prod.fst).Nodup := by
      show ["duplicate_declarations", "implicit_self_import", "max_suggestions"].Nodup
      decide
    have hwritten : Config.Patch.WrittenIn
        ⟨some c.duplicates, some c.selfImport, some c.maxSuggestions⟩ members :=
      { duplicates := ⟨encode c.duplicates, by simp [members], RoundTrips.decode_encode _⟩
        selfImport := ⟨encode c.selfImport, by simp [members], RoundTrips.decode_encode _⟩
        maxSuggestions := ⟨encode c.maxSuggestions, by simp [members], RoundTrips.decode_encode _⟩ }
    exact (decode_config_iff hnames c).2 ⟨_, hwritten, rfl⟩

end Codec

/-- **Written values are read back.** This holds of every kind of value that leaves the library. A
record of settings may also lack some of the fields and have members of other names: what it is read
as are the default settings with those fields replaced that it has, and it is read exactly if each of
these reads as a value of its setting. -/
theorem written_values_are_read_back :
    (∀ f : FileId, decode (encode f) = some f) ∧
    (∀ p : Position, decode (encode p) = some p) ∧
    (∀ r : Range, decode (encode r) = some r) ∧
    (∀ l : Location, decode (encode l) = some l) ∧
    (∀ s : Severity, decode (encode s) = some s) ∧
    (∀ r : Related, decode (encode r) = some r) ∧
    (∀ d : Diagnostic, decode (encode d) = some d) ∧
    (∀ p : Primitive, decode (encode p) = some p) ∧
    (∀ t : VarType, decode (encode t) = some t) ∧
    (∀ n : QualifiedName, decode (encode n) = some n) ∧
    (∀ b : BundleName, decode (encode b) = some b) ∧
    (∀ p : DuplicatePolicy, decode (encode p) = some p) ∧
    (∀ c : Config, decode (encode c) = some c) ∧
    ∀ members : List (String × Data), (members.map Prod.fst).Nodup → ∀ c : Config,
      (decode (.record members) = some c ↔
        ∃ p : Config.Patch, p.WrittenIn members ∧ c = p.apply {}) := by
  have hback : ∀ (α : Type) [Codec α] [Codec.RoundTrips α] (a : α), decode (encode a) = some a :=
    fun _ _ _ => Codec.RoundTrips.decode_encode
  refine ⟨hback _, hback _, hback _, hback _, hback _, hback _, hback _, hback _, hback _, hback _,
    hback _, hback _, hback _, fun members hnames c => ?_⟩
  exact Codec.decode_config_iff hnames c

/-- Two of the three settings, one of them by a null, and a member that means nothing. -/
theorem settings_are_read_from_two_fields :
    let members : List (String × Data) :=
      [("max_suggestions", .null), ("colour", .text "red"), ("implicit_self_import", .bool false)]
    (members.map Prod.fst).Nodup ∧
      Config.Patch.WrittenIn { selfImport := some false, maxSuggestions := some none } members ∧
      decode (.record members) = some ({ selfImport := false } : Config) := by
  intro members
  obtain ⟨-, -, -, -, -, -, -, -, -, -, -, -, -, hsettings⟩ := written_values_are_read_back
  have hnames : (members.map Prod.fst).Nodup := by decide
  have hwritten :
      Config.Patch.WrittenIn { selfImport := some false, maxSuggestions := some none } members :=
    { duplicates := fun d => by simp [members]
      selfImport := ⟨.bool false, by simp [members], rfl⟩
      maxSuggestions := ⟨.null, by simp [members], rfl⟩ }
  exact ⟨hnames, hwritten, (hsettings members hnames _).2 ⟨_, hwritten, rfl⟩⟩

end NameScope
