import NameScope.Proofs.Linking.Anchored
import NameScope.Proofs.Linking.Places
import NameScope.Proofs.Name.WrittenForm

/-!
# A shown type is known by its text

A type is shown by its text, and texts need not differ where types do: the name of a struct is the
name of its package with one more segment, and what a script declares is any text. A struct that is
declared as `b::C` in the package `a` would be shown as the struct `C` of the package `a::b` is.

The first one is never shown. A struct becomes a type only through a reference that means it, and a
reference means a struct only by its last segment (`Registry.mem_alternatives_lookupStruct`). That
is an identifier, since references are checked; a struct with another name cannot be referred to.
So the types that are there once a session is indexed and its scripts are linked
(`Indexed.Gives`) are all readable, and are read back from what is shown of them. None of this
depends on the alphabet of the names.

* one step: what a reference means alone is readable (`Registry.OfChecked.readable_struct`); so are
  the type of an annotation, a stored type and the type of an expression;
* all of a session: `Indexed.Gives.readable`.

**Results.** `VarType.read?_render`: a readable type is read back;
`shown_types_are_known_by_their_texts`: so no two types of a session are shown alike, and the text
of a struct type shows that it is one.
-/
namespace NameScope

/-! ## Checked names -/

namespace QualifiedName

/-- The name was read from a text or made of segments, not by `append`. -/
def Checked (n : QualifiedName) (A : Alphabet := .unicode) : Prop :=
  (∃ text, parse text A = .ok n) ∨ ∃ segments, ofSegments segments A = .ok n

variable {A : Alphabet} {n : QualifiedName} {s : String}

theorem checked_iff : n.Checked A ↔ n.segments ≠ [] ∧ ∀ s ∈ n.segments, Identifier.Valid s A := by
  constructor
  · rintro (⟨text, h⟩ | ⟨segments, h⟩)
    · unfold parse at h
      split at h
      · cases h
      · obtain ⟨hne, hvalid, rfl⟩ := ofSegments_eq_ok_iff.1 h
        exact ⟨hne, hvalid⟩
    · obtain ⟨hne, hvalid, rfl⟩ := ofSegments_eq_ok_iff.1 h
      exact ⟨hne, hvalid⟩
  · rintro ⟨hne, hvalid⟩
    exact .inr ⟨n.segments, ofSegments_eq_ok_iff.2 ⟨hne, hvalid, rfl⟩⟩

instance : Decidable (n.Checked A) :=
  decidable_of_iff (n.segments ≠ [] ∧ ∀ s ∈ n.segments, Identifier.isIdentifier s A = true)
    (by simp only [checked_iff, Identifier.isIdentifier_iff])

theorem Checked.parse_text (h : n.Checked A) : parse n.text A = .ok n := by
  obtain ⟨hne, hvalid⟩ := checked_iff.1 h
  exact parse_text_of_ofSegments (ofSegments_eq_ok_iff.2 ⟨hne, hvalid, rfl⟩)

theorem Checked.last (h : n.Checked A) : Identifier.Valid n.last A := by
  obtain ⟨hne, hvalid⟩ := checked_iff.1 h
  have hlast : n.last = n.segments.getLast hne := by
    unfold QualifiedName.last
    rw [List.getLast?_eq_some_getLast hne]
    rfl
  rw [hlast]
  exact hvalid _ (List.getLast_mem hne)

theorem Checked.append (h : n.Checked A) (hs : Identifier.Valid s A) : (n.append s).Checked A := by
  obtain ⟨-, hvalid⟩ := checked_iff.1 h
  refine checked_iff.2 ⟨List.append_ne_nil_of_right_ne_nil _ (List.cons_ne_nil _ _), ?_⟩
  exact List.forall_mem_append.2 ⟨hvalid, List.forall_mem_singleton.2 hs⟩

/-- A longer name is written with a separator. -/
theorem Checked.separator_infix_text_append (h : n.Checked A) (s : String) :
    separator <:+: (n.append s).text.toList := by
  rw [text_append (checked_iff.1 h).1, String.toList_append, String.toList_append]
  exact ⟨n.text.toList, s.toList, rfl⟩

end QualifiedName

/-! ## Reading a type -/

open QualifiedName (separator)

theorem Primitive.not_separator_infix_keyword (kind : Primitive) :
    ¬ separator <:+: kind.keyword.toList := by
  refine QualifiedName.not_infix_of_colon_free ?_
  cases kind <;> decide

namespace VarType

/-- A struct type is readable if the name of its package is checked and its own is an identifier. -/
def Readable (type : VarType) (A : Alphabet := .unicode) : Prop :=
  match type with
  | .primitive _ => True
  | .struct q =>
    ∃ (package : QualifiedName) (name : String), package.Checked A ∧ Identifier.Valid name A ∧
      q = package.append name

/-- Reads what is shown of a type. -/
def read? (text : String) (A : Alphabet := .unicode) : Option VarType :=
  -- there may be an alphabet to which this text is an identifier
  if text = render none then none
  else
    match Primitive.ofKeyword? text with
    | some kind => some (.primitive kind)
    | none => (QualifiedName.parse text A).toOption.map .struct

/-- What is shown of a readable struct type. -/
structure ShownAsStruct (q : QualifiedName) (A : Alphabet := .unicode) : Prop where
  separated : separator <:+: (VarType.struct q).text.toList
  parsed : QualifiedName.parse (VarType.struct q).text A = .ok q
  notKeyword : ∀ kind : Primitive, (VarType.struct q).text ≠ kind.keyword
  notUnknown : (VarType.struct q).text ≠ render none

variable {A : Alphabet}

theorem Readable.shownAsStruct {q : QualifiedName} (h : (VarType.struct q).Readable A) :
    ShownAsStruct q A := by
  obtain ⟨package, name, hpackage, hname, rfl⟩ := h
  have hsep : separator <:+: (VarType.struct (package.append name)).text.toList :=
    hpackage.separator_infix_text_append name
  refine ⟨hsep, (hpackage.append hname).parse_text, fun kind hkind => ?_, fun hunknown => ?_⟩
  · rw [hkind] at hsep
    exact kind.not_separator_infix_keyword hsep
  · rw [hunknown] at hsep
    exact QualifiedName.not_infix_of_colon_free (by decide) hsep

/-- **A readable type is read back** from what is shown of it, and so is an unknown one. -/
theorem read?_render {t : Option VarType} (h : ∀ type, t = some type → type.Readable A) :
    read? (render t) A = t := by
  match t with
  | none => exact if_pos rfl
  | some (.primitive kind) =>
    have hunknown : kind.keyword ≠ render none := by cases kind <;> decide
    change read? kind.keyword A = some (.primitive kind)
    unfold read?
    rw [if_neg hunknown, Primitive.ofKeyword?_keyword]
  | some (.struct q) =>
    have hshown := (h (.struct q) rfl).shownAsStruct
    -- keywords are tried first, and some of them are identifiers
    have hkeyword : Primitive.ofKeyword? (VarType.struct q).text = none := by
      refine List.find?_eq_none.2 fun kind _ hkind => ?_
      exact hshown.notKeyword kind (beq_iff_eq.1 hkind).symm
    change read? (VarType.struct q).text A = some (.struct q)
    unfold read?
    rw [if_neg hshown.notUnknown, hkeyword, hshown.parsed]
    rfl

-- two types with one text; only the first is readable
example : read? (render (some (.struct ⟨["a", "b", "C"]⟩))) = some (.struct ⟨["a", "b", "C"]⟩) ∧
    read? (render (some (.struct ⟨["a", "b::C"]⟩))) = some (.struct ⟨["a", "b", "C"]⟩) := by
  decide +kernel

end VarType

/-! ## What references mean -/

/-- The name of the package and all names that refer to something are checked. What the script
declares is any text. -/
structure Script.NamesChecked (script : Script) (A : Alphabet := .unicode) : Prop where
  package : script.package.Checked A
  references : ∀ r ∈ script.references, ∀ written ∈ r.name?, written.name.Checked A

variable {A : Alphabet}

instance (script : Script) : Decidable (script.NamesChecked A) :=
  decidable_of_iff
    (script.package.Checked A ∧
      ∀ r ∈ script.references, ∀ written ∈ r.name?, written.name.Checked A)
    ⟨fun h => ⟨h.1, h.2⟩, fun h => ⟨h.package, h.references⟩⟩

/-- The registry and the type names were built from scripts whose names are checked. -/
structure Registry.OfChecked (r : Registry) (types : TypeIndex) (config : Config)
    (scripts : List BundledScript) (A : Alphabet := .unicode) : Prop where
  typeNames : r.typeNames = types
  made : r.MadeFrom config types scripts
  checked : ∀ s ∈ scripts, s.script.NamesChecked A

theorem ofChecked_ofScripts {config : Config} {scripts : List BundledScript}
    (h : ∀ s ∈ scripts, s.script.NamesChecked A) :
    let session := Indexed.ofScripts config scripts
    session.registry.OfChecked session.types config scripts A :=
  ⟨typeNames_ofScripts config scripts, madeFrom_ofScripts config scripts, h⟩

namespace Registry.OfChecked

variable {r : Registry} {types : TypeIndex} {config : Config} {scripts : List BundledScript}
  {script : Script}

/-- **What a checked reference means alone is readable**: the script that declares the struct has a
checked package, and the struct is named by the last segment of the reference. -/
theorem readable_struct (h : r.OfChecked types config scripts A) {imports : ImportSet}
    {n : QualifiedName} {m : StructMatch} (hn : n.Checked A)
    (hm : (r.lookupStruct imports n).single? = some m) : (VarType.struct m.qualified).Readable A := by
  obtain ⟨ids, hmem⟩ := Lookup.mem_of_single? hm
  obtain ⟨id, index, name, d, hindex, hd, -, hlast, -, he⟩ := mem_alternatives_lookupStruct.1 hmem
  obtain ⟨s, hs, hid, -⟩ := h.made.struct hindex hd
  have hpackage : id.package.Checked A := by
    rw [← hid]
    exact (h.checked s hs).package
  -- the struct may be declared under any text, but the reference asks for this one only
  have hname : Identifier.Valid name A := by
    rw [hlast]
    exact hn.last
  cases he
  exact ⟨id.package, name, hpackage, hname, rfl⟩

/-- The type of an annotation is readable, whatever the script imports. -/
theorem readable_typeOf (h : r.OfChecked types config scripts A) (hscript : script.NamesChecked A)
    {type : TypeRef} (hmem : .typeRef type ∈ script.references) {imports : ImportSet} {t : VarType}
    (ht : types.typeOf imports type = some t) : t.Readable A := by
  cases t with
  | primitive kind => exact trivial
  | struct q =>
    rw [← h.typeNames] at ht
    obtain ⟨written, m, rfl, hm, rfl, -⟩ := struct_of_typeOf ht
    exact h.readable_struct (hscript.references _ hmem written rfl) hm

theorem readable_stored (h : r.OfChecked types config scripts A) {t : VarType} (ht : r.Stores t) :
    t.Readable A := by
  obtain ⟨s, hs, type, hmem, htype⟩ := ht.annotated h.made
  exact h.readable_typeOf (h.checked s hs) hmem htype

variable {s : LinkScope} {func : FuncDecl}

theorem readable_param (h : s.registry.OfChecked s.types config scripts A)
    (hscript : script.NamesChecked A) (hfunc : func ∈ script.funcs) {param : MemberDecl}
    (hparam : param ∈ func.params) {t : VarType}
    (ht : s.types.typeOf s.imports param.type = some t) : t.Readable A := by
  have hmem := func.annotations_subset (FuncDecl.typeRef_param_mem hparam)
  exact h.readable_typeOf hscript (Script.func_references_subset hfunc hmem) ht

/-- The type of an expression is readable, at any place in the body of a func. -/
theorem readable_part (h : s.registry.OfChecked s.types config scripts A)
    (hscript : script.NamesChecked A) (hfunc : func ∈ script.funcs) {path : List Nat} {e : Expr}
    (hpart : func.part? path = some e) {t : VarType} (ht : e.type s func.params = some t) :
    t.Readable A := by
  cases t with
  | primitive kind => exact trivial
  | struct q =>
    rcases Expr.struct_type_cases ht with ⟨param, hparam, ht⟩ | hstored | ⟨name, m, hname, hm, rfl⟩
    · exact h.readable_param hscript hfunc hparam ht
    · exact h.readable_stored hstored
    · have hmem : .structLit name ∈ script.references :=
        Script.func_references_subset hfunc (FuncDecl.part_references_subset hpart hname)
      exact h.readable_struct (hscript.references _ hmem name rfl) hm

end Registry.OfChecked

/-! ## The types of a session -/

/-- The body of a func of one of the scripts is linked in the scope `body`, which starts from that
of the script, `s`. -/
structure Indexed.LinksBody (x : Indexed) (linked : List Script) (s : LinkScope) (script : Script)
    (func : FuncDecl) (body : LinkScope) : Prop where
  isLinked : script ∈ linked
  isFunc : func ∈ script.funcs
  outside : ∃ settings, s = LinkScope.ofScript x.registry x.types settings script
  scope : (s.linkParams func.params).outcome = .ok body

/-- The types, known or not, that are there once a session is indexed: what is stored, and what is
computed while the scripts `linked` are linked, whatever the settings. -/
inductive Indexed.Gives (x : Indexed) (linked : List Script) : Option VarType → Prop
  /-- No type was written, or it was not found. -/
  | unknown : Gives x linked none
  | stored {type : VarType} (h : x.registry.Stores type) : Gives x linked (some type)
  /-- The type of an annotation. -/
  | annotated {script : Script} {settings : Config} {type : TypeRef} {t : Option VarType}
      (hscript : script ∈ linked) (hmem : .typeRef type ∈ script.references)
      (h : ((LinkScope.ofScript x.registry x.types settings script).linkType type).outcome =
        .ok t) : Gives x linked t
  /-- The type of a parameter, which is recorded at its uses. -/
  | parameter {s : LinkScope} {script : Script} {func : FuncDecl} {body : LinkScope}
      {name : QualifiedName} {param : Local} (hbody : x.LinksBody linked s script func body)
      (hparam : body.local? name = some param) : Gives x linked param.type
  /-- The type of an expression, at any place in the body of a func. -/
  | expression {s : LinkScope} {script : Script} {func : FuncDecl} {body : LinkScope}
      {path : List Nat} {e : Expr} {t : Option VarType}
      (hbody : x.LinksBody linked s script func body) (hpart : func.part? path = some e)
      (h : (e.link body).outcome = .ok t) : Gives x linked t

/-- **All types of a session that are known are readable.** -/
theorem Indexed.Gives.readable {x : Indexed} {config : Config} {scripts : List BundledScript}
    (hx : x.registry.OfChecked x.types config scripts A) {linked : List Script}
    (hlinked : ∀ script ∈ linked, script.NamesChecked A) {t : Option VarType}
    (h : x.Gives linked t) : ∀ type, t = some type → type.Readable A := by
  intro type ht
  cases h with
  | unknown => cases ht
  | stored h =>
    cases ht
    exact hx.readable_stored h
  | @annotated script settings written t hscript hmem h =>
    let s := LinkScope.ofScript x.registry x.types settings script
    have htype := (linkType_follows (LinkScope.shows_self (s := s) rfl) written).value_eq h
    exact hx.readable_typeOf (hlinked script hscript) hmem (htype.symm.trans ht)
  | @parameter s script func body name param hbody hparam =>
    obtain ⟨hscript, hfunc, ⟨settings, rfl⟩, hbody⟩ := hbody
    rw [(linkParams_shows rfl hbody).local?_eq name] at hparam
    obtain ⟨decl, hdecl, rfl⟩ := Option.map_eq_some_iff.1 hparam
    obtain ⟨text, -, hfind⟩ := Option.bind_eq_some_iff.1 hdecl
    exact Registry.OfChecked.readable_param hx (hlinked script hscript) hfunc
      (List.mem_of_find?_eq_some hfind) ht
  | @expression s script func body path e t hbody hpart h =>
    obtain ⟨hscript, hfunc, ⟨settings, rfl⟩, hbody⟩ := hbody
    have htype := Expr.type_of_link (linkParams_shows rfl hbody) h
    exact Registry.OfChecked.readable_part hx (hlinked script hscript) hfunc hpart
      (htype.symm.trans ht)

/-- **A shown type is known by its text.** In a session the names of packages and references are
checked, and a struct is declared under any text. Whatever the scripts, the settings and the scripts
that are linked, two types that are stored or computed are shown alike only if they are the same;
an unknown type counts as one. What is shown of a struct type has a separator in it and is read as
the name of the struct, so it is neither a keyword nor what is shown of an unknown type. -/
theorem shown_types_are_known_by_their_texts (config : Config) (scripts : List BundledScript)
    (linked : List Script) (hscripts : ∀ s ∈ scripts, s.script.NamesChecked)
    (hlinked : ∀ script ∈ linked, script.NamesChecked) :
    let session := Indexed.ofScripts config scripts
    (∀ t t', session.Gives linked t → session.Gives linked t' →
      (t = t' ↔ VarType.render t = VarType.render t')) ∧
    ∀ q, session.Gives linked (some (.struct q)) → VarType.ShownAsStruct q := by
  intro session
  have hsession : session.registry.OfChecked session.types config scripts :=
    ofChecked_ofScripts hscripts
  have hback : ∀ t, session.Gives linked t → VarType.read? (VarType.render t) = t := fun t ht =>
    VarType.read?_render (ht.readable hsession hlinked)
  refine ⟨fun t t' ht ht' => ⟨congrArg VarType.render, fun h => ?_⟩, fun q hq => ?_⟩
  · rw [← hback t ht, h, hback t' ht']
  · exact (hq.readable hsession hlinked (.struct q) rfl).shownAsStruct

/-- The package `a` declares `b::C`, the package `a::b` declares `C`. A third script imports both
and refers to `b::C`, to `C` and to a struct that there is not. -/
def oneTextTwice : List BundledScript :=
  [⟨⟨"core"⟩, {
      file := ⟨0⟩
      package := ⟨["a"]⟩
      structs := [{ name := { text := "b::C" } }] }⟩,
    ⟨⟨"core"⟩, {
      file := ⟨1⟩
      package := ⟨["a", "b"]⟩
      structs := [{ name := { text := "C" } }] }⟩,
    ⟨⟨"core"⟩, {
      file := ⟨2⟩
      package := ⟨["game"]⟩
      imports := [{ name := ⟨["a"]⟩ }, { name := ⟨["a", "b"]⟩ }]
      funcs := [{
        name := { text := "main" }
        params := [
          { name := { text := "c" }, type := .named { name := ⟨["b", "C"]⟩ } },
          { name := { text := "d" }, type := .named { name := ⟨["D"]⟩ } }]
        body := [.structLit { name := ⟨["C"]⟩ } [] {}] }] }⟩]

/-- The literal is of the struct `C` of `a::b`, and the other struct of that text, though declared,
is no type at all. -/
theorem one_text_stands_for_one_type :
    let session := Indexed.ofScripts {} oneTextTwice
    let linked := oneTextTwice.map (·.script)
    let shown : QualifiedName := ⟨["a", "b", "C"]⟩
    let raw : QualifiedName := ⟨["a", "b::C"]⟩
    ((∀ s ∈ oneTextTwice, s.script.NamesChecked) ∧ ∀ script ∈ linked, script.NamesChecked) ∧
      session.Gives linked (some (.struct shown)) ∧ VarType.ShownAsStruct shown ∧
      (∃ id d, session.registry.Declares id raw d) ∧
      VarType.render (some (.struct raw)) = VarType.render (some (.struct shown)) ∧
      ¬ session.Gives linked (some (.struct raw)) := by
  intro session linked shown raw
  have hscripts : ∀ s ∈ oneTextTwice, s.script.NamesChecked := by decide +kernel
  have hlinked : ∀ script ∈ linked, script.NamesChecked := by decide +kernel
  obtain ⟨halike, hstruct⟩ :=
    shown_types_are_known_by_their_texts {} oneTextTwice linked hscripts hlinked
  have hshown : session.Gives linked (some (.struct shown)) := by
    have hmem : oneTextTwice[2].script ∈ linked := List.mem_map.2 ⟨_, List.getElem_mem _, rfl⟩
    have hpart : oneTextTwice[2].script.funcs[0].part? [0] =
        some (.structLit { name := ⟨["C"]⟩ } [] {}) := rfl
    exact .expression ⟨hmem, List.getElem_mem _, ⟨{}, rfl⟩, rfl⟩ hpart rfl
  have htext : VarType.render (some (.struct raw)) = VarType.render (some (.struct shown)) := by
    decide
  refine ⟨⟨hscripts, hlinked⟩, hshown, hstruct shown hshown, ?_, htext, fun hraw => ?_⟩
  · exact ⟨⟨⟨"core"⟩, ⟨["a"]⟩⟩, _, _, "b::C", rfl, rfl, rfl⟩
  · exact absurd ((halike _ _ hraw hshown).2 htext) (by decide)

end NameScope
