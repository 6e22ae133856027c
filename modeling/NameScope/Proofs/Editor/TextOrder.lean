import NameScope.Proofs.Editor.Agreement

/-!
# References in the order of the text

A reader meets the references of a script in the order of the text. Inside one declaration this is
also the order in which they are listed: `Expr.InOrder` says of the parts of an expression how they
follow each other, and `Expr.inOrder_iff` that this is the order of the list. Between declarations
it need not be: all structs are listed before all funcs, while in the text they may alternate.

So the list of a script that is laid out properly (`Script.LaidOut`) is sorted exactly if its
declarations are listed as they stand in the text (`Script.ListedInOrder`). Declarations without
references do not matter, and for the links of the script those without a linked reference.

* `Script.sorted_filter_iff`: the references of any sort, from the references of two declarations
  that do not overlap (`DeclText.startBy_iff`).

**Results.**
* `references_are_sorted_as_listed`: references and document links are sorted exactly if no listed
  declaration stands before an earlier listed one in the text;
* `struct_after_func_is_listed_first`: with a struct after a func they are not sorted.
-/
namespace NameScope

/-- `a` starts where `b` starts or before. -/
def Reference.StartsBy (a b : Reference) : Prop := a.range.start ≤ b.range.start

instance (a b : Reference) : Decidable (a.StartsBy b) :=
  inferInstanceAs (Decidable (a.range.start ≤ b.range.start))

/-! ## Inside a declaration -/

mutual

/-- The references of an expression follow each other in the text: a callee before the arguments, a
value before the name of its field, the name of a struct literal before its fields. -/
def Expr.InOrder : Expr → Prop
  | .identifier _ => True
  | .call callee args _ =>
    (∀ r ∈ Expr.argReferences args, Reference.StartsBy (.callee callee) r) ∧ Expr.ArgsInOrder args
  | .field value name => value.InOrder ∧ ∀ r ∈ value.references, r.StartsBy (.field name)
  | .structLit name inits _ =>
    (∀ r ∈ Expr.initReferences inits, Reference.StartsBy (.structLit name) r) ∧
      Expr.InitsInOrder inits
  | .constant _ => True

/-- Each expression before the next. -/
def Expr.ArgsInOrder : List Expr → Prop
  | [] => True
  | e :: es => e.InOrder ∧ Expr.ArgsInOrder es ∧
    ∀ r ∈ e.references, ∀ r' ∈ Expr.argReferences es, r.StartsBy r'

/-- The name of each field before its value, and both before the next field. -/
def Expr.InitsInOrder : List (WrittenName × Expr) → Prop
  | [] => True
  | (name, value) :: inits =>
    (∀ r ∈ value.references, Reference.StartsBy (.init name) r) ∧ value.InOrder ∧
      Expr.InitsInOrder inits ∧
      ∀ r ∈ Reference.init name :: value.references, ∀ r' ∈ Expr.initReferences inits, r.StartsBy r'

end

mutual

/-- An expression is in order exactly if its references are listed in order. -/
theorem Expr.inOrder_iff : (e : Expr) → (e.InOrder ↔ e.references.Pairwise Reference.StartsBy)
  | .identifier ident => by simp [Expr.InOrder, Expr.references]
  | .call callee args _ => by
    rw [Expr.InOrder, Expr.references, List.pairwise_cons, Expr.argsInOrder_iff args]
  | .field value name => by
    rw [Expr.InOrder, Expr.references, List.pairwise_append, Expr.inOrder_iff value]
    simp
  | .structLit name inits _ => by
    rw [Expr.InOrder, Expr.references, List.pairwise_cons, Expr.initsInOrder_iff inits]
  | .constant _ => by simp [Expr.InOrder, Expr.references]

theorem Expr.argsInOrder_iff : (es : List Expr) →
    (Expr.ArgsInOrder es ↔ (Expr.argReferences es).Pairwise Reference.StartsBy)
  | [] => by simp [Expr.ArgsInOrder, Expr.argReferences]
  | e :: es => by
    rw [Expr.ArgsInOrder, Expr.argReferences, List.pairwise_append, Expr.inOrder_iff e,
      Expr.argsInOrder_iff es]

theorem Expr.initsInOrder_iff : (inits : List (WrittenName × Expr)) →
    (Expr.InitsInOrder inits ↔ (Expr.initReferences inits).Pairwise Reference.StartsBy)
  | [] => by simp [Expr.InitsInOrder, Expr.initReferences]
  | (name, value) :: inits => by
    rw [Expr.InitsInOrder, Expr.initReferences, ← List.cons_append, List.pairwise_append,
      List.pairwise_cons, Expr.inOrder_iff value, Expr.initsInOrder_iff inits]
    exact and_assoc.symm

end

/-- The types of the fields follow each other. -/
def StructDecl.InOrder (d : StructDecl) : Prop := d.references.Pairwise Reference.StartsBy

/-- The types of the parameters follow each other, then comes the type of the return value, then
the body. -/
def FuncDecl.InOrder (d : FuncDecl) : Prop :=
  d.annotations.Pairwise Reference.StartsBy ∧ Expr.ArgsInOrder d.body ∧
    ∀ r ∈ d.annotations, ∀ r' ∈ Expr.argReferences d.body, r.StartsBy r'

theorem FuncDecl.inOrder_iff (d : FuncDecl) :
    d.InOrder ↔ d.references.Pairwise Reference.StartsBy := by
  unfold InOrder references
  rw [← Expr.argReferences_eq_flatMap, List.pairwise_append, Expr.argsInOrder_iff]

instance (d : FuncDecl) : Decidable d.InOrder := decidable_of_iff _ d.inOrder_iff.symm

/-! ## Between declarations -/

/-- A declaration, as far as its text goes. -/
structure DeclText where
  range : Range
  references : List Reference

/-- Its references lie in its range, and none of them is empty. -/
def DeclText.Encloses (text : DeclText) : Prop :=
  ∀ r ∈ text.references, text.range.covers r.range = true ∧ r.range.start < r.range.stop

instance (text : DeclText) : Decidable text.Encloses := inferInstanceAs (Decidable (∀ r ∈ _, _))

/-- `a` ends where `b` starts or before. -/
def Range.Precedes (a b : Range) : Prop := a.stop ≤ b.start

instance (a b : Range) : Decidable (a.Precedes b) := inferInstanceAs (Decidable (a.stop ≤ b.start))

/-- Of two ranges that do not overlap, one precedes the other if both have a position. -/
theorem Range.Disjoint.precedes {a b : Range} (h : a.Disjoint b) (ha : a.start < a.stop)
    (hb : b.start < b.stop) : a.Precedes b ∨ b.Precedes a := by
  have hastart := h a.start
  have hbstart := h b.start
  simp only [contains_iff_rank] at hastart hbstart
  rw [Position.lt_iff_rank] at ha hb
  unfold Precedes
  rw [Position.le_iff_rank, Position.le_iff_rank]
  omega

theorem Range.disjoint_of_precedes {a b : Range} (h : a.Precedes b ∨ b.Precedes a) :
    a.Disjoint b := by
  rcases h with h | h
  · exact disjoint_of_le h
  · exact fun p hp => disjoint_of_le h p hp.symm

section
variable {p : Reference → Bool} {a b : DeclText}

theorem DeclText.Encloses.rank_le (h : a.Encloses) {r : Reference} (hr : r ∈ a.references) :
    a.range.start.rank ≤ r.range.start.rank ∧ r.range.start.rank < a.range.stop.rank := by
  obtain ⟨hcovers, hlt⟩ := h r hr
  rw [Range.covers_iff_rank] at hcovers
  rw [Position.lt_iff_rank] at hlt
  omega

/-- The references of one declaration start before those of another exactly if it precedes the
other, unless one of them has no such reference. -/
theorem DeclText.startBy_iff (ha : a.Encloses) (hb : b.Encloses) (h : a.range.Disjoint b.range) :
    (∀ r ∈ a.references.filter p, ∀ r' ∈ b.references.filter p, r.StartsBy r') ↔
      (a.references.any p = true → b.references.any p = true → a.range.Precedes b.range) := by
  simp only [List.mem_filter, List.any_eq_true, and_imp, forall_exists_index]
  unfold Reference.StartsBy Range.Precedes
  simp only [Position.le_iff_rank]
  constructor
  · intro hstarts r hr hpr r' hr' hpr'
    have hle := hstarts r hr hpr r' hr' hpr'
    have hra := ha.rank_le hr
    have hrb := hb.rank_le hr'
    have hone := h.precedes ((Position.lt_iff_rank _ _).2 (by omega))
      ((Position.lt_iff_rank _ _).2 (by omega))
    unfold Range.Precedes at hone
    rw [Position.le_iff_rank, Position.le_iff_rank] at hone
    omega
  · intro hprecedes r hr hpr r' hr' hpr'
    have hle := hprecedes r hr hpr r' hr' hpr'
    have hra := ha.rank_le hr
    have hrb := hb.rank_le hr'
    omega

/-- The references of several declarations, of any sort, are sorted exactly if the declarations
that have some are listed as they stand in the text. -/
theorem pairwise_texts_iff {texts : List DeclText} (hin : ∀ text ∈ texts, text.Encloses)
    (horder : ∀ text ∈ texts, text.references.Pairwise Reference.StartsBy)
    (hapart : texts.Pairwise fun a b => a.range.Disjoint b.range) :
    ((texts.flatMap DeclText.references).filter p).Pairwise Reference.StartsBy ↔
      (texts.filter (·.references.any p)).Pairwise fun a b => a.range.Precedes b.range := by
  rw [List.filter_flatMap, List.pairwise_flatMap, List.pairwise_filter]
  rw [and_iff_right fun text htext => (horder text htext).filter p]
  constructor
  · intro hstarts
    exact (hapart.and hstarts).imp_of_mem fun ha hb ⟨h, hab⟩ =>
      (DeclText.startBy_iff (hin _ ha) (hin _ hb) h).1 hab
  · intro hprecedes
    exact (hapart.and hprecedes).imp_of_mem fun ha hb ⟨h, hab⟩ =>
      (DeclText.startBy_iff (hin _ ha) (hin _ hb) h).2 hab

end

namespace Script

/-- The declarations in the order in which their references are listed. -/
def texts (s : Script) : List DeclText :=
  s.structs.map (fun d => ⟨d.range, d.references⟩) ++ s.funcs.map fun d => ⟨d.range, d.references⟩

theorem flatMap_texts (s : Script) : s.texts.flatMap DeclText.references = s.references := by
  unfold texts references
  rw [List.flatMap_append, List.flatMap_map, List.flatMap_map]

/-- The declarations do not overlap, each has its references in its range, and there they are in
order. Nothing is said of how the declarations follow each other. -/
structure LaidOut (s : Script) : Prop where
  apart : s.texts.Pairwise fun a b => a.range.Disjoint b.range
  encloses : ∀ text ∈ s.texts, text.Encloses
  structs : ∀ d ∈ s.structs, d.InOrder
  funcs : ∀ d ∈ s.funcs, d.InOrder

/-- The declarations that have a reference of a sort are listed as they stand in the text: the
structs, the funcs, and every struct before every func. -/
structure ListedInOrder (s : Script) (p : Reference → Bool) : Prop where
  structs : (s.structs.filter (·.references.any p)).Pairwise fun a b => a.range.Precedes b.range
  funcs : (s.funcs.filter (·.references.any p)).Pairwise fun a b => a.range.Precedes b.range
  structs_first : ∀ d ∈ s.structs, d.references.any p = true →
    ∀ f ∈ s.funcs, f.references.any p = true → d.range.Precedes f.range

theorem pairwise_texts_precedes_iff (s : Script) (p : Reference → Bool) :
    ((s.texts.filter (·.references.any p)).Pairwise fun a b => a.range.Precedes b.range) ↔
      s.ListedInOrder p := by
  unfold texts
  rw [List.filter_append, List.filter_map, List.filter_map, List.pairwise_append,
    List.pairwise_map, List.pairwise_map]
  simp only [List.mem_map, List.mem_filter]
  constructor
  · rintro ⟨hstructs, hfuncs, hfirst⟩
    exact ⟨hstructs, hfuncs, fun d hd hp f hf hq => hfirst _ ⟨d, ⟨hd, hp⟩, rfl⟩ _ ⟨f, ⟨hf, hq⟩, rfl⟩⟩
  · rintro ⟨hstructs, hfuncs, hfirst⟩
    refine ⟨hstructs, hfuncs, ?_⟩
    rintro _ ⟨d, ⟨hd, hp⟩, rfl⟩ _ ⟨f, ⟨hf, hq⟩, rfl⟩
    exact hfirst d hd hp f hf hq

theorem sorted_filter_iff {s : Script} (h : s.LaidOut) (p : Reference → Bool) :
    (s.references.filter p).Pairwise Reference.StartsBy ↔ s.ListedInOrder p := by
  have horder : ∀ text ∈ s.texts, text.references.Pairwise Reference.StartsBy := by
    intro text htext
    rcases List.mem_append.1 htext with htext | htext
    · obtain ⟨d, hd, rfl⟩ := List.mem_map.1 htext
      exact h.structs d hd
    · obtain ⟨d, hd, rfl⟩ := List.mem_map.1 htext
      exact d.inOrder_iff.1 (h.funcs d hd)
  rw [← s.flatMap_texts, pairwise_texts_iff h.encloses horder h.apart,
    pairwise_texts_precedes_iff]

/-- What is kept of each result can be told from what it was made of. -/
theorem map_of_mapM {α β γ : Type} {f : α → Option β} {g : β → γ} {k : α → γ}
    (hf : ∀ a b, f a = some b → g b = k a) {l : List α} {l' : List β} (h : l.mapM f = some l') :
    l'.map g = l.map k := by
  induction l generalizing l' with
  | nil =>
    cases h
    rfl
  | cons a l ih =>
    rw [List.mapM_cons] at h
    obtain ⟨b, hb, h⟩ := Option.bind_eq_some_iff.1 h
    obtain ⟨bs, hbs, h⟩ := Option.bind_eq_some_iff.1 h
    cases h
    rw [List.map_cons, List.map_cons, hf a b hb, ih hbs]

/-- The links are at the references that have a target. -/
theorem ranges_of_documentLinks? {s : Script} {files : FileSet} {links : List DocumentLink}
    (h : s.documentLinks? files = some links) :
    links.map (·.range) = (s.references.filter (·.target.isSome)).map (·.range) := by
  have hmake : ∀ (at? : Range × Location) (link : DocumentLink),
      DocumentLink.make? files at?.1 at?.2 = some link → link.range = at?.1 := by
    rintro ⟨range, target⟩ link hlink
    obtain ⟨place, -, rfl⟩ := Option.map_eq_some_iff.1 hlink
    rfl
  rw [map_of_mapM hmake h]
  induction s.references with
  | nil => rfl
  | cons r rs ih =>
    cases htarget : r.target with
    | none => simp [htarget, ih]
    | some target => simp [htarget, ih]

end Script

/-- The references of a script that is laid out properly are sorted by where they start exactly if
its declarations are listed as they stand in the text: structs among structs, funcs among funcs,
and all structs before all funcs, those without references apart. The same holds of its document
links, with those that have no linked reference apart. -/
theorem references_are_sorted_as_listed (script : Script) (h : script.LaidOut) :
    (script.references.Pairwise Reference.StartsBy ↔ script.ListedInOrder fun _ => true) ∧
    ∀ files, (script.Displayable → ∃ links, script.documentLinks? files = some links) ∧
      ∀ links, script.documentLinks? files = some links →
        ((links.Pairwise fun a b => a.range.start ≤ b.range.start) ↔
          script.ListedInOrder (·.target.isSome)) := by
  refine ⟨?_, fun files => ⟨fun hshown => ?_, fun links hlinks => ?_⟩⟩
  · rw [← Script.sorted_filter_iff h, List.filter_eq_self.2 fun _ _ => rfl]
  · obtain ⟨links, hlinks, -⟩ := Script.exists_documentLinks? hshown files
    exact ⟨links, hlinks⟩
  · rw [← Script.sorted_filter_iff h]
    have hranges := Script.ranges_of_documentLinks? hlinks
    calc (links.Pairwise fun a b => a.range.start ≤ b.range.start)
      _ ↔ (links.map (·.range)).Pairwise fun a b => a.start ≤ b.start := by
        rw [List.pairwise_map]
      _ ↔ ((script.references.filter (·.target.isSome)).map (·.range)).Pairwise
            fun a b => a.start ≤ b.start := by rw [hranges]
      _ ↔ (script.references.filter (·.target.isSome)).Pairwise Reference.StartsBy := by
        rw [List.pairwise_map]
        rfl

/-- `struct Point { next: Point }` and `func main(p: Point) { spawn(p.next) }`, each on a line of
its own, with both annotations linked to the struct. -/
def pointAndMain (structLine funcLine : UInt32) : Script :=
  let point : Target := ⟨⟨⟨0⟩, ⟨⟨structLine, 0⟩, ⟨structLine, 28⟩⟩⟩, none⟩
  { file := ⟨0⟩
    package := ⟨["game"]⟩
    structs := [{
      name := { text := "Point", range := ⟨⟨structLine, 7⟩, ⟨structLine, 12⟩⟩ }
      range := ⟨⟨structLine, 0⟩, ⟨structLine, 28⟩⟩
      fields := [{
        name := { text := "next", range := ⟨⟨structLine, 15⟩, ⟨structLine, 19⟩⟩ }
        type := .named
          { name := ⟨["Point"]⟩
            range := ⟨⟨structLine, 21⟩, ⟨structLine, 26⟩⟩
            target := some point }
        range := ⟨⟨structLine, 15⟩, ⟨structLine, 26⟩⟩ }] }]
    funcs := [{
      name := { text := "main", range := ⟨⟨funcLine, 5⟩, ⟨funcLine, 9⟩⟩ }
      range := ⟨⟨funcLine, 0⟩, ⟨funcLine, 37⟩⟩
      params := [{
        name := { text := "p", range := ⟨⟨funcLine, 10⟩, ⟨funcLine, 11⟩⟩ }
        type := .named
          { name := ⟨["Point"]⟩
            range := ⟨⟨funcLine, 13⟩, ⟨funcLine, 18⟩⟩
            target := some point }
        range := ⟨⟨funcLine, 10⟩, ⟨funcLine, 18⟩⟩ }]
      body := [.call
        { name := { name := ⟨["spawn"]⟩, range := ⟨⟨funcLine, 22⟩, ⟨funcLine, 27⟩⟩ } }
        [.field
          (.identifier { name := { name := ⟨["p"]⟩, range := ⟨⟨funcLine, 28⟩, ⟨funcLine, 29⟩⟩ } })
          { name := ⟨["next"]⟩, range := ⟨⟨funcLine, 30⟩, ⟨funcLine, 34⟩⟩ }]
        ⟨⟨funcLine, 22⟩, ⟨funcLine, 35⟩⟩] }] }

theorem pointAndMain_laidOut {structLine funcLine : UInt32}
    (hin : ∀ text ∈ (pointAndMain structLine funcLine).texts, text.Encloses)
    (horder : ∀ d ∈ (pointAndMain structLine funcLine).funcs, d.InOrder)
    (hapart : (pointAndMain structLine funcLine).texts.Pairwise fun a b =>
      a.range.Precedes b.range ∨ b.range.Precedes a.range) :
    (pointAndMain structLine funcLine).LaidOut where
  apart := hapart.imp Range.disjoint_of_precedes
  encloses := hin
  structs d hd := by
    rw [List.mem_singleton.1 hd]
    exact List.pairwise_singleton _ _
  funcs := horder

/-- With the struct on the line before the func, references and links are sorted. -/
theorem references_of_struct_before_func_are_sorted :
    (pointAndMain 0 1).LaidOut ∧
    (pointAndMain 0 1).references.Pairwise Reference.StartsBy ∧
    ∃ links, (pointAndMain 0 1).documentLinks? .empty = some links ∧ links.length = 2 ∧
      links.Pairwise fun a b => a.range.start ≤ b.range.start := by
  have hlaid : (pointAndMain 0 1).LaidOut :=
    pointAndMain_laidOut (by decide) (by decide) (by decide)
  obtain ⟨hreferences, hlinks⟩ := references_are_sorted_as_listed _ hlaid
  obtain ⟨hsome, hsorted⟩ := hlinks .empty
  obtain ⟨links, hsome⟩ := hsome (by decide)
  have hcount : ((pointAndMain 0 1).documentLinks? .empty).map (·.length) = some 2 := by
    decide +kernel
  rw [hsome] at hcount
  refine ⟨hlaid, hreferences.2 ⟨by decide, by decide, by decide⟩, links, hsome,
    Option.some.inj hcount, ?_⟩
  exact (hsorted links hsome).2 ⟨by decide, by decide, by decide⟩

/-- **A struct after a func is listed first**: with the func on the line before the struct, neither
references nor links are sorted. -/
theorem struct_after_func_is_listed_first :
    (pointAndMain 1 0).LaidOut ∧
    ¬ (pointAndMain 1 0).references.Pairwise Reference.StartsBy ∧
    ∃ links, (pointAndMain 1 0).documentLinks? .empty = some links ∧
      ¬ links.Pairwise fun a b => a.range.start ≤ b.range.start := by
  have hranges : ((pointAndMain 1 0).documentLinks? .empty).map (·.map (·.range.start)) =
      some [⟨1, 21⟩, ⟨0, 13⟩] := by decide +kernel
  obtain ⟨links, hsome, hstarts⟩ := Option.map_eq_some_iff.1 hranges
  refine ⟨pointAndMain_laidOut (by decide) (by decide) (by decide), by decide, links, hsome, ?_⟩
  intro hsorted
  have hsorted : (links.map (·.range.start)).Pairwise (· ≤ ·) := List.pairwise_map.2 hsorted
  rw [hstarts] at hsorted
  exact absurd hsorted (by decide)

end NameScope
