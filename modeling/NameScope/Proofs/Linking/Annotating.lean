import NameScope.Proofs.Linking.Relink

/-!
# What linking leaves of a reference

Linking gives a target to a name that had none, and marks an identifier that names a parameter of
its func. It does so in place and may stop at any reference; those after it stay as they were. So
all that can be said of a reference afterwards is said of each by itself (`Site.Annotated`), whether
the walk came to it or not.

* one step: `Site.link_cases` is all that the walk over one reference can do, and
  `Site.annotated_link` what it leaves;
* a run: `Site.annotated_linkAll`, `Site.told_linkAll`.

**Results.** * `linking_only_annotates`.
-/
namespace NameScope

/-- What a reference says of a parameter: whether it is one, and of which type. -/
def Reference.mark : Reference → Bool × Option VarType
  | .identifier ident | .callee ident => (ident.isLocal, ident.type)
  | .typeRef _ | .field _ | .structLit _ | .init _ => (false, none)

namespace Site

/-- The parameter that the reference names. Only an identifier names one; what is called never
does. -/
def param? (site : Site) : Option MemberDecl :=
  match site.reference with
  | .identifier ident => paramOf? site.params ident.name.name
  | _ => none

/-- The mark of an identifier that names a parameter: it is local, and has the parameter's type. -/
def Tells (s : LinkScope) (site : Site) (r : Reference) : Prop :=
  ∀ param, site.param? = some param → r.mark = (true, s.types.typeOf s.imports param.type)

/-- What may be left of the reference: it has kept what it had, and its mark is as it was unless it
names a parameter. -/
structure Annotated (s : LinkScope) (site : Site) (r : Reference) : Prop where
  erase : r.erase = site.reference.erase
  target : ∀ target, site.reference.target = some target → r.target = some target
  mark : r.mark = site.reference.mark ∨ (site.param?.isSome = true ∧ site.Tells s r)

theorem Annotated.refl (s : LinkScope) (site : Site) : site.Annotated s site.reference :=
  ⟨rfl, fun _ h => h, .inl rfl⟩

end Site

/-! ## One reference -/

theorem Reference.withName_of_name? {r : Reference} {name : WrittenName} (h : r.name? = some name) :
    r.withName name = r := by
  cases r with
  | typeRef type =>
    cases type with
    | primitive kind range => cases h
    | named name' =>
      cases h
      rfl
  | identifier ident | callee ident | field name' | structLit name' | init name' =>
    cases h
    rfl

theorem Reference.mark_withName (name : WrittenName) (r : Reference) :
    (r.withName name).mark = r.mark := by
  cases r with
  | typeRef type => cases type <;> rfl
  | identifier ident | callee ident | field name' | structLit name' | init name' => rfl

/-- A name that was linked or refused its link. -/
structure WrittenName.KeptBy (name name' : WrittenName) : Prop where
  erase : name'.erase = name.erase
  target : ∀ target, name.target = some target → name'.target = some target

namespace Site

variable (s : LinkScope) (site : Site)

/-- All that the walk over one reference can do: pass over it, since it means nothing, or put its
name back, linked or not, into the marked reference. -/
theorem link_cases :
    ((site.link s).node = site.reference ∧ site.target? s = none) ∨
    ∃ name name', site.reference.name? = some name ∧ name.KeptBy name' ∧
      (site.link s).node = (site.marked s).withName name' := by
  cases ht : site.target? s with
  | none =>
    rw [link_none ht]
    exact .inl ⟨rfl, rfl⟩
  | some target =>
    obtain ⟨name, hname⟩ := name?_of_target? ht
    refine .inr ⟨name, ?_⟩
    cases hl : name.link target with
    | ok linked =>
      rw [link_ok ht hname hl]
      obtain ⟨hnone, rfl⟩ := (WrittenName.link_eq_ok_iff _ _ _).1 hl
      refine ⟨{ name with target := some target }, hname, ⟨rfl, fun old hold => ?_⟩, rfl⟩
      rw [hnone] at hold
      cases hold
    | error e =>
      rw [link_error ht hname hl]
      refine ⟨name, hname, ⟨rfl, fun _ h => h⟩, ?_⟩
      exact (Reference.withName_of_name? ((site.name?_marked s).trans hname)).symm

theorem tells_withName (name : WrittenName) (r : Reference) :
    site.Tells s (r.withName name) ↔ site.Tells s r := by
  unfold Tells
  rw [Reference.mark_withName]

/-- An identifier that names a parameter is marked with it when its link is tried. -/
theorem tells_marked : site.Tells s (site.marked s) := by
  obtain ⟨r, params, owner⟩ := site
  intro param hparam
  cases r with
  | identifier ident =>
    have hparam : paramOf? params ident.name.name = some param := hparam
    unfold marked
    simp only [hparam]
    rfl
  | typeRef type | callee ident | field name | structLit name | init name => cases hparam

theorem marked_of_not_param (h : site.param? = none) : site.marked s = site.reference := by
  obtain ⟨r, params, owner⟩ := site
  cases r with
  | identifier ident =>
    have h : paramOf? params ident.name.name = none := h
    unfold marked
    simp only [h]
  | typeRef type | callee ident | field name | structLit name | init name => rfl

theorem erase_withName_marked {name name' : WrittenName} (hname : site.reference.name? = some name)
    (h : name'.erase = name.erase) :
    ((site.marked s).withName name').erase = site.reference.erase := by
  obtain ⟨r, params, owner⟩ := site
  cases r with
  | typeRef type =>
    cases type with
    | primitive kind range => cases hname
    | named written =>
      cases hname
      exact congrArg (fun n => Reference.typeRef (.named n)) h
  | identifier ident =>
    cases hname
    have hput : ∀ ident' : Identifier, ident'.name = name' → ident'.erase = ident.erase :=
      fun ident' he => by rw [Identifier.erase, Identifier.erase, he, h]
    unfold marked
    simp only
    cases paramOf? params ident.name.name with
    | none => exact congrArg Reference.identifier (hput { ident with name := name' } rfl)
    | some param =>
      exact congrArg Reference.identifier (hput { name := name', isLocal := true, type := _ } rfl)
  | callee ident =>
    cases hname
    exact congrArg (fun n : WrittenName => Reference.callee { name := n }) h
  | field written =>
    cases hname
    exact congrArg Reference.field h
  | structLit written =>
    cases hname
    exact congrArg Reference.structLit h
  | init written =>
    cases hname
    exact congrArg Reference.init h

/-- **The walk over one reference only annotates it**, whether its link is refused or not. -/
theorem annotated_link : site.Annotated s (site.link s).node := by
  obtain ⟨hnode, -⟩ | ⟨name, name', hname, hkept, hnode⟩ := site.link_cases s
  · rw [hnode]
    exact .refl s site
  · rw [hnode]
    have hmarked : (site.marked s).name? = some name := (site.name?_marked s).trans hname
    refine ⟨site.erase_withName_marked s hname hkept.erase, fun target ht => ?_, ?_⟩
    · rw [Reference.target_withName hmarked]
      refine hkept.target target ?_
      rwa [Reference.target, hname] at ht
    · rw [Reference.mark_withName, tells_withName]
      by_cases hparam : site.param?.isSome = true
      · exact .inr ⟨hparam, site.tells_marked s⟩
      · have hmarked := site.marked_of_not_param s (Option.not_isSome_iff_eq_none.1 hparam)
        exact .inl (congrArg Reference.mark hmarked)

/-- A reference that the walk came to is marked if it names a parameter. -/
theorem tells_link : site.Tells s (site.link s).node := by
  obtain ⟨-, hnone⟩ | ⟨name, name', -, -, hnode⟩ := site.link_cases s
  · -- a parameter is always a target
    intro param hparam
    obtain ⟨r, params, owner⟩ := site
    cases r with
    | identifier ident =>
      have hparam : paramOf? params ident.name.name = some param := hparam
      unfold target? at hnone
      simp only [hparam] at hnone
      cases hnone
    | typeRef type | callee ident | field name | structLit name | init name => cases hparam
  · rw [hnode, tells_withName]
    exact site.tells_marked s

/-! ## References in a row -/

theorem annotated_linkAll (sites : List Site) :
    List.Forall₂ (Annotated s) sites (linkAll s sites).node := by
  induction sites with
  | nil => exact .nil
  | cons site sites ih =>
    unfold linkAll
    cases h : (site.link s).outcome with
    | error e =>
      rw [Walk.andThen_error h]
      refine .cons (site.annotated_link s) ?_
      rw [List.forall₂_map_right_iff, List.forall₂_same]
      exact fun site' _ => .refl s site'
    | ok u =>
      rw [Walk.andThen_ok h]
      exact .cons (site.annotated_link s) ih

theorem told_linkAll {sites : List Site} {u : Unit} (h : (linkAll s sites).outcome = .ok u) :
    List.Forall₂ (Tells s) sites (linkAll s sites).node := by
  induction sites with
  | nil => exact .nil
  | cons site sites ih =>
    unfold linkAll at h ⊢
    cases hsite : (site.link s).outcome with
    | error e =>
      rw [Walk.andThen_error hsite] at h
      cases h
    | ok v =>
      rw [Walk.andThen_ok hsite] at h ⊢
      exact .cons (site.tells_link s) (ih h)

end Site

/-! ## A script -/

theorem Reference.range_erase (r : Reference) : r.erase.range = r.range := by
  cases r with
  | typeRef type => cases type <;> rfl
  | identifier ident | callee ident | field name | structLit name | init name => rfl

/-- The ranges of all references can be read off the erased script. -/
theorem Script.ranges_of_erase_eq {script script' : Script} (h : script'.erase = script.erase) :
    script'.references.map (·.range) = script.references.map (·.range) := by
  have hranges : ∀ s : Script,
      s.erase.references.map (·.range) = s.references.map (·.range) := fun s => by
    rw [s.references_erase, List.map_map]
    exact List.map_congr_left fun r _ => r.range_erase
  rw [← hranges script', h, hranges script]

/-- **Linking only annotates**, whether it stops or not. The erased script stays, and with it the
ranges of the references in their order. A reference that had a target keeps it. What it says of a
parameter changes only if it is an identifier that names one; then it is local and has the
parameter's type. If linking does not stop, all of these say so. -/
theorem linking_only_annotates (registry : Registry) (types : TypeIndex) (config : Config)
    (script : Script) :
    let s := LinkScope.ofScript registry types config script
    let walk := script.link registry types config
    walk.node.erase = script.erase ∧
    walk.node.references.map (·.range) = script.references.map (·.range) ∧
    (script.sites s).map (·.reference) = script.references ∧
    List.Forall₂ (Site.Annotated s) (script.sites s) walk.node.references ∧
    (∀ u, walk.outcome = .ok u →
      List.Forall₂ (Site.Tells s) (script.sites s) walk.node.references) := by
  intro s walk
  have herase : walk.node.erase = script.erase := script.erase_link registry types config
  have hfollows := script.link_follows registry types config
  have hnode : walk.node.references = (Site.linkAll s (script.sites s)).node := hfollows.node
  refine ⟨herase, Script.ranges_of_erase_eq herase, script.references_sites s, ?_, fun u hu => ?_⟩
  · rw [hnode]
    exact Site.annotated_linkAll s (script.sites s)
  · rw [hnode]
    cases ho : (Site.linkAll s (script.sites s)).outcome with
    | error e =>
      rw [hfollows.outcome, ho] at hu
      cases hu
    | ok v => exact Site.told_linkAll s ho

end NameScope
