import NameScope.Proofs.Linking.Sites

/-!
# Linking a tree is linking its sites

The walk over a tree gives the tree back, links as far as it gets and stops at the first refusal.
It follows the sites of the tree (`Walk.Follows`) if its references are what linking the sites in
a row leaves of them, with the same reports and the same refusal; and what it computes unless it
stops is known beforehand.

* one step: each function that links a single reference follows one site (`Walk.follows_site` and
  the lemmas after it);
* a run: the combinators of walks preserve following (`Follows.andThen`, `Follows.mapNode`,
  `Follows.list`), and so does every constructor of `Expr`.

**Results.**
* `Expr.link_follows`: in the body of a func, where the locals are its parameters
  (`LinkScope.Shows`), an expression is linked site by site, and its type is the static one;
* `linkParams_follows`, `linkParams_shows`: linking the parameters of a func brings such a scope
  about;
* `Script.link_follows`, `Script.linked_of_unlinked`: a script is linked site by site, and in one
  go where nothing is linked yet.
-/
namespace NameScope

/-- The walk links the references `refs` of the node `n` as `sites` say, and computes `value`. -/
structure Walk.Follows (s : LinkScope) (w : Walk ν α) (refs : ν → List Reference) (n : ν)
    (sites : List Site) (value : α) : Prop where
  start : sites.map (·.reference) = refs n
  node : refs w.node = (Site.linkAll s sites).node
  reports : w.reports = (Site.linkAll s sites).reports
  outcome : w.outcome = (Site.linkAll s sites).outcome.map fun _ => value

namespace Walk

/-! ## Combinators -/

section

variable {ν μ : Type} {α β : Type v} {s : LinkScope}

theorem follows_done {refs : ν → List Reference} {n : ν} (h : refs n = []) (value : α) :
    (done n value).Follows s refs n [] value :=
  ⟨h.symm, h, rfl, rfl⟩

/-- A walk over one reference, compared with its site. -/
theorem follows_site {w : Walk ν α} {refs : ν → List Reference} {n : ν} {site : Site} {value : α}
    {r : Reference} {reports : List Diagnostic} {outcome : Except LinkError Unit}
    (hsite : site.link s = ⟨r, reports, outcome⟩) (start : refs n = [site.reference])
    (node : refs w.node = [r]) (hreports : w.reports = reports)
    (houtcome : w.outcome = outcome.map fun _ => value) : w.Follows s refs n [site] value := by
  have h := Site.linkAll_singleton s site
  rw [hsite] at h
  refine ⟨start.symm, ?_, ?_, ?_⟩
  · rw [h]
    exact node
  · rw [h]
    exact hreports
  · rw [h]
    exact houtcome

namespace Follows

/-- A walk that does not stop computes what it should. -/
theorem value_eq {w : Walk ν α} {refs : ν → List Reference} {n : ν} {sites : List Site}
    {value v : α} (h : w.Follows s refs n sites value) (hv : w.outcome = .ok v) : v = value := by
  rw [h.outcome] at hv
  cases hs : (Site.linkAll s sites).outcome with
  | error e =>
    rw [hs] at hv
    cases hv
  | ok u =>
    rw [hs] at hv
    exact (Except.ok.inj hv).symm

/-- A walk over a tree in which nothing is linked yet goes to its end. -/
theorem of_unlinked {w : Walk ν α} {refs : ν → List Reference} {n : ν} {sites : List Site}
    {value : α} (h : w.Follows s refs n sites value) (hn : ∀ r ∈ refs n, r.target = none) :
    w.outcome = .ok value ∧ w.reports = sites.filterMap (·.report? s) ∧
      refs w.node = sites.map (·.settled s) := by
  have hsites : ∀ site ∈ sites, site.reference.target = none := by
    intro site hsite
    refine hn site.reference ?_
    rw [← h.start]
    exact List.mem_map_of_mem hsite
  have hall := Site.linkAll_unlinked s sites hsites
  refine ⟨?_, ?_, ?_⟩
  · rw [h.outcome, hall]
    rfl
  · rw [h.reports, hall]
  · rw [h.node, hall]

theorem mapNode {w : Walk ν α} {refs : ν → List Reference} {n : ν} {sites : List Site} {value : α}
    (h : w.Follows s refs n sites value) (refs' : μ → List Reference) (f : ν → μ)
    (hf : ∀ n, refs' (f n) = refs n) : (w.mapNode f).Follows s refs' (f n) sites value :=
  ⟨h.start.trans (hf n).symm, (hf w.node).trans h.node, h.reports, h.outcome⟩

theorem mapValue {w : Walk ν α} {refs : ν → List Reference} {n : ν} {sites : List Site}
    {value : α} (h : w.Follows s refs n sites value) (f : α → β) :
    (w.mapValue f).Follows s refs n sites (f value) := by
  refine ⟨h.start, h.node, h.reports, ?_⟩
  unfold Walk.mapValue
  simp only [h.outcome]
  cases (Site.linkAll s sites).outcome with
  | error e => rfl
  | ok u => rfl

/-- The rest is walked over only if no link was refused. -/
theorem andThen {w : Walk ν α} {refs : ν → List Reference} {n : ν} {sites : List Site} {value : α}
    {next : α → Walk μ β} {refs' : μ → List Reference} {m : μ} {sites' : List Site} {value' : β}
    (h : w.Follows s refs n sites value) (h' : (next value).Follows s refs' m sites' value') :
    (w.andThen m next).Follows s (fun p => refs p.1 ++ refs' p.2) (n, m) (sites ++ sites')
      value' := by
  have hstart : (sites ++ sites').map (·.reference) = refs n ++ refs' m := by
    rw [List.map_append, h.start, h'.start]
  rcases hs : (Site.linkAll s sites).outcome with e | u
  · have hw : w.outcome = .error e := by rw [h.outcome, hs]; rfl
    rw [andThen_error hw]
    refine ⟨hstart, ?_, ?_, ?_⟩
    · rw [Site.linkAll_append, andThen_error hs, h'.start]
      exact congrArg (· ++ refs' m) h.node
    · rw [Site.linkAll_append, andThen_error hs]
      exact h.reports
    · rw [Site.linkAll_append, andThen_error hs]
      rfl
  · have hw : w.outcome = .ok value := by rw [h.outcome, hs]; rfl
    rw [andThen_ok hw]
    refine ⟨hstart, ?_, ?_, ?_⟩
    · rw [Site.linkAll_append, andThen_ok hs]
      exact congrArg₂ (· ++ ·) h.node h'.node
    · rw [Site.linkAll_append, andThen_ok hs]
      exact congrArg₂ (· ++ ·) h.reports h'.reports
    · rw [Site.linkAll_append, andThen_ok hs]
      exact h'.outcome

theorem list {f : ν → Walk ν α} {refs : ν → List Reference} {sites : ν → List Site}
    {value : ν → α} (h : ∀ n, (f n).Follows s refs n (sites n) (value n)) (ns : List ν) :
    (Walk.list f ns).Follows s (List.flatMap refs) ns (ns.flatMap sites) ⟨⟩ := by
  induction ns with
  | nil => exact follows_done rfl _
  | cons n ns ih => exact ((h n).andThen ih).mapNode _ _ fun _ => List.flatMap_cons

end Follows

end

end Walk

/-! ## One reference -/

/-- In the body of a func the scope shows its parameters, and is else that of the script. -/
structure LinkScope.Shows (inner s : LinkScope) (params : List MemberDecl) : Prop where
  rest : inner = { s with locals := inner.locals }
  locals : ∀ text, inner.locals.find? (·.name == text) =
    (params.find? (·.name.text == text)).map s.asLocal

section

variable {s inner : LinkScope} {params : List MemberDecl}

theorem LinkScope.Shows.local?_eq (h : inner.Shows s params) (name : QualifiedName) :
    inner.local? name = (paramOf? params name).map s.asLocal := by
  unfold LinkScope.local? paramOf?
  cases name.simple? with
  | none => rfl
  | some text => exact h.locals text

/-- A name whose target is known follows its site. What is put around the name is there even if
the link is refused. -/
theorem Walk.follows_linkTo {name : WrittenName} {target : Target} {value : α} {site : Site}
    {put : WrittenName → ν} {refs : ν → List Reference} {n : ν}
    (start : refs n = [site.reference]) (hn : site.reference.name? = some name)
    (hput : ∀ name', refs (put name') = [(site.marked s).withName name'])
    (hm : (site.marked s).withName name = site.marked s) (ht : site.target? s = some target)
    (hd : site.report? s = none) :
    ((LinkScope.linkTo name target value).mapNode put).Follows s refs n [site] value := by
  unfold LinkScope.linkTo
  have hreports : (site.report? s).toList = [] := by rw [hd]; rfl
  cases hl : name.link target with
  | ok linked =>
    exact Walk.follows_site (Site.link_ok ht hn hl) start (hput linked) hreports.symm rfl
  | error e =>
    have hnode : refs (put name) = [site.marked s] := by rw [hput, hm]
    exact Walk.follows_site (Site.link_error ht hn hl) start hnode hreports.symm rfl

/-- A site whose reference is looked up, in the words of the look-up. -/
theorem Site.link_of_lookup [Matched α] (l : Lookup α) (name : WrittenName) (site : Site)
    (put : WrittenName → Reference) (hr : site.reference = put name)
    (hn : (put name).name? = some name) (hput : ∀ name', (put name).withName name' = put name')
    (ht : site.target? s = l.target?) (hm : site.marked s = put name) :
    (∀ linked, l.link name = .ok linked →
      site.link s = ⟨put linked, (site.report? s).toList, .ok ⟨⟩⟩) ∧
    ∀ e, l.link name = .error e → site.link s = ⟨put name, (site.report? s).toList, .error e⟩ := by
  rw [← hr] at hn
  unfold Lookup.link
  cases hl : l.target? with
  | none =>
    constructor
    · intro linked h
      cases h
      rw [Site.link_none (ht.trans hl), hr]
    · intro e h
      cases h
  | some target =>
    constructor
    · intro linked h
      rw [Site.link_ok (ht.trans hl) hn h, hm, hput]
    · intro e h
      rw [Site.link_error (ht.trans hl) hn h, hm]

/-- A name that is looked up follows its site, if the site looks up the same. -/
theorem Walk.follows_attempt [Matched α] {kind : ReferenceKind} {l : Lookup α}
    {name : WrittenName} {site : Site} {put : WrittenName → Reference}
    (hr : site.reference = put name) (hn : (put name).name? = some name)
    (hput : ∀ name', (put name).withName name' = put name')
    (ht : site.target? s = l.target?)
    (hd : site.report? s = l.report? s.config s.file kind name.name.text name.range)
    (hm : site.marked s = put name) :
    (LinkScope.ofAttempt (l.attempt s.config kind name ⟨s.file, []⟩)).Follows s
      (fun name => [put name]) name [site] l := by
  have start : [put name] = [site.reference] := by rw [hr]
  obtain ⟨hok, herror⟩ := Site.link_of_lookup l name site put hr hn hput ht hm
  rw [hd] at hok herror
  unfold Lookup.attempt
  cases hl : l.link name with
  | ok linked => exact Walk.follows_site (hok linked hl) start rfl rfl rfl
  | error e => exact Walk.follows_site (herror e hl) start rfl rfl rfl

theorem linkFunc_follows (h : inner.Shows s params) (name : WrittenName) (site : Site)
    (put : WrittenName → Reference) (hr : site.reference = put name)
    (hn : (put name).name? = some name) (hput : ∀ name', (put name).withName name' = put name')
    (ht : site.target? s = (s.funcs name.name).target?)
    (hd : site.report? s =
      (s.funcs name.name).report? s.config s.file .func name.name.text name.range)
    (hm : site.marked s = put name) :
    (inner.linkFunc name).Follows s (fun name => [put name]) name [site] (s.funcs name.name) := by
  rw [h.rest]
  exact Walk.follows_attempt hr hn hput ht hd hm

theorem linkIdentifier_follows (h : inner.Shows s params) (ident : Identifier) :
    (inner.linkIdentifier ident).Follows s (fun ident => [.identifier ident]) ident
      [{ reference := .identifier ident, params }] ((Expr.identifier ident).type s params) := by
  unfold LinkScope.linkIdentifier Expr.type
  rw [h.local?_eq]
  cases hp : paramOf? params ident.name.name with
  | none =>
    have hf := linkFunc_follows h ident.name { reference := .identifier ident, params }
      (fun name => .identifier { ident with name }) rfl rfl (fun _ => rfl)
      (by simp [Site.target?, hp]) (by simp [Site.report?, hp]) (by simp [Site.marked, hp])
    exact (hf.mapNode (fun ident => [.identifier ident]) (fun name => { ident with name })
      fun _ => rfl).mapValue fun _ => none
  | some param =>
    exact Walk.follows_linkTo rfl rfl
      (fun _ => by simp [Site.marked, Reference.withName, LinkScope.asLocal, hp])
      (by simp [Site.marked, Reference.withName, hp])
      (by simp [Site.target?, LinkScope.asLocal, hp]) (by simp [Site.report?, hp])

theorem linkCallee_follows (h : inner.Shows s params) (callee : Identifier) :
    (inner.linkCallee callee).Follows s (fun ident => [.callee ident]) callee
      [{ reference := .callee callee, params }]
      ((s.funcs callee.name.name).single?.bind (·.definition.returns)) := by
  have hf := linkFunc_follows h callee.name { reference := .callee callee, params }
    (fun name => .callee { callee with name }) rfl rfl (fun _ => rfl) rfl rfl rfl
  exact (hf.mapNode (fun ident => [.callee ident]) (fun name => { callee with name })
    fun _ => rfl).mapValue fun found => found.single?.bind (·.definition.returns)

theorem linkStruct_follows (h : inner.Shows s params) (name : WrittenName) :
    (inner.linkStruct name).Follows s (fun name => [.structLit name]) name
      [{ reference := .structLit name, params }] (s.structs name.name) := by
  rw [h.rest]
  exact Walk.follows_attempt rfl rfl (fun _ => rfl) rfl rfl rfl

/-- The name of a field of a known struct. It stands after a value or in a struct literal. -/
theorem linkField_follows (h : inner.Shows s params) (owner : Owner) (name : WrittenName)
    {put : WrittenName → Reference} (hput : put = .field ∨ put = .init) :
    (inner.linkField owner.name owner.definition name).Follows s (fun name => [put name]) name
      [{ reference := put name, params, owner := some owner }]
      ((owner.field? name.name).bind (·.type)) := by
  unfold LinkScope.linkField
  rw [h.rest]
  cases hm : owner.field? name.name with
  | none =>
    have hm' : name.name.simple?.bind owner.definition.fields.get? = none := hm
    rw [hm']
    rcases hput with rfl | rfl
    all_goals
      refine Walk.follows_site (Site.link_none (by simp [Site.target?, hm])) rfl rfl ?_ rfl
      simp [Site.report?, hm]
  | some member =>
    have hm' : name.name.simple?.bind owner.definition.fields.get? = some member := hm
    rw [hm']
    show ((LinkScope.linkTo name member.toTarget member.type).mapNode id).Follows _ _ _ _ _
    rcases hput with rfl | rfl
    all_goals
      exact Walk.follows_linkTo rfl rfl (fun _ => rfl) rfl (by simp [Site.target?, hm])
        (by simp [Site.report?, hm])

/-- Of the name of a field whose struct is not known, nothing is made. -/
theorem follows_unowned (s : LinkScope) (params : List MemberDecl) (name : WrittenName)
    {put : WrittenName → Reference} (hput : put = .field ∨ put = .init) :
    (Walk.done name (none : Option VarType)).Follows s (fun name => [put name]) name
      [{ reference := put name, params }] none := by
  rcases hput with rfl | rfl
  all_goals exact Walk.follows_site (Site.link_none rfl) rfl rfl rfl rfl

theorem linkAccess_follows (h : inner.Shows s params) (type : Option VarType)
    (name : WrittenName) :
    (inner.linkAccess type name).Follows s (fun name => [.field name]) name
      [{ reference := .field name, params, owner := s.owner? type }]
      (((s.owner? type).bind (·.field? name.name)).bind (·.type)) := by
  have hr : inner.registry = s.registry := by rw [h.rest]
  unfold LinkScope.linkAccess LinkScope.owner?
  cases type.bind VarType.struct? with
  | none => exact follows_unowned s params name (.inl rfl)
  | some owner =>
    simp only [Option.bind_some, hr]
    cases s.registry.findStruct? owner with
    | none => exact follows_unowned s params name (.inl rfl)
    | some definition => exact linkField_follows h ⟨owner, definition⟩ name (.inl rfl)

theorem linkInit_follows (h : inner.Shows s params) (struct? : Option StructMatch)
    (name : WrittenName) :
    (inner.linkInit struct? name).Follows s (fun name => [.init name]) name
      [{ reference := .init name, params, owner := struct?.map StructMatch.owner }]
      (((struct?.map StructMatch.owner).bind (·.field? name.name)).bind (·.type)) := by
  unfold LinkScope.linkInit
  cases struct? with
  | none => exact follows_unowned s params name (.inr rfl)
  | some struct => exact linkField_follows h struct.owner name (.inr rfl)

/-! ## Expressions -/

mutual

/-- **An expression is linked site by site**, and its type is the static one. -/
theorem Expr.link_follows (h : inner.Shows s params) : ∀ e : Expr,
    (e.link inner).Follows s Expr.references e (e.sites s params) (e.type s params)
  | .identifier ident => (linkIdentifier_follows h ident).mapNode _ Expr.identifier fun _ => rfl
  | .call callee args range => by
    unfold Expr.link
    have hargs := Expr.linkArgs_follows h args
    have hcallee := linkCallee_follows h callee
    exact (hcallee.andThen (hargs.mapValue _)).mapNode Expr.references _ fun _ => rfl
  | .field value name => by
    unfold Expr.link
    have hvalue := Expr.link_follows h value
    exact (hvalue.andThen (linkAccess_follows h _ name)).mapNode Expr.references _ fun _ => rfl
  | .structLit name inits range => by
    unfold Expr.link
    have hinits := Expr.linkInits_follows h (s.structs name.name).single? inits
    have hname := linkStruct_follows h name
    exact (hname.andThen (hinits.mapValue _)).mapNode Expr.references _ fun _ => rfl
  | .constant range => Walk.follows_done rfl _

theorem Expr.linkArgs_follows (h : inner.Shows s params) : ∀ es : List Expr,
    (Expr.linkArgs inner es).Follows s Expr.argReferences es (Expr.argSites s params es) ⟨⟩
  | [] => Walk.follows_done rfl _
  | e :: es => by
    unfold Expr.linkArgs
    have he := Expr.link_follows h e
    have hes := Expr.linkArgs_follows h es
    exact (he.andThen hes).mapNode Expr.argReferences _ fun _ => rfl

theorem Expr.linkInits_follows (h : inner.Shows s params) (struct? : Option StructMatch) :
    ∀ inits : List (WrittenName × Expr),
    (Expr.linkInits inner struct? inits).Follows s Expr.initReferences inits
      (Expr.initSites s params (struct?.map StructMatch.owner) inits) ⟨⟩
  | [] => Walk.follows_done rfl _
  | (name, value) :: inits => by
    unfold Expr.linkInits
    have hvalue := Expr.link_follows h value
    have hinits := Expr.linkInits_follows h struct? inits
    have hname := linkInit_follows h struct? name
    exact (hname.andThen (hvalue.andThen hinits)).mapNode Expr.initReferences _ fun _ => rfl

end

/-- The type that linking computes is the static one. -/
theorem Expr.type_of_link (h : inner.Shows s params) {e : Expr} {type : Option VarType}
    (he : (e.link inner).outcome = .ok type) : type = e.type s params :=
  (Expr.link_follows h e).value_eq he

/-! ## Annotations -/

theorem linkType_follows (h : inner.Shows s params) (type : TypeRef) :
    (inner.linkType type).Follows s (fun type => [.typeRef type]) type
      [{ reference := .typeRef type }] (s.types.typeOf s.imports type) := by
  rw [h.rest]
  cases type with
  | primitive kind range => exact Walk.follows_site (Site.link_none rfl) rfl rfl rfl rfl
  | named name =>
    let l := s.types.lookupRef s.imports (.named name)
    obtain ⟨hok, herror⟩ := Site.link_of_lookup (s := s) l name
      { reference := .typeRef (.named name) } (fun name => .typeRef (.named name)) rfl rfl
      (fun _ => rfl) rfl rfl
    unfold LinkScope.linkType
    simp only
    cases hl : l.link name with
    | ok linked => exact Walk.follows_site (hok linked hl) rfl rfl rfl rfl
    | error e => exact Walk.follows_site (herror e hl) rfl rfl rfl rfl

theorem LinkScope.shows_self (h : s.locals = []) : s.Shows s [] := by
  refine ⟨rfl, fun text => ?_⟩
  rw [h]
  rfl

/-- One more parameter becomes a local, unless its name is taken. -/
theorem LinkScope.Shows.add (h : inner.Shows s params) (param : MemberDecl) :
    (if inner.locals.any (·.name == param.name.text) then inner
      else { inner with locals := inner.locals ++ [s.asLocal param] }).Shows s
      (params ++ [param]) := by
  have hany : inner.locals.any (·.name == param.name.text) =
      (params.find? (·.name.text == param.name.text)).isSome := by
    rw [← List.isSome_find?, h.locals, Option.isSome_map]
  by_cases ht : inner.locals.any (·.name == param.name.text) = true
  · rw [if_pos ht]
    refine ⟨h.rest, fun text => ?_⟩
    rw [h.locals, List.find?_append]
    cases hf : params.find? (·.name.text == text) with
    | some first => rfl
    | none =>
      have hne : (param.name.text == text) = false := by
        by_contra he
        have he : param.name.text = text := by simpa using he
        rw [hany, he, hf] at ht
        cases ht
      simp [hne]
  · rw [if_neg ht]
    refine ⟨?_, fun text => ?_⟩
    · rw [h.rest]
    · show (inner.locals ++ [s.asLocal param]).find? (·.name == text) = _
      rw [List.find?_append, List.find?_append, h.locals]
      cases params.find? (·.name.text == text) with
      | some first => rfl
      | none =>
        have hn : (s.asLocal param).name = param.name.text := rfl
        simp only [Option.map_none, Option.none_or, List.find?_cons, List.find?_nil, hn]
        cases param.name.text == text with
        | true => rfl
        | false => rfl

/-- **The parameters of a func come into scope**, the first one of each name. -/
theorem linkParams_follows (ps : List MemberDecl) (h : inner.Shows s params) :
    ∃ body, LinkScope.Shows body s (params ++ ps) ∧
      (inner.linkParams ps).Follows s (List.map fun p => .typeRef p.type) ps
        (ps.map fun p => { reference := .typeRef p.type }) body := by
  induction ps generalizing inner params with
  | nil => exact ⟨inner, by rwa [List.append_nil], Walk.follows_done rfl _⟩
  | cons p ps ih =>
    have hfile : inner.file = s.file := by rw [h.rest]
    obtain ⟨body, hbody, hps⟩ := ih (h.add p)
    refine ⟨body, by simpa using hbody, ?_⟩
    unfold LinkScope.linkParams
    have hp := linkType_follows h p.type
    refine (hp.andThen ?_).mapNode (List.map fun p : MemberDecl => .typeRef p.type) _ fun _ => rfl
    have hlocal : (⟨p.name.text, ⟨inner.file, p.range⟩, s.types.typeOf s.imports p.type⟩ : Local) =
        s.asLocal p := by
      rw [hfile]
      rfl
    rw [hlocal]
    exact hps

theorem linkParams_shows (h : s.locals = []) {ps : List MemberDecl} {body : LinkScope}
    (hbody : (s.linkParams ps).outcome = .ok body) : LinkScope.Shows body s ps := by
  obtain ⟨body', hshows, hfollows⟩ := linkParams_follows ps (LinkScope.shows_self h)
  rwa [hfollows.value_eq hbody]

theorem linkReturns_follows (h : inner.Shows s params) (returns : Option TypeRef) :
    (inner.linkReturns returns).Follows s (fun r => (r.map Reference.typeRef).toList) returns
      ((returns.map Reference.typeRef).toList.map ({ reference := · })) ⟨⟩ := by
  cases returns with
  | none => exact Walk.follows_done rfl _
  | some type =>
    have ht := linkType_follows h type
    exact (ht.mapNode (fun r => (r.map Reference.typeRef).toList) some fun _ => rfl).mapValue _

/-! ## Declarations and scripts -/

theorem linkStructDecl_follows (h : s.locals = []) (decl : StructDecl) :
    (s.linkStructDecl decl).Follows s StructDecl.references decl decl.sites ⟨⟩ := by
  have hfield : ∀ f : FieldDecl, (s.linkFieldDecl f).Follows s (fun f => [.typeRef f.type]) f
      [{ reference := .typeRef f.type }] (s.types.typeOf s.imports f.type) := fun f =>
    (linkType_follows (LinkScope.shows_self h) f.type).mapNode
      (fun f : FieldDecl => [.typeRef f.type]) (fun type => { f with type }) fun _ => rfl
  have hlist := Walk.Follows.list hfield decl.fields
  have hsites : decl.sites =
      decl.fields.flatMap fun f => [{ reference := .typeRef f.type }] := by
    unfold StructDecl.sites StructDecl.references
    rw [List.map_map, ← List.flatMap_pure_eq_map]
    rfl
  rw [hsites]
  exact hlist.mapNode StructDecl.references (fun fields => { decl with fields }) fun fields =>
    (List.flatMap_pure_eq_map _ _).symm

theorem linkFuncDecl_follows (h : s.locals = []) (decl : FuncDecl) :
    (s.linkFuncDecl decl).Follows s FuncDecl.references decl (decl.sites s) ⟨⟩ := by
  have hself := LinkScope.shows_self h
  obtain ⟨body, hbody, hparams⟩ := linkParams_follows decl.params hself
  have hlist := Walk.Follows.list (Expr.link_follows hbody) decl.body
  have hsites : decl.sites s = decl.params.map (fun p => { reference := .typeRef p.type }) ++
      ((decl.returns.map Reference.typeRef).toList.map ({ reference := · }) ++
        decl.body.flatMap (Expr.sites s decl.params)) := by
    simp [FuncDecl.sites, FuncDecl.annotations, FuncDecl.bodySites, Function.comp_def]
  rw [hsites]
  exact (hparams.andThen ((linkReturns_follows hself decl.returns).andThen hlist)).mapNode
    FuncDecl.references _ fun _ => List.append_assoc _ _ _

end

/-- **A script is linked site by site**, in the order of its references. -/
theorem Script.link_follows (registry : Registry) (types : TypeIndex) (config : Config)
    (script : Script) :
    let s := LinkScope.ofScript registry types config script
    (script.link registry types config).Follows s Script.references script (script.sites s) ⟨⟩ := by
  intro s
  have hs : s.locals = [] := rfl
  have hstructs := Walk.Follows.list (linkStructDecl_follows hs) script.structs
  have hfuncs := Walk.Follows.list (linkFuncDecl_follows hs) script.funcs
  unfold Script.link
  exact (hstructs.andThen hfuncs).mapNode Script.references _ fun _ => rfl

/-- A script is what its walk leaves, if the walk goes to its end. -/
theorem Script.linked_of_ok {registry : Registry} {types : TypeIndex} {config : Config}
    {script : Script} {u : PUnit} (h : (script.link registry types config).outcome = .ok u) :
    script.linked registry types config = .ok ((script.link registry types config).node,
      (script.link registry types config).reports) := by
  unfold Script.linked
  simp only [h]
  rfl

/-- A script that was linked is what its walk has left, and the walk went to its end. -/
theorem Script.of_linked_ok {registry : Registry} {types : TypeIndex} {config : Config}
    {script linked : Script} {reports : List Diagnostic}
    (h : script.linked registry types config = .ok (linked, reports)) :
    (∃ u, (script.link registry types config).outcome = .ok u) ∧
      linked = (script.link registry types config).node ∧
      reports = (script.link registry types config).reports := by
  unfold Script.linked at h
  simp only at h
  cases ho : (script.link registry types config).outcome with
  | error e =>
    rw [ho] at h
    cases h
  | ok u =>
    rw [ho] at h
    obtain ⟨hnode, hreports⟩ := Prod.mk.inj (Except.ok.inj h)
    exact ⟨⟨u, rfl⟩, hnode.symm, hreports.symm⟩

/-- **A script in which nothing is linked yet is linked in one go.** -/
theorem Script.linked_of_unlinked (registry : Registry) (types : TypeIndex) (config : Config)
    (script : Script) (h : ∀ r ∈ script.references, r.target = none) :
    let s := LinkScope.ofScript registry types config script
    ∃ linked, script.linked registry types config =
        .ok (linked, (script.sites s).filterMap (·.report? s)) ∧
      linked.references = (script.sites s).map (·.settled s) := by
  intro s
  obtain ⟨houtcome, hreports, hnode⟩ := (script.link_follows registry types config).of_unlinked h
  refine ⟨(script.link registry types config).node, ?_, hnode⟩
  rw [Script.linked_of_ok houtcome, hreports]

end NameScope
