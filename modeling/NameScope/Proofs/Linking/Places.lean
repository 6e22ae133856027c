import NameScope.Proofs.Linking.Follows

/-!
# Places in a linked script

Linking keeps the shape of a script, so that a place in the body of a func means something before
and after it. A place is a path: which expression of the body, then which expression directly inside
of it, and so on. Where linking does not stop, what stands at a place afterwards is what linking
makes of the expression that stood there, in the scope of the body; and what linking that expression
reports stands in a row in the reports of the whole.

* one step: the expressions directly inside an expression (`Expr.child_of_link`);
* a run: all paths, by induction (`Expr.part_of_link`). The references at a path are references of
  the whole in the same way (`Expr.child_references_subset`, `Expr.part_references_subset`).

**Results.** `Script.body_of_linked`, `FuncDecl.LinkedIn.part`: the same for the funcs of a script.
-/
namespace NameScope

/-! ## Places -/

/-- The `i`-th expression directly inside: an argument, the value before a field, or the value given
to a field in a literal. -/
def Expr.child? : Expr → Nat → Option Expr
  | .call _ args _, i => args[i]?
  | .field value _, 0 => some value
  | .structLit _ inits _, i => inits[i]?.map Prod.snd
  | _, _ => none

/-- The expression at a path. -/
def Expr.part? (e : Expr) : List Nat → Option Expr
  | [] => some e
  | i :: path => (e.child? i).bind (·.part? path)

/-- The expression at a path in the body of a func. -/
def FuncDecl.part? (d : FuncDecl) : List Nat → Option Expr
  | [] => none
  | i :: path => d.body[i]?.bind (·.part? path)

/-! ## References at a place -/

/-- What is directly inside an expression refers to nothing else than the expression does. -/
theorem Expr.child_references_subset {e c : Expr} {i : Nat} (h : e.child? i = some c) :
    c.references ⊆ e.references := by
  intro r hr
  cases e with
  | identifier ident => cases h
  | call callee args range =>
    have hc : c ∈ args := List.mem_of_getElem? h
    refine List.mem_cons_of_mem _ ?_
    rw [Expr.argReferences_eq_flatMap]
    exact List.mem_flatMap.2 ⟨c, hc, hr⟩
  | field value name =>
    cases i with
    | zero =>
      cases h
      exact List.mem_append_left _ hr
    | succ i => cases h
  | structLit name inits range =>
    obtain ⟨init, hinit, rfl⟩ := Option.map_eq_some_iff.1 h
    refine List.mem_cons_of_mem _ ?_
    rw [Expr.initReferences_eq_flatMap]
    exact List.mem_flatMap.2 ⟨init, List.mem_of_getElem? hinit, List.mem_cons_of_mem _ hr⟩
  | constant range => cases h

theorem Expr.part_references_subset {e part : Expr} {path : List Nat}
    (h : e.part? path = some part) : part.references ⊆ e.references := by
  induction path generalizing e with
  | nil =>
    cases h
    exact List.Subset.refl _
  | cons i path ih =>
    obtain ⟨c, hc, hpart⟩ := Option.bind_eq_some_iff.1 h
    exact List.Subset.trans (ih hpart) (Expr.child_references_subset hc)

/-- **The references at a place in the body of a func** are references of the func. -/
theorem FuncDecl.part_references_subset {d : FuncDecl} {part : Expr} {path : List Nat}
    (h : d.part? path = some part) : part.references ⊆ d.references := by
  cases path with
  | nil => cases h
  | cons i path =>
    obtain ⟨e, he, hpart⟩ := Option.bind_eq_some_iff.1 h
    intro r hr
    refine List.mem_append_right _ (List.mem_flatMap.2 ⟨e, List.mem_of_getElem? he, ?_⟩)
    exact Expr.part_references_subset hpart hr

/-! ## Walks that do not stop -/

namespace Walk

section

variable {ν μ κ : Type} {α β : Type v}

/-- A walk that does not stop has gone over both parts. -/
theorem of_andThen_ok {w : Walk ν α} {rest : μ} {next : α → Walk μ β} {value : β}
    (h : (w.andThen rest next).outcome = .ok value) :
    ∃ first, w.outcome = .ok first ∧ (next first).outcome = .ok value ∧
      w.andThen rest next =
        ⟨(w.node, (next first).node), w.reports ++ (next first).reports, .ok value⟩ := by
  cases hw : w.outcome with
  | error e =>
    rw [andThen_error hw] at h
    cases h
  | ok first =>
    rw [andThen_ok hw] at h ⊢
    have hnext : (next first).outcome = .ok value := h
    exact ⟨first, rfl, hnext, by rw [hnext]⟩

/-- The same, where the two parts are put into a larger node. -/
theorem of_mapNode_andThen_ok {w : Walk ν α} {rest : μ} {next : α → Walk μ β} {f : ν × μ → κ}
    {value : β} (h : ((w.andThen rest next).mapNode f).outcome = .ok value) :
    ∃ first, w.outcome = .ok first ∧ (next first).outcome = .ok value ∧
      (w.andThen rest next).mapNode f =
        ⟨f (w.node, (next first).node), w.reports ++ (next first).reports, .ok value⟩ :=
  let ⟨first, hw, hnext, hwalk⟩ := of_andThen_ok h
  ⟨first, hw, hnext, congrArg (mapNode f) hwalk⟩

theorem of_mapValue_ok {w : Walk ν α} {f : α → β} {value : β}
    (h : (w.mapValue f).outcome = .ok value) : ∃ v, w.outcome = .ok v ∧ f v = value := by
  unfold mapValue at h
  cases hw : w.outcome with
  | error e =>
    rw [hw] at h
    cases h
  | ok v =>
    rw [hw] at h
    exact ⟨v, rfl, Except.ok.inj h⟩

/-- A walk is a stretch of a longer one: it went to its end, and what it reports stands in a row in
what the longer one reports. -/
structure StretchOf (w : Walk ν α) (reports : List Diagnostic) : Prop where
  ended : ∃ value, w.outcome = .ok value
  reports : w.reports <:+: reports

theorem StretchOf.mono {w : Walk ν α} {reports reports' : List Diagnostic}
    (h : w.StretchOf reports) (hr : reports <:+: reports') : w.StretchOf reports' :=
  ⟨h.ended, h.reports.trans hr⟩

/-- Each node of a list is walked over. -/
theorem of_list_ok {f : ν → Walk ν α} {ns : List ν} {u : PUnit} (h : (list f ns).outcome = .ok u)
    {i : Nat} {n : ν} (hn : ns[i]? = some n) :
    (list f ns).node[i]? = some (f n).node ∧ (f n).StretchOf (list f ns).reports := by
  induction ns generalizing i with
  | nil => cases hn
  | cons n' ns ih =>
    obtain ⟨first, hfirst, hrest, hlist⟩ := of_mapNode_andThen_ok h
    have hlist : list f (n' :: ns) =
        ⟨(f n').node :: (list f ns).node, (f n').reports ++ (list f ns).reports, .ok u⟩ := hlist
    rw [hlist]
    cases i with
    | zero =>
      cases hn
      exact ⟨rfl, ⟨first, hfirst⟩, List.infix_append' [] _ _⟩
    | succ i =>
      obtain ⟨hnode, hstretch⟩ := ih hrest hn
      exact ⟨hnode, hstretch.mono (List.suffix_append _ _).isInfix⟩

end

end Walk

/-! ## Expressions -/

section

variable {s : LinkScope}

theorem Expr.linkArgs_eq (s : LinkScope) (es : List Expr) :
    Expr.linkArgs s es = Walk.list (Expr.link s) es := by
  induction es with
  | nil => rfl
  | cons e es ih =>
    unfold Expr.linkArgs Walk.list
    rw [ih]

theorem Expr.of_linkInits_cons_ok {struct? : Option StructMatch} {name : WrittenName} {value : Expr}
    {inits : List (WrittenName × Expr)} {u : PUnit}
    (h : (Expr.linkInits s struct? ((name, value) :: inits)).outcome = .ok u) :
    ∃ type, (value.link s).outcome = .ok type ∧ (Expr.linkInits s struct? inits).outcome = .ok u ∧
      Expr.linkInits s struct? ((name, value) :: inits) =
        ⟨((s.linkInit struct? name).node, (value.link s).node) ::
            (Expr.linkInits s struct? inits).node,
          (s.linkInit struct? name).reports ++
            ((value.link s).reports ++ (Expr.linkInits s struct? inits).reports), .ok u⟩ := by
  obtain ⟨first, -, hrest, hlink⟩ := Walk.of_mapNode_andThen_ok h
  obtain ⟨type, hvalue, hinits, hboth⟩ := Walk.of_andThen_ok hrest
  exact ⟨type, hvalue, hinits, hlink.trans (by rw [hboth])⟩

/-- The value of each field of a literal is linked. -/
theorem Expr.of_linkInits_ok {struct? : Option StructMatch} {inits : List (WrittenName × Expr)}
    {u : PUnit} (h : (Expr.linkInits s struct? inits).outcome = .ok u) {i : Nat} {e : Expr}
    (he : inits[i]?.map Prod.snd = some e) :
    (Expr.linkInits s struct? inits).node[i]?.map Prod.snd = some (e.link s).node ∧
      (e.link s).StretchOf (Expr.linkInits s struct? inits).reports := by
  induction inits generalizing i with
  | nil => cases he
  | cons init inits ih =>
    obtain ⟨name, value⟩ := init
    obtain ⟨type, hvalue, hinits, hlink⟩ := Expr.of_linkInits_cons_ok h
    rw [hlink]
    cases i with
    | zero =>
      cases he
      exact ⟨rfl, ⟨type, hvalue⟩, List.infix_append' _ _ _⟩
    | succ i =>
      obtain ⟨hnode, hstretch⟩ := ih hinits he
      refine ⟨hnode, hstretch.mono ?_⟩
      exact ((List.suffix_append _ _).trans (List.suffix_append _ _)).isInfix

/-- A field access that is linked: the value first, then the name of the field in its type. -/
theorem Expr.of_link_field_ok {value : Expr} {name : WrittenName} {type : Option VarType}
    (h : ((Expr.field value name).link s).outcome = .ok type) :
    ∃ before, (value.link s).outcome = .ok before ∧ (s.linkAccess before name).outcome = .ok type ∧
      (Expr.field value name).link s =
        ⟨.field (value.link s).node (s.linkAccess before name).node,
          (value.link s).reports ++ (s.linkAccess before name).reports, .ok type⟩ :=
  Walk.of_mapNode_andThen_ok h

theorem Expr.of_link_call_ok {callee : Identifier} {args : List Expr} {range : Range}
    {type : Option VarType} (h : ((Expr.call callee args range).link s).outcome = .ok type) :
    (∃ u, (Walk.list (Expr.link s) args).outcome = .ok u) ∧
      (Expr.call callee args range).link s =
        ⟨.call (s.linkCallee callee).node (Walk.list (Expr.link s) args).node range,
          (s.linkCallee callee).reports ++ (Walk.list (Expr.link s) args).reports, .ok type⟩ := by
  rw [← Expr.linkArgs_eq]
  obtain ⟨returns, -, hrest, hlink⟩ := Walk.of_mapNode_andThen_ok h
  obtain ⟨u, hargs, -⟩ := Walk.of_mapValue_ok hrest
  exact ⟨⟨u, hargs⟩, hlink⟩

theorem Expr.of_link_structLit_ok {name : WrittenName} {inits : List (WrittenName × Expr)}
    {range : Range} {type : Option VarType}
    (h : ((Expr.structLit name inits range).link s).outcome = .ok type) :
    ∃ struct?, (∃ u, (Expr.linkInits s struct? inits).outcome = .ok u) ∧
      (Expr.structLit name inits range).link s =
        ⟨.structLit (s.linkStruct name).node (Expr.linkInits s struct? inits).node range,
          (s.linkStruct name).reports ++ (Expr.linkInits s struct? inits).reports, .ok type⟩ := by
  obtain ⟨found, -, hrest, hlink⟩ := Walk.of_mapNode_andThen_ok h
  obtain ⟨u, hinits, -⟩ := Walk.of_mapValue_ok hrest
  exact ⟨found.single?, ⟨u, hinits⟩, hlink⟩

/-- **What is directly inside an expression is linked like any other expression.** -/
theorem Expr.child_of_link {e c : Expr} {type : Option VarType}
    (h : (e.link s).outcome = .ok type) {i : Nat} (hc : e.child? i = some c) :
    (e.link s).node.child? i = some (c.link s).node ∧
      (c.link s).StretchOf (e.link s).reports := by
  cases e with
  | identifier ident => cases hc
  | call callee args range =>
    obtain ⟨⟨u, hargs⟩, hlink⟩ := Expr.of_link_call_ok h
    obtain ⟨hnode, hstretch⟩ := Walk.of_list_ok hargs hc
    rw [hlink]
    exact ⟨hnode, hstretch.mono (List.suffix_append _ _).isInfix⟩
  | field value name =>
    cases i with
    | zero =>
      cases hc
      obtain ⟨before, hvalue, -, hlink⟩ := Expr.of_link_field_ok h
      rw [hlink]
      exact ⟨rfl, ⟨before, hvalue⟩, (List.prefix_append _ _).isInfix⟩
    | succ i => cases hc
  | structLit name inits range =>
    obtain ⟨struct?, ⟨u, hinits⟩, hlink⟩ := Expr.of_link_structLit_ok h
    obtain ⟨hnode, hstretch⟩ := Expr.of_linkInits_ok hinits hc
    rw [hlink]
    exact ⟨hnode, hstretch.mono (List.suffix_append _ _).isInfix⟩
  | constant range => cases hc

/-- **An expression is linked part by part**: at each path stands what linking makes of the part. -/
theorem Expr.part_of_link {e part : Expr} {type : Option VarType}
    (h : (e.link s).outcome = .ok type) {path : List Nat} (hpart : e.part? path = some part) :
    (e.link s).node.part? path = some (part.link s).node ∧
      (part.link s).StretchOf (e.link s).reports := by
  induction path generalizing e type with
  | nil =>
    cases hpart
    exact ⟨rfl, ⟨type, h⟩, List.infix_rfl⟩
  | cons i path ih =>
    obtain ⟨c, hc, hpart⟩ := Option.bind_eq_some_iff.1 hpart
    obtain ⟨hnode, ⟨t, ht⟩, hreports⟩ := Expr.child_of_link h hc
    obtain ⟨hpart, hstretch⟩ := ih ht hpart
    unfold Expr.part?
    rw [hnode]
    exact ⟨hpart, hstretch.mono hreports⟩

end

/-! ## Funcs -/

/-- The body of the func was linked in the scope `body`, which its parameters gave rise to. What is
left of the func is `after`. -/
structure FuncDecl.LinkedIn (s : LinkScope) (func : FuncDecl) (body : LinkScope) (after : FuncDecl)
    (reports : List Diagnostic) : Prop where
  scope : (s.linkParams func.params).outcome = .ok body
  node : after.body = (Walk.list (Expr.link body) func.body).node
  stretch : (Walk.list (Expr.link body) func.body).StretchOf reports

theorem FuncDecl.linkedIn_of_link {s : LinkScope} {func : FuncDecl} {u : PUnit}
    (h : (s.linkFuncDecl func).outcome = .ok u) :
    ∃ body, func.LinkedIn s body (s.linkFuncDecl func).node (s.linkFuncDecl func).reports := by
  unfold LinkScope.linkFuncDecl at h ⊢
  obtain ⟨body, hbody, hrest, hwalk⟩ := Walk.of_andThen_ok h
  obtain ⟨u, -, hlist, hwalk'⟩ := Walk.of_andThen_ok hrest
  rw [hwalk, hwalk']
  refine ⟨body, hbody, rfl, ⟨_, hlist⟩, ?_⟩
  exact ((List.suffix_append _ _).trans (List.suffix_append _ _)).isInfix

/-- What is left at a place in the body of a func. -/
theorem FuncDecl.LinkedIn.part {s body : LinkScope} {func after : FuncDecl}
    {reports : List Diagnostic} (h : func.LinkedIn s body after reports) {path : List Nat}
    {part : Expr} (hpart : func.part? path = some part) :
    after.part? path = some (part.link body).node ∧ (part.link body).StretchOf reports := by
  cases path with
  | nil => cases hpart
  | cons i path =>
    obtain ⟨e, he, hpart⟩ := Option.bind_eq_some_iff.1 hpart
    obtain ⟨u, hu⟩ := h.stretch.ended
    obtain ⟨hnode, ⟨type, htype⟩, hreports⟩ := Walk.of_list_ok hu he
    obtain ⟨hpart, hstretch⟩ := Expr.part_of_link htype hpart
    refine ⟨?_, hstretch.mono (hreports.trans h.stretch.reports)⟩
    show (after.body[i]?).bind (·.part? path) = _
    rw [h.node, hnode]
    exact hpart

/-- **Each func of a script that was linked** was linked in the scope of its parameters. -/
theorem Script.body_of_linked {registry : Registry} {types : TypeIndex} {config : Config}
    {script linked : Script} {reports : List Diagnostic}
    (h : script.linked registry types config = .ok (linked, reports)) {i : Nat} {func : FuncDecl}
    (hfunc : script.funcs[i]? = some func) :
    ∃ body after, linked.funcs[i]? = some after ∧
      func.LinkedIn (.ofScript registry types config script) body after reports := by
  let s := LinkScope.ofScript registry types config script
  obtain ⟨⟨u, hu⟩, rfl, rfl⟩ := Script.of_linked_ok h
  unfold Script.link at hu ⊢
  obtain ⟨u', -, hfuncs, hwalk⟩ := Walk.of_andThen_ok hu
  simp only [hwalk]
  obtain ⟨hnode, ⟨v, hv⟩, hreports⟩ := Walk.of_list_ok hfuncs hfunc
  obtain ⟨body, hbody⟩ := FuncDecl.linkedIn_of_link hv
  refine ⟨body, (s.linkFuncDecl func).node, hnode, hbody.scope, hbody.node, ?_⟩
  exact hbody.stretch.mono (hreports.trans (List.suffix_append _ _).isInfix)

end NameScope
