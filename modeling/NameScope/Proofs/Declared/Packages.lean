import NameScope.Proofs.Declared.Standing

/-!
# The packages of all bundles as one map

A table over packages has two levels, a map of bundles to maps of packages. It is used as if it had
one, a map from pairs of a bundle and a package. `Access.on` says on such a flat map what each access
to the value of a package does; `Bundles.run` does it on the two levels. Both hold the same values.

The flat map has no order. That of the two levels follows from the packages that were created, in the
order in which accesses asked for them (`createdBy`): the bundles as they were first met, and in each
of them its packages as they were first met (`grouped`). So a package that is created late may be
listed early, in a bundle that was met before.

* one step: an access (`Bundles.get?_step`, `Bundles.Lists.step`);
* a run: any accesses, by induction on their list (`Bundles.get?_run`, `Bundles.lists_run`).

**Results.** * `packages_are_one_map`: values, order, and the three views of a table.
-/
namespace NameScope

variable {τ : Type}

/-! ## Accesses to a flat map -/

/-- One access to the value of a package. -/
inductive Access (τ : Type) where
  /-- The value is changed; if there is none, `init` is put there first. -/
  | create (id : PackageId) (init : τ) (change : τ → τ)
  /-- The value is changed, if there is one. -/
  | change (id : PackageId) (change : τ → τ)

namespace Access

def id : Access τ → PackageId
  | .create id _ _ => id
  | .change id _ => id

/-- What the access makes of the value of its package. -/
def apply : Access τ → Option τ → Option τ
  | .create _ init f, none => some (f init)
  | .create _ _ f, some value => some (f value)
  | .change _ f, value => value.map f

/-- What the access makes of a flat map: the values of all other packages stay. -/
def on (a : Access τ) (m : PackageId → Option τ) : PackageId → Option τ :=
  fun id => if a.id = id then a.apply (m id) else m id

/-- The package that the access is sure to leave with a value. -/
def created? : Access τ → Option PackageId
  | .create id _ _ => some id
  | .change _ _ => none

end Access

/-- The flat map after accesses, from an empty one. -/
def valuesAfter (accesses : List (Access τ)) : PackageId → Option τ :=
  accesses.foldl (fun m a => a.on m) fun _ => none

/-- The packages that accesses create or find created, each as often as that happens. -/
def createdBy (accesses : List (Access τ)) : List PackageId := accesses.filterMap Access.created?

/-- The bundles of packages, as they are first met. -/
def bundlesMet (ids : List PackageId) : List BundleName := (ids.map (·.bundle)).eraseDups

/-- The packages of a bundle, as they are first met. -/
def packagesMet (ids : List PackageId) (bundle : BundleName) : List QualifiedName :=
  ((ids.filter fun id => id.bundle = bundle).map (·.package)).eraseDups

/-- Packages bundle by bundle, each once. -/
def grouped (ids : List PackageId) : List PackageId :=
  (bundlesMet ids).flatMap fun bundle => (packagesMet ids bundle).map fun package => ⟨bundle, package⟩

theorem mem_bundlesMet {ids : List PackageId} {bundle : BundleName} :
    bundle ∈ bundlesMet ids ↔ ∃ id ∈ ids, id.bundle = bundle := by
  rw [bundlesMet, List.mem_eraseDups, List.mem_map]

theorem mem_packagesMet {ids : List PackageId} {bundle : BundleName} {package : QualifiedName} :
    package ∈ packagesMet ids bundle ↔ ⟨bundle, package⟩ ∈ ids := by
  rw [packagesMet, List.mem_eraseDups, List.mem_map]
  constructor
  · rintro ⟨id, hid, rfl⟩
    obtain ⟨hmem, hbundle⟩ := List.mem_filter.1 hid
    rw [← of_decide_eq_true hbundle]
    exact hmem
  · intro hmem
    exact ⟨⟨bundle, package⟩, List.mem_filter.2 ⟨hmem, decide_eq_true rfl⟩, rfl⟩

theorem bundlesMet_concat (ids : List PackageId) (id : PackageId) :
    bundlesMet (ids ++ [id]) =
      if id.bundle ∈ bundlesMet ids then bundlesMet ids else bundlesMet ids ++ [id.bundle] := by
  unfold bundlesMet
  rw [List.map_append, List.map_singleton, eraseDups_concat]
  simp only [List.mem_eraseDups]

theorem packagesMet_concat (ids : List PackageId) (id : PackageId) (bundle : BundleName) :
    packagesMet (ids ++ [id]) bundle =
      if id.bundle = bundle ∧ id.package ∉ packagesMet ids bundle then
        packagesMet ids bundle ++ [id.package]
      else packagesMet ids bundle := by
  unfold packagesMet
  rw [List.filter_append]
  by_cases hbundle : id.bundle = bundle
  · rw [List.filter_cons_of_pos (by simpa using hbundle), List.filter_nil, List.map_append,
      List.map_singleton, eraseDups_concat]
    simp only [List.mem_eraseDups, hbundle, true_and, ite_not]
  · rw [List.filter_cons_of_neg (by simpa using hbundle), List.filter_nil, List.append_nil,
      if_neg fun h => hbundle h.1]

/-! ## Views of a table -/

/-- What is made of the entries of a map, where only the entry of one key makes something. -/
theorem OrderedMap.flatMap_key {α β γ : Type} [DecidableEq α] (m : OrderedMap α β) (k : α)
    {F : α × β → List γ} (h : ∀ e, e.1 ≠ k → F e = []) :
    m.entries.flatMap F = ((m.get? k).map fun v => F (k, v)).getD [] := by
  have hrest : ∀ es : List (α × β), es.flatMap F = (es.filter fun e => e.1 == k).flatMap F := by
    intro es
    induction es with
    | nil => rfl
    | cons e es ih =>
      by_cases he : e.1 = k
      · rw [List.filter_cons_of_pos (by simpa using he), List.flatMap_cons, List.flatMap_cons, ih]
      · rw [List.filter_cons_of_neg (by simpa using he), List.flatMap_cons, h e he, ih]
        rfl
  rw [hrest, filter_key]
  cases m.get? k <;> simp

namespace Bundles

/-- The names of the packages of a bundle. -/
def packageNames (b : Bundles τ) (bundle : BundleName) : List QualifiedName :=
  (b.packagesIn bundle).map Prod.fst

theorem packageNames_eq (b : Bundles τ) (bundle : BundleName) :
    b.packageNames bundle = ((b.table.get? bundle).getD .empty).keys := by
  unfold packageNames packagesIn
  cases b.table.get? bundle <;> rfl

/-- The packages are listed bundle by bundle. -/
theorem ids_eq (b : Bundles τ) :
    b.ids = b.bundleNames.flatMap fun bundle =>
      (b.packageNames bundle).map fun package => ⟨bundle, package⟩ := by
  unfold ids toList bundleNames OrderedMap.keys
  rw [List.map_flatMap, List.flatMap_map]
  refine List.flatMap_congr fun e he => ?_
  have hget : b.table.get? e.1 = some e.2 := (b.table.get?_eq_some_iff _ _).2 he
  rw [packageNames_eq, hget, Option.getD_some, OrderedMap.keys, List.map_map, List.map_map]
  rfl

theorem mem_packageNames {b : Bundles τ} {bundle : BundleName} {package : QualifiedName} :
    package ∈ b.packageNames bundle ↔ ∃ value, b.get? ⟨bundle, package⟩ = some value := by
  unfold get?
  rw [packageNames_eq]
  cases b.table.get? bundle with
  | none => simp [OrderedMap.keys]
  | some packages =>
    have hkey := packages.get?_eq_none_iff package
    rw [Option.getD_some, Option.bind_some]
    cases hget : packages.get? package with
    | none => simpa [hget] using hkey
    | some value => simpa [hget] using hkey

theorem packagesIn_eq_filter (b : Bundles τ) (bundle : BundleName) :
    b.packagesIn bundle =
      (b.toList.filter fun e => e.1.bundle = bundle).map fun e => (e.1.package, e.2) := by
  unfold toList
  rw [List.filter_flatMap, List.map_flatMap, OrderedMap.flatMap_key b.table bundle]
  · unfold packagesIn
    congr 2
    funext packages
    rw [List.filter_eq_self.2, List.map_map]
    · exact (List.map_id _).symm
    · intro e he
      obtain ⟨-, -, rfl⟩ := List.mem_map.1 he
      exact decide_eq_true rfl
  · intro e hne
    rw [List.filter_eq_nil_iff.2, List.map_nil]
    intro id hid
    obtain ⟨-, -, rfl⟩ := List.mem_map.1 hid
    exact fun h => hne (of_decide_eq_true h)

theorem size_eq_length (b : Bundles τ) : b.size = b.toList.length := by
  have hfold : ∀ (es : List (BundleName × OrderedMap QualifiedName τ)) (n : Nat),
      ((es.map Prod.snd).map (·.size)).foldl (· + ·) n =
        n + (es.flatMap fun (bundle, packages) =>
          packages.entries.map fun (package, value) =>
            ((⟨bundle, package⟩ : PackageId), value)).length := by
    intro es
    induction es with
    | nil => intro n; rfl
    | cons e es ih =>
      intro n
      rw [List.map_cons, List.map_cons, List.foldl_cons, ih, List.flatMap_cons, List.length_append,
        List.length_map, OrderedMap.size]
      omega
  have hsize := hfold b.table.entries 0
  rw [Nat.zero_add] at hsize
  exact hsize

/-! ## Accesses to a table -/

/-- Does an access on the two levels. -/
def step (b : Bundles τ) : Access τ → Bundles τ
  | .create id init f => b.update id init f
  | .change id f => b.modify id f

/-- Does accesses one after the other, on an empty table. -/
def run (accesses : List (Access τ)) : Bundles τ := accesses.foldl step .empty

theorem get?_step (b : Bundles τ) (a : Access τ) : (b.step a).get? = a.on b.get? := by
  funext id
  cases a with
  | create id' init f =>
    show (b.update id' init f).get? id = if id' = id then _ else _
    rw [get?_update]
    split
    · rename_i hid
      subst hid
      cases b.get? id' <;> rfl
    · rfl
  | change id' f =>
    show (b.modify id' f).get? id = if id' = id then _ else _
    rw [get?_modify]
    split
    · rename_i hid
      subst hid
      rfl
    · rfl

theorem get?_run (accesses : List (Access τ)) : (run accesses).get? = valuesAfter accesses := by
  induction accesses using List.reverseRecOn with
  | nil => rfl
  | append_singleton accesses a ih =>
    unfold run valuesAfter at *
    rw [List.foldl_append, List.foldl_append, List.foldl_cons, List.foldl_cons, List.foldl_nil,
      List.foldl_nil, get?_step, ih]

/-- The table lists the packages that were created, in the order of their first creation. -/
structure Lists (b : Bundles τ) (ids : List PackageId) : Prop where
  bundles : b.bundleNames = bundlesMet ids
  packages : ∀ bundle, b.packageNames bundle = packagesMet ids bundle

theorem lists_empty : (empty : Bundles τ).Lists [] := ⟨rfl, fun _ => rfl⟩

theorem Lists.update {b : Bundles τ} {ids : List PackageId} (h : b.Lists ids) (id : PackageId)
    (init : τ) (f : τ → τ) : (b.update id init f).Lists (ids ++ [id]) := by
  constructor
  · rw [bundlesMet_concat, ← h.bundles]
    exact OrderedMap.keys_insert _ _ _
  · intro bundle
    rw [packagesMet_concat, ← h.packages, packageNames_eq, packageNames_eq]
    unfold Bundles.update OrderedMap.update
    rw [OrderedMap.get?_insert]
    by_cases hbundle : id.bundle = bundle
    · subst hbundle
      rw [if_pos rfl, Option.getD_some, OrderedMap.keys_insert]
      simp only [true_and, ite_not]
    · rw [if_neg hbundle, if_neg fun hb => hbundle hb.1]

theorem Lists.modify {b : Bundles τ} {ids : List PackageId} (h : b.Lists ids) (id : PackageId)
    (f : τ → τ) : (b.modify id f).Lists ids := by
  constructor
  · exact (OrderedMap.keys_modify _ _ _).trans h.bundles
  · intro bundle
    rw [← h.packages, packageNames_eq, packageNames_eq]
    unfold Bundles.modify
    rw [OrderedMap.get?_modify]
    split
    · cases b.table.get? bundle with
      | none => rfl
      | some packages => exact OrderedMap.keys_modify _ _ _
    · rfl

theorem Lists.step {b : Bundles τ} {ids : List PackageId} (h : b.Lists ids) (a : Access τ) :
    (b.step a).Lists (ids ++ a.created?.toList) := by
  cases a with
  | create id init f => exact h.update id init f
  | change id f =>
    show (b.modify id f).Lists (ids ++ [])
    rw [List.append_nil]
    exact h.modify id f

theorem lists_run (accesses : List (Access τ)) : (run accesses).Lists (createdBy accesses) := by
  induction accesses using List.reverseRecOn with
  | nil => exact lists_empty
  | append_singleton accesses a ih =>
    have hrun : run (accesses ++ [a]) = (run accesses).step a := List.foldl_append
    have hcreated : createdBy (accesses ++ [a]) = createdBy accesses ++ a.created?.toList := by
      unfold createdBy
      rw [List.filterMap_append]
      cases a <;> rfl
    rw [hrun, hcreated]
    exact ih.step a

/-- What is listed has been created, and no bundle is listed without a package. -/
theorem Lists.mem_bundleNames {b : Bundles τ} {ids : List PackageId} (h : b.Lists ids)
    (bundle : BundleName) :
    bundle ∈ b.bundleNames ↔ ∃ package value, b.get? ⟨bundle, package⟩ = some value := by
  simp only [← mem_packageNames, h.bundles, h.packages, mem_bundlesMet, mem_packagesMet]
  constructor
  · rintro ⟨id, hid, rfl⟩
    exact ⟨id.package, hid⟩
  · rintro ⟨package, hid⟩
    exact ⟨⟨bundle, package⟩, hid, rfl⟩

theorem Lists.ids_eq_grouped {b : Bundles τ} {ids : List PackageId} (h : b.Lists ids) :
    b.ids = grouped ids := by
  rw [ids_eq, h.bundles]
  exact List.flatMap_congr fun bundle _ => by rw [h.packages]

theorem Lists.isEmpty_iff {b : Bundles τ} {ids : List PackageId} (h : b.Lists ids) :
    b.isEmpty = true ↔ b.bundleNames = [] := by
  unfold isEmpty
  rw [beq_iff_eq, size_eq_length, List.length_eq_zero_iff, List.eq_nil_iff_forall_not_mem,
    List.eq_nil_iff_forall_not_mem]
  constructor
  · intro hlist bundle hbundle
    obtain ⟨package, value, hget⟩ := (h.mem_bundleNames bundle).1 hbundle
    exact hlist _ ((b.mem_toList_iff _ value).2 hget)
  · rintro hnames ⟨id, value⟩ hmem
    exact hnames id.bundle ((h.mem_bundleNames id.bundle).2
      ⟨id.package, value, (b.mem_toList_iff id value).1 hmem⟩)

end Bundles

/-- **The packages of all bundles are one map.** After any accesses to an empty table, each package
has the value that the flat map has for it: the first creating access puts an initial value there,
all accesses change what is there, and no other package is affected. The list of the table has each
package with a value once and with this value; the packages stand bundle by bundle, in the order in
which the bundles were first met, and in each of them in the order in which its packages were. The
packages of one bundle are its part of the list, the size is the length of the list, and a bundle is
listed exactly if a package of it has a value. So a table is empty exactly if it lists no bundle. -/
theorem packages_are_one_map (accesses : List (Access τ)) :
    let b := Bundles.run accesses
    let created := createdBy accesses
    (∀ id, b.get? id = valuesAfter accesses id) ∧
    (∀ id value, (id, value) ∈ b.toList ↔ b.get? id = some value) ∧
    b.toList.map Prod.fst = grouped created ∧ (grouped created).Nodup ∧
    (∀ bundle, b.packagesIn bundle =
      (b.toList.filter fun e => e.1.bundle = bundle).map fun e => (e.1.package, e.2)) ∧
    b.size = b.toList.length ∧
    b.bundleNames = bundlesMet created ∧
    (∀ bundle, bundle ∈ b.bundleNames ↔
      ∃ package value, b.get? ⟨bundle, package⟩ = some value) ∧
    (b.isEmpty = true ↔ b.bundleNames = []) := by
  intro b created
  have hlists : b.Lists created := Bundles.lists_run accesses
  have hids : b.toList.map Prod.fst = grouped created := hlists.ids_eq_grouped
  exact ⟨congrFun (Bundles.get?_run accesses), b.mem_toList_iff, hids, hids ▸ b.nodup_ids,
    b.packagesIn_eq_filter, b.size_eq_length, hlists.bundles, hlists.mem_bundleNames,
    hlists.isEmpty_iff⟩

/-- A package of the bundle that was met first is listed before those of the other one, although it
was created later. -/
example :
    let accesses : List (Access Nat) :=
      [.create ⟨⟨"game"⟩, ⟨["game"]⟩⟩ 0 (· + 1), .create ⟨⟨"core"⟩, ⟨["math"]⟩⟩ 20 (· + 1),
        .change ⟨⟨"core"⟩, ⟨["game"]⟩⟩ (· + 5), .create ⟨⟨"game"⟩, ⟨["math"]⟩⟩ 0 id,
        .create ⟨⟨"game"⟩, ⟨["game"]⟩⟩ 7 (· + 1)]
    (Bundles.run accesses).toList =
      [(⟨⟨"game"⟩, ⟨["game"]⟩⟩, 2), (⟨⟨"game"⟩, ⟨["math"]⟩⟩, 0), (⟨⟨"core"⟩, ⟨["math"]⟩⟩, 21)] := by
  decide

end NameScope
