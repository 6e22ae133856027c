import NameScope.Name.Package
import NameScope.OrderedMap.Basic

/-!
# Tables over the packages of all bundles

One value per package of a bundle. The packages are listed bundle by bundle, in the order in which
each bundle, and in it each package, was first written.

**Results.** * `get?_update`, `get?_modify`: a write reaches its own package only;
* `mem_toList_iff`: look-up and the list say the same.
-/
namespace NameScope

/-- One `τ` per package of a bundle. -/
structure Bundles (τ : Type u) where
  table : OrderedMap BundleName (OrderedMap QualifiedName τ)
  deriving Repr

namespace Bundles

variable {τ : Type u}

def empty : Bundles τ := ⟨.empty⟩

instance : Inhabited (Bundles τ) := ⟨empty⟩

def get? (b : Bundles τ) (id : PackageId) : Option τ :=
  (b.table.get? id.bundle).bind (·.get? id.package)

/-- Changes the value of a package, if it has one. -/
def modify (b : Bundles τ) (id : PackageId) (f : τ → τ) : Bundles τ :=
  ⟨b.table.modify id.bundle (·.modify id.package f)⟩

/-- Writes `f` of the value of a package, where `init` stands for a missing one. -/
def update (b : Bundles τ) (id : PackageId) (init : τ) (f : τ → τ) : Bundles τ :=
  ⟨b.table.update id.bundle .empty (·.update id.package init f)⟩

/-- Writes the value of a package. -/
def insert (b : Bundles τ) (id : PackageId) (value : τ) : Bundles τ := b.update id value fun _ => value

/-- Every package with its value. -/
def toList (b : Bundles τ) : List (PackageId × τ) :=
  b.table.entries.flatMap fun (bundle, packages) =>
    packages.entries.map fun (package, value) => (⟨bundle, package⟩, value)

def bundleNames (b : Bundles τ) : List BundleName := b.table.keys

/-- The packages of one bundle. -/
def packagesIn (b : Bundles τ) (bundle : BundleName) : List (QualifiedName × τ) :=
  ((b.table.get? bundle).map (·.entries)).getD []

/-- The number of packages. -/
def size (b : Bundles τ) : Nat := (b.table.values.map (·.size)).foldl (· + ·) 0

def isEmpty (b : Bundles τ) : Bool := b.size == 0

/-! ## Look-up -/

theorem get?_update (b : Bundles τ) (id id' : PackageId) (init : τ) (f : τ → τ) :
    (b.update id init f).get? id' =
      if id = id' then some (f ((b.get? id).getD init)) else b.get? id' := by
  obtain ⟨bundle, package⟩ := id
  obtain ⟨bundle', package'⟩ := id'
  simp only [get?, update, OrderedMap.update, OrderedMap.get?_insert, PackageId.mk.injEq]
  by_cases hb : bundle = bundle'
  · subst hb
    cases hg : b.table.get? bundle with
    | none => by_cases hp : package = package' <;> simp [OrderedMap.get?_insert, hp]
    | some packages => by_cases hp : package = package' <;> simp [OrderedMap.get?_insert, hp]
  · simp [hb]

theorem get?_insert (b : Bundles τ) (id id' : PackageId) (value : τ) :
    (b.insert id value).get? id' = if id = id' then some value else b.get? id' :=
  get?_update b id id' value fun _ => value

theorem get?_modify (b : Bundles τ) (id id' : PackageId) (f : τ → τ) :
    (b.modify id f).get? id' = if id = id' then (b.get? id).map f else b.get? id' := by
  obtain ⟨bundle, package⟩ := id
  obtain ⟨bundle', package'⟩ := id'
  simp only [get?, modify, OrderedMap.get?_modify, PackageId.mk.injEq]
  by_cases hb : bundle = bundle'
  · subst hb
    cases hg : b.table.get? bundle with
    | none => simp
    | some packages => by_cases hp : package = package' <;> simp [OrderedMap.get?_modify, hp]
  · simp [hb]

theorem mem_toList_iff (b : Bundles τ) (id : PackageId) (value : τ) :
    (id, value) ∈ b.toList ↔ b.get? id = some value := by
  obtain ⟨bundle, package⟩ := id
  simp only [toList, get?, List.mem_flatMap, List.mem_map, Prod.exists, Prod.mk.injEq,
    PackageId.mk.injEq, Option.bind_eq_some_iff, OrderedMap.get?_eq_some_iff]
  constructor
  · rintro ⟨b', packages, hb, p', v', hp, ⟨rfl, rfl⟩, rfl⟩
    exact ⟨packages, hb, hp⟩
  · rintro ⟨packages, hb, hp⟩
    exact ⟨bundle, packages, hb, package, value, hp, ⟨rfl, rfl⟩, rfl⟩

end Bundles

end NameScope
