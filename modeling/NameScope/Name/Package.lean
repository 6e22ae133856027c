import NameScope.Name.Qualified

/-!
# Bundles and their packages

A bundle is a unit of dependency with packages in it. Two bundles may have packages of one name, so
only the pair of both names identifies a package.
-/
namespace NameScope

/-- The name of a bundle: any text. -/
structure BundleName where
  text : String
  deriving DecidableEq, Repr, Inhabited

instance : Ord BundleName := ⟨fun a b => compare a.text b.text⟩

/-- A package of a bundle. -/
structure PackageId where
  bundle : BundleName
  package : QualifiedName
  deriving DecidableEq, Repr, Inhabited

namespace PackageId

/-- By bundle, then by package. -/
instance : Ord PackageId :=
  ⟨fun a b => (compare a.bundle b.bundle).then (compare a.package b.package)⟩

/-- `package (bundle)`. -/
def text (p : PackageId) : String := p.package.text ++ " (" ++ p.bundle.text ++ ")"

end PackageId

/-- The packages from which a script takes names. Only membership counts. -/
structure ImportSet where
  packages : List QualifiedName
  deriving Repr

namespace ImportSet

/-- The set of the listed packages. -/
def ofList (packages : List QualifiedName) : ImportSet := ⟨packages⟩

instance : Membership QualifiedName ImportSet := ⟨fun s p => p ∈ s.packages⟩

instance (p : QualifiedName) (s : ImportSet) : Decidable (p ∈ s) :=
  inferInstanceAs (Decidable (p ∈ s.packages))

/-- Each package once. -/
def toList (s : ImportSet) : List QualifiedName := s.packages.eraseDups

/-- The number of different packages. -/
def size (s : ImportSet) : Nat := s.toList.length

theorem mem_ofList {p : QualifiedName} {l : List QualifiedName} : p ∈ ofList l ↔ p ∈ l := Iff.rfl

theorem mem_toList {p : QualifiedName} {s : ImportSet} : p ∈ s.toList ↔ p ∈ s :=
  List.mem_eraseDups

end ImportSet

end NameScope
