import NameScope.OrderedMap.Entries

/-!
# Finite maps that remember insertion order

A map is the list of its entries; no key occurs twice, and the order of the list is the order in
which answers are given. Writing to a known key keeps its place. There are two ways to remove an
entry: `erase` closes the gap, `swapErase` fills it with the last entry.

**Results.** What the operations do to the two views, `get?` and `keys`: `get?_insert`,
`keys_insert`, `get?_modify`, `keys_modify`, `get?_erase`, `get?_swapErase`, `keys_swapErase_last`,
`keys_swapErase_moved`; and `get?_eq_some_iff`, by which look-up and the list of entries say the
same.
-/
namespace NameScope

/-- A map with an order of its entries. -/
structure OrderedMap (α : Type u) (β : Type v) where
  entries : List (α × β)
  nodup_keys : (entries.map Prod.fst).Nodup
  deriving Repr

namespace OrderedMap

variable {α : Type u} {β : Type v}

/-- The map without entries. -/
def empty : OrderedMap α β := ⟨[], List.nodup_nil⟩

instance : Inhabited (OrderedMap α β) := ⟨empty⟩

instance [DecidableEq α] [DecidableEq β] : DecidableEq (OrderedMap α β) := fun a b =>
  match decEq a.entries b.entries with
  | isTrue h => isTrue (by cases a; cases b; cases h; rfl)
  | isFalse h => isFalse fun hab => h (congrArg entries hab)

def keys (m : OrderedMap α β) : List α := m.entries.map Prod.fst

def values (m : OrderedMap α β) : List β := m.entries.map Prod.snd

def size (m : OrderedMap α β) : Nat := m.entries.length

def isEmpty (m : OrderedMap α β) : Bool := m.entries.isEmpty

/-- Changes each value; keys and order stay. -/
def mapValues (f : β → γ) (m : OrderedMap α β) : OrderedMap α γ where
  entries := m.entries.map fun e => (e.1, f e.2)
  nodup_keys := by
    have h : (m.entries.map fun e => (e.1, f e.2)).map Prod.fst = m.entries.map Prod.fst := by
      simp [Function.comp_def]
    exact h ▸ m.nodup_keys

variable [DecidableEq α]

def get? (m : OrderedMap α β) (k : α) : Option β := lookupEntry k m.entries

/-- Writes `v` at `k`: in place if `k` is known, at the end otherwise. -/
def insert (m : OrderedMap α β) (k : α) (v : β) : OrderedMap α β :=
  ⟨insertEntry k v m.entries, nodup_insertEntry k v m.nodup_keys⟩

/-- Changes the value at `k`, if there is one. -/
def modify (m : OrderedMap α β) (k : α) (f : β → β) : OrderedMap α β where
  entries := m.entries.map fun e => if e.1 = k then (e.1, f e.2) else e
  nodup_keys := by
    have h : (m.entries.map fun e => if e.1 = k then (e.1, f e.2) else e).map Prod.fst =
        m.entries.map Prod.fst := by
      rw [List.map_map]
      refine List.map_congr_left fun e _ => ?_
      simp only [Function.comp]
      split <;> rfl
    exact h ▸ m.nodup_keys

/-- Writes `f` of the value at `k`, where `init` stands for a missing one. -/
def update (m : OrderedMap α β) (k : α) (init : β) (f : β → β) : OrderedMap α β :=
  m.insert k (f ((m.get? k).getD init))

/-- Removes the entry of `k`; the others keep their order. -/
def erase (m : OrderedMap α β) (k : α) : OrderedMap α β :=
  ⟨m.entries.filter fun e => e.1 ≠ k, nodup_filter_keys _ m.nodup_keys⟩

/-- Removes the entry of `k` and moves the last entry to its place. -/
def swapErase (m : OrderedMap α β) (k : α) : OrderedMap α β :=
  ⟨swapEraseEntry k m.entries,
    ((swapEraseEntry_perm k m.nodup_keys).map Prod.fst).nodup_iff.2
      (nodup_filter_keys _ m.nodup_keys)⟩

/-- Writes the pairs of `es` one after the other. -/
def ofList (es : List (α × β)) : OrderedMap α β :=
  es.foldl (fun m e => m.insert e.1 e.2) empty

/-! ## Views -/

omit [DecidableEq α] in
@[ext] theorem ext {m n : OrderedMap α β} (h : m.entries = n.entries) : m = n := by
  cases m; cases n; cases h; rfl

omit [DecidableEq α] in
@[simp] theorem entries_empty : (empty : OrderedMap α β).entries = [] := rfl

@[simp] theorem get?_empty (k : α) : (empty : OrderedMap α β).get? k = none := rfl

theorem get?_eq_some_iff (m : OrderedMap α β) (k : α) (v : β) :
    m.get? k = some v ↔ (k, v) ∈ m.entries :=
  ⟨mem_of_lookupEntry, lookupEntry_of_mem m.nodup_keys⟩

theorem get?_eq_none_iff (m : OrderedMap α β) (k : α) : m.get? k = none ↔ k ∉ m.keys :=
  lookupEntry_eq_none_iff k m.entries

theorem mem_keys_of_get? {m : OrderedMap α β} {k : α} {v : β} (h : m.get? k = some v) :
    k ∈ m.keys :=
  List.mem_map.2 ⟨(k, v), (m.get?_eq_some_iff k v).1 h, rfl⟩

theorem get?_insert (m : OrderedMap α β) (k k' : α) (v : β) :
    (m.insert k v).get? k' = if k = k' then some v else m.get? k' :=
  lookupEntry_insertEntry k k' v m.entries

theorem keys_insert (m : OrderedMap α β) (k : α) (v : β) :
    (m.insert k v).keys = if k ∈ m.keys then m.keys else m.keys ++ [k] :=
  keys_insertEntry k v m.entries

/-- An entry with a new key comes last. -/
theorem entries_insert_of_get? {m : OrderedMap α β} {k : α} (h : m.get? k = none) (v : β) :
    (m.insert k v).entries = m.entries ++ [(k, v)] :=
  insertEntry_eq_append v ((m.get?_eq_none_iff k).1 h)

theorem get?_modify (m : OrderedMap α β) (k k' : α) (f : β → β) :
    (m.modify k f).get? k' = if k = k' then (m.get? k').map f else m.get? k' := by
  unfold get? modify
  simp only
  induction m.entries with
  | nil => simp
  | cons e es ih =>
    by_cases h : e.1 = k
    · by_cases hk : k = k'
      · simp [h, hk]
      · have he : ¬ e.1 = k' := fun he => hk (h ▸ he)
        simp only [List.map_cons, if_pos h, lookupEntry_cons, if_neg he, ih, if_neg hk]
    · by_cases hk : k = k'
      · have he : ¬ e.1 = k' := hk ▸ h
        simp only [List.map_cons, if_neg h, lookupEntry_cons, if_neg he, ih]
      · simp only [List.map_cons, if_neg h, lookupEntry_cons, ih, if_neg hk]

theorem keys_modify (m : OrderedMap α β) (k : α) (f : β → β) : (m.modify k f).keys = m.keys := by
  unfold keys modify
  rw [List.map_map]
  refine List.map_congr_left fun e _ => ?_
  simp only [Function.comp]
  split <;> rfl

theorem get?_mapValues {γ : Type w} (f : β → γ) (m : OrderedMap α β) (k : α) :
    (m.mapValues f).get? k = (m.get? k).map f :=
  lookupEntry_map f k m.entries

theorem mapValues_insert {γ : Type w} (f : β → γ) (m : OrderedMap α β) (k : α) (v : β) :
    (m.insert k v).mapValues f = (m.mapValues f).insert k (f v) :=
  ext (insertEntry_map f k v m.entries)

theorem get?_erase (m : OrderedMap α β) (k k' : α) :
    (m.erase k).get? k' = if k = k' then none else m.get? k' :=
  lookupEntry_filter_ne k k' m.entries

/-- Pairs with different keys are the entries of the map that is made of them. -/
theorem entries_ofList {es : List (α × β)} (h : (es.map Prod.fst).Nodup) :
    (ofList es).entries = es := by
  have hfold : ∀ (es : List (α × β)) (m : OrderedMap α β),
      (m.entries.map Prod.fst ++ es.map Prod.fst).Nodup →
      (es.foldl (fun m e => m.insert e.1 e.2) m).entries = m.entries ++ es := by
    intro es
    induction es with
    | nil => intro m _; simp
    | cons e es ih =>
      intro m hn
      have hk : e.1 ∉ m.entries.map Prod.fst := fun hk =>
        (List.nodup_append.1 hn).2.2 _ hk _ List.mem_cons_self rfl
      have hm : (m.insert e.1 e.2).entries = m.entries ++ [e] := insertEntry_eq_append e.2 hk
      rw [List.foldl_cons, ih _ (by simpa [hm] using hn), hm, List.append_assoc]
      rfl
  simpa [ofList] using hfold es empty (by simpa using h)

theorem get?_ofList_of_mem {es : List (α × β)} (h : (es.map Prod.fst).Nodup) {k : α} {v : β}
    (hm : (k, v) ∈ es) : (ofList es).get? k = some v := by
  rw [get?_eq_some_iff, entries_ofList h]
  exact hm

theorem get?_swapErase (m : OrderedMap α β) (k k' : α) :
    (m.swapErase k).get? k' = if k = k' then none else m.get? k' := by
  have hp := swapEraseEntry_perm k m.nodup_keys
  exact (lookupEntry_perm (m.swapErase k).nodup_keys hp k').trans (get?_erase m k k')

theorem swapErase_of_not_mem {m : OrderedMap α β} {k : α} (h : k ∉ m.keys) : m.swapErase k = m :=
  ext (swapEraseEntry_of_not_mem h)

theorem keys_swapErase_last {m : OrderedMap α β} {k : α} {keys : List α}
    (h : m.keys = keys ++ [k]) : (m.swapErase k).keys = keys :=
  keys_swapEraseEntry_last h

theorem keys_swapErase_moved {m : OrderedMap α β} {k last : α} {before mid : List α}
    (h : m.keys = before ++ k :: (mid ++ [last])) : (m.swapErase k).keys = before ++ last :: mid :=
  keys_swapEraseEntry_moved m.nodup_keys h

end OrderedMap

end NameScope
