/-!
# Lists of entries

Look-up, overwriting and removal on lists of key-value pairs in which no key occurs twice.

**Results.** * `lookupEntry_insertEntry`, `keys_insertEntry`: what writing one entry changes;
* `insertEntry_eq_replaceEntry`, `insertEntry_eq_append`: where it is written;
* `swapEraseEntry_perm`: moving the last entry into the gap keeps the remaining entries;
* `keys_swapEraseEntry_last`, `keys_swapEraseEntry_moved`: where they are then;
* `lookupEntry_perm`: look-up does not depend on the order.
-/
namespace NameScope.OrderedMap

variable {α : Type u} {β : Type v} [DecidableEq α]

/-- The value of the first entry with key `k`. -/
def lookupEntry (k : α) : List (α × β) → Option β
  | [] => none
  | e :: es => if e.1 = k then some e.2 else lookupEntry k es

/-- Overwrites the entry of `k` where it stands, or appends one. -/
def insertEntry (k : α) (v : β) : List (α × β) → List (α × β)
  | [] => [(k, v)]
  | e :: es => if e.1 = k then (k, v) :: es else e :: insertEntry k v es

/-- Puts the entry `z` where the key `k` stood. -/
def replaceEntry (k : α) (z : α × β) (es : List (α × β)) : List (α × β) :=
  es.map fun e => if e.1 = k then z else e

/-- Drops the last entry, or moves it to the place of the entry of `k`. -/
def swapEraseEntry (k : α) (es : List (α × β)) : List (α × β) :=
  if k ∈ es.map Prod.fst then
    match es.getLast? with
    | none => []
    | some z => if z.1 = k then es.dropLast else replaceEntry k z es.dropLast
  else es

@[simp] theorem lookupEntry_nil (k : α) : lookupEntry k ([] : List (α × β)) = none := rfl

@[simp] theorem lookupEntry_cons (k : α) (e : α × β) (es : List (α × β)) :
    lookupEntry k (e :: es) = if e.1 = k then some e.2 else lookupEntry k es := rfl

theorem lookupEntry_eq_none_iff (k : α) (es : List (α × β)) :
    lookupEntry k es = none ↔ k ∉ es.map Prod.fst := by
  induction es with
  | nil => simp
  | cons e es ih =>
    by_cases h : e.1 = k
    · simp [h]
    · simp only [lookupEntry_cons, if_neg h, ih, List.map_cons, List.mem_cons, not_or]
      exact ⟨fun hk => ⟨fun he => h he.symm, hk⟩, fun hk => hk.2⟩

theorem mem_of_lookupEntry {k : α} {v : β} {es : List (α × β)} (h : lookupEntry k es = some v) :
    (k, v) ∈ es := by
  induction es with
  | nil => simp at h
  | cons e es ih =>
    by_cases he : e.1 = k
    · simp only [lookupEntry_cons, if_pos he, Option.some.injEq] at h
      subst he h
      exact List.mem_cons_self
    · simp only [lookupEntry_cons, if_neg he] at h
      exact List.mem_cons_of_mem _ (ih h)

theorem lookupEntry_of_mem {k : α} {v : β} {es : List (α × β)} (hn : (es.map Prod.fst).Nodup)
    (h : (k, v) ∈ es) : lookupEntry k es = some v := by
  induction es with
  | nil => simp at h
  | cons e es ih =>
    simp only [List.map_cons, List.nodup_cons] at hn
    rcases List.mem_cons.1 h with h | h
    · simp [← h]
    · have hk : e.1 ≠ k := fun he => hn.1 (he ▸ List.mem_map.2 ⟨(k, v), h, rfl⟩)
      simp [hk, ih hn.2 h]

theorem lookupEntry_perm {es fs : List (α × β)} (hn : (es.map Prod.fst).Nodup)
    (hp : List.Perm es fs) (k : α) : lookupEntry k es = lookupEntry k fs := by
  have hn' : (fs.map Prod.fst).Nodup := (hp.map Prod.fst).nodup_iff.1 hn
  cases h : lookupEntry k fs with
  | none =>
    rw [lookupEntry_eq_none_iff] at h ⊢
    exact fun hk => h ((hp.map Prod.fst).mem_iff.1 hk)
  | some v => exact lookupEntry_of_mem hn (hp.mem_iff.2 (mem_of_lookupEntry h))

theorem keys_insertEntry (k : α) (v : β) (es : List (α × β)) :
    (insertEntry k v es).map Prod.fst =
      if k ∈ es.map Prod.fst then es.map Prod.fst else es.map Prod.fst ++ [k] := by
  induction es with
  | nil => simp [insertEntry]
  | cons e es ih =>
    by_cases h : e.1 = k
    · simp [insertEntry, h]
    · have h' : k ≠ e.1 := fun hk => h hk.symm
      simp only [insertEntry, if_neg h, List.map_cons, ih, List.mem_cons, h', false_or]
      split <;> simp

theorem lookupEntry_insertEntry (k k' : α) (v : β) (es : List (α × β)) :
    lookupEntry k' (insertEntry k v es) = if k = k' then some v else lookupEntry k' es := by
  induction es with
  | nil => simp [insertEntry]
  | cons e es ih =>
    by_cases h : e.1 = k
    · by_cases hk : k = k'
      · simp [insertEntry, h, hk]
      · simp [insertEntry, h, hk]
    · by_cases hk : k = k'
      · subst hk
        simp [insertEntry, h, ih]
      · simp [insertEntry, h, hk, ih]

theorem nodup_insertEntry (k : α) (v : β) {es : List (α × β)} (hn : (es.map Prod.fst).Nodup) :
    ((insertEntry k v es).map Prod.fst).Nodup := by
  rw [keys_insertEntry]
  split
  · exact hn
  · rename_i hk
    refine List.nodup_append.2 ⟨hn, by simp, ?_⟩
    intro a ha b hb
    simp only [List.mem_singleton] at hb
    exact fun hab => hk (hb ▸ hab ▸ ha)

theorem replaceEntry_of_not_mem {k : α} (z : α × β) {es : List (α × β)}
    (hk : k ∉ es.map Prod.fst) : replaceEntry k z es = es := by
  refine (List.map_congr_left fun e he => ?_).trans (List.map_id es)
  have : e.1 ≠ k := fun h => hk (List.mem_map.2 ⟨e, he, h⟩)
  simp [this]

theorem replaceEntry_perm {k : α} (z : α × β) {es : List (α × β)} (hn : (es.map Prod.fst).Nodup)
    (hk : k ∈ es.map Prod.fst) :
    List.Perm (replaceEntry k z es) (z :: es.filter fun e => e.1 ≠ k) := by
  induction es with
  | nil => simp at hk
  | cons e es ih =>
    simp only [List.map_cons, List.nodup_cons] at hn
    by_cases h : e.1 = k
    · have hk' : k ∉ es.map Prod.fst := h ▸ hn.1
      have hf : es.filter (fun e => e.1 ≠ k) = es := by
        refine List.filter_eq_self.2 fun f hf => ?_
        have : f.1 ≠ k := fun he => hk' (List.mem_map.2 ⟨f, hf, he⟩)
        simp [this]
      have hr := replaceEntry_of_not_mem z hk'
      unfold replaceEntry at hr
      unfold replaceEntry
      rw [List.map_cons, hr, if_pos h, List.filter_cons_of_neg (by simp [h]), hf]
    · have hk' : k ∈ es.map Prod.fst := by
        rcases List.mem_cons.1 hk with he | he
        · exact absurd he.symm h
        · exact he
      have hr := ih hn.2 hk'
      unfold replaceEntry at hr
      unfold replaceEntry
      rw [List.map_cons, if_neg h, List.filter_cons_of_pos (by simp [h])]
      exact (hr.cons e).trans (List.Perm.swap z e _)

/-- Overwriting an entry is replacing it where its key stands. -/
theorem insertEntry_eq_replaceEntry {k : α} (v : β) {es : List (α × β)}
    (hn : (es.map Prod.fst).Nodup) (hk : k ∈ es.map Prod.fst) :
    insertEntry k v es = replaceEntry k (k, v) es := by
  induction es with
  | nil => simp at hk
  | cons e es ih =>
    simp only [List.map_cons, List.nodup_cons] at hn
    by_cases he : e.1 = k
    · have hrest := replaceEntry_of_not_mem (k, v) (he ▸ hn.1)
      unfold replaceEntry at hrest ⊢
      rw [insertEntry, if_pos he, List.map_cons, if_pos he, hrest]
    · have hk' : k ∈ es.map Prod.fst := (List.mem_cons.1 hk).resolve_left fun h => he h.symm
      have hrest := ih hn.2 hk'
      unfold replaceEntry at hrest ⊢
      rw [insertEntry, if_neg he, List.map_cons, if_neg he, hrest]

theorem insertEntry_eq_append {k : α} (v : β) {es : List (α × β)} (hk : k ∉ es.map Prod.fst) :
    insertEntry k v es = es ++ [(k, v)] := by
  induction es with
  | nil => rfl
  | cons e es ih =>
    simp only [List.map_cons, List.mem_cons, not_or] at hk
    rw [insertEntry, if_neg fun h => hk.1 h.symm, ih hk.2, List.cons_append]

theorem swapEraseEntry_perm (k : α) {es : List (α × β)} (hn : (es.map Prod.fst).Nodup) :
    List.Perm (swapEraseEntry k es) (es.filter fun e => e.1 ≠ k) := by
  unfold swapEraseEntry
  split
  · rename_i hk
    split
    · rename_i hl
      rw [List.getLast?_eq_none_iff.1 hl]
      exact List.Perm.nil
    · rename_i z hl
      have he : es = es.dropLast ++ [z] := by
        obtain ⟨ys, rfl⟩ := List.getLast?_eq_some_iff.1 hl
        rw [List.dropLast_concat]
      have hn' := hn
      rw [he, List.map_append, List.map_singleton] at hn'
      obtain ⟨hn₁, -, hz⟩ := List.nodup_append.1 hn'
      have hzl : ∀ f ∈ es.dropLast, f.1 ≠ z.1 := fun f hf =>
        hz f.1 (List.mem_map.2 ⟨f, hf, rfl⟩) z.1 (List.mem_singleton.2 rfl)
      split
      · rename_i hzk
        have hf : es.filter (fun e => e.1 ≠ k) = es.dropLast := by
          rw [he, List.filter_append, List.filter_cons_of_neg (by simp [hzk]), List.filter_nil,
            List.append_nil, List.dropLast_concat]
          exact List.filter_eq_self.2 fun f hf => by simpa using hzk ▸ hzl f hf
        rw [hf]
      · rename_i hzk
        have hk' : k ∈ es.dropLast.map Prod.fst := by
          rw [he, List.map_append, List.map_singleton] at hk
          rcases List.mem_append.1 hk with h | h
          · exact h
          · exact absurd (List.mem_singleton.1 h).symm hzk
        have hf : es.filter (fun e => e.1 ≠ k) = es.dropLast.filter (fun e => e.1 ≠ k) ++ [z] := by
          conv => lhs; rw [he]
          rw [List.filter_append, List.filter_cons_of_pos (by simp [hzk]), List.filter_nil]
        rw [hf]
        exact (replaceEntry_perm z hn₁ hk').trans (List.perm_append_singleton z _).symm
  · rename_i hk
    have hf : es.filter (fun e => e.1 ≠ k) = es := by
      refine List.filter_eq_self.2 fun f hf => ?_
      have : f.1 ≠ k := fun he => hk (List.mem_map.2 ⟨f, hf, he⟩)
      simp [this]
    rw [hf]

theorem swapEraseEntry_of_not_mem {k : α} {es : List (α × β)} (h : k ∉ es.map Prod.fst) :
    swapEraseEntry k es = es := if_neg h

/-- Without the last entry nothing moves. -/
theorem keys_swapEraseEntry_last {k : α} {keys : List α} {es : List (α × β)}
    (h : es.map Prod.fst = keys ++ [k]) : (swapEraseEntry k es).map Prod.fst = keys := by
  obtain ⟨es, zs, rfl, rfl, hz⟩ := List.map_eq_append_iff.1 h
  obtain ⟨z, rfl, rfl⟩ := List.map_eq_singleton_iff.1 hz
  simp [swapEraseEntry]

/-- The last key comes where `k` was. -/
theorem keys_swapEraseEntry_moved {k last : α} {before mid : List α} {es : List (α × β)}
    (hn : (es.map Prod.fst).Nodup) (h : es.map Prod.fst = before ++ k :: (mid ++ [last])) :
    (swapEraseEntry k es).map Prod.fst = before ++ last :: mid := by
  rw [h] at hn
  have hk : k ∈ es.map Prod.fst := h ▸ List.mem_append_right before List.mem_cons_self
  rw [← List.cons_append, ← List.append_assoc] at h
  obtain ⟨es, zs, rfl, hkeys, hz⟩ := List.map_eq_append_iff.1 h
  obtain ⟨z, rfl, rfl⟩ := List.map_eq_singleton_iff.1 hz
  simp only [List.nodup_append, List.nodup_cons, List.mem_append, List.mem_cons, not_or] at hn
  obtain ⟨-, ⟨⟨hmid, hlast, -⟩, -⟩, hbefore⟩ := hn
  have hreplaced : (replaceEntry k z es).map Prod.fst =
      (es.map Prod.fst).map fun a => if a = k then z.1 else a := by
    unfold replaceEntry
    rw [List.map_map, List.map_map]
    refine List.map_congr_left fun e _ => ?_
    simp only [Function.comp]
    split <;> rfl
  have hsame : ∀ keys : List α, k ∉ keys → (keys.map fun a => if a = k then z.1 else a) = keys := by
    intro keys hkeys
    refine (List.map_congr_left fun a ha => if_neg ?_).trans (List.map_id keys)
    rintro rfl
    exact hkeys ha
  unfold swapEraseEntry
  rw [if_pos hk, List.getLast?_concat]
  simp only
  rw [if_neg fun he : z.1 = k => hlast he.symm, List.dropLast_concat, hreplaced, hkeys, List.map_append,
    List.map_cons, if_pos rfl, hsame before fun h => hbefore k h k (.inl rfl) rfl, hsame mid hmid]

omit [DecidableEq α] in
theorem nodup_filter_keys (p : α × β → Bool) {es : List (α × β)} (hn : (es.map Prod.fst).Nodup) :
    ((es.filter p).map Prod.fst).Nodup :=
  List.Nodup.sublist (List.filter_sublist.map _) hn

theorem lookupEntry_filter_ne (k k' : α) (es : List (α × β)) :
    lookupEntry k' (es.filter fun e => e.1 ≠ k) = if k = k' then none else lookupEntry k' es := by
  induction es with
  | nil => simp
  | cons e es ih =>
    by_cases h : e.1 = k
    · rw [List.filter_cons_of_neg (by simp [h]), ih]
      by_cases hk : k = k'
      · simp [hk]
      · simp [hk, h]
    · rw [List.filter_cons_of_pos (by simp [h])]
      by_cases hk : k = k'
      · have : e.1 ≠ k' := hk ▸ h
        rw [lookupEntry_cons, if_neg this, ih, lookupEntry_cons, if_neg this]
      · rw [lookupEntry_cons, ih, lookupEntry_cons, if_neg hk, if_neg hk]

theorem lookupEntry_map {γ : Type w} (f : β → γ) (k : α) (es : List (α × β)) :
    lookupEntry k (es.map fun e => (e.1, f e.2)) = (lookupEntry k es).map f := by
  induction es with
  | nil => rfl
  | cons e es ih =>
    by_cases h : e.1 = k
    · simp [h]
    · simp only [List.map_cons, lookupEntry_cons, if_neg h, ih]

theorem insertEntry_map {γ : Type w} (f : β → γ) (k : α) (v : β) (es : List (α × β)) :
    (insertEntry k v es).map (fun e => (e.1, f e.2)) =
      insertEntry k (f v) (es.map fun e => (e.1, f e.2)) := by
  induction es with
  | nil => rfl
  | cons e es ih =>
    by_cases h : e.1 = k
    · simp [insertEntry, h]
    · simp only [insertEntry, if_neg h, List.map_cons, ih]

end NameScope.OrderedMap
