import Mathlib.Data.List.Nodup

/-!
# Dicts with string keys

A Python `dict` with `str` keys is the list of its items in insertion order. `setItems` is
`d[k] = v` on the items: the value of a key replaced in place, a new key added at the end.
`lookup_setItems` says what it leaves at each key, `nodup_setItems` that it keeps the keys
distinct.
-/

namespace PerfKit.Python

variable {β : Type}

/-- `d[k] = v` on the items of a dict: the value of `k` replaced in place, or `(k, v)` added at the
end. -/
def setItems : List (String × β) → String → β → List (String × β)
  | [], k, v => [(k, v)]
  | kv :: items, k, v => if kv.1 = k then (k, v) :: items else kv :: setItems items k v

theorem map_fst_setItems (items : List (String × β)) (k : String) (v : β) :
    (setItems items k v).map Prod.fst =
      if k ∈ items.map Prod.fst then items.map Prod.fst else items.map Prod.fst ++ [k] := by
  induction items with
  | nil => rfl
  | cons kv items ih =>
    by_cases hk : kv.1 = k
    · simp [setItems, hk]
    · simp only [setItems, hk, if_false, List.map_cons, ih, List.mem_cons, Ne.symm hk, false_or]
      split <;> rfl

theorem nodup_setItems {items : List (String × β)} (h : (items.map Prod.fst).Nodup)
    (k : String) (v : β) : ((setItems items k v).map Prod.fst).Nodup := by
  rw [map_fst_setItems]
  split
  · exact h
  · exact h.append (List.nodup_singleton k) (List.disjoint_singleton.2 ‹_›)

@[simp] theorem lookup_cons_ite (p : String × β) (items : List (String × β)) (k : String) :
    (p :: items).lookup k = if k = p.1 then some p.2 else items.lookup k := by
  obtain ⟨k₀, v₀⟩ := p
  by_cases h : k = k₀
  · subst h; simp
  · simp [List.lookup_cons, h, beq_eq_false_iff_ne.2 h]

theorem lookup_setItems (items : List (String × β)) (k k' : String) (v : β) :
    (setItems items k v).lookup k' = if k' = k then some v else items.lookup k' := by
  induction items with
  | nil => simp [setItems]
  | cons kv items ih =>
    by_cases hk : kv.1 = k
    · by_cases hk' : k' = k <;> simp [setItems, hk, hk']
    · by_cases hk' : k' = k
      · subst hk'
        simp [setItems, hk, ih, Ne.symm hk]
      · simp [setItems, hk, hk', ih]

/-- The items of a dict with distinct keys are found in either order. -/
theorem lookup_reverse_of_nodup {items : List (String × β)}
    (h : (items.map Prod.fst).Nodup) (k : String) : items.reverse.lookup k = items.lookup k := by
  induction items with
  | nil => rfl
  | cons kv items ih =>
    rw [List.map_cons, List.nodup_cons] at h
    rw [List.reverse_cons, List.lookup_append, ih h.2, lookup_cons_ite]
    by_cases hk : k = kv.1
    · subst hk
      have : items.lookup kv.1 = none := List.lookup_eq_none_iff.2 fun p hp =>
        bne_iff_ne.2 fun e => h.1 (List.mem_map.2 ⟨p, hp, e.symm⟩)
      simp [this]
    · simp [hk]

theorem lookup_eq_none_iff_not_mem (items : List (String × β)) (k : String) :
    items.lookup k = none ↔ k ∉ items.map Prod.fst := by
  simp only [List.lookup_eq_none_iff, bne_iff_ne, List.mem_map, not_exists, not_and]
  exact ⟨fun h p hp e => h p hp e.symm, fun h p hp e => h p hp e.symm⟩

end PerfKit.Python
