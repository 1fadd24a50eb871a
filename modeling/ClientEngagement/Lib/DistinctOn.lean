import ClientEngagement.Lib.Dict
import ClientEngagement.Lib.KeyOrder

/-!
# The newest row of each key

`SELECT DISTINCT ON (key) … ORDER BY key, id DESC`: the rows of a table with the greatest id of their key, in
the order of the keys. What a query finds under a key is the key's newest row (`find?_distinctOn`,
`get?_ofList_distinctOn`).
-/

namespace ClientEngagement

variable {ρ κ ω : Type*} [DecidableEq κ] [LinearOrder ω]

/-- The row of a key with the greatest id. -/
def newestOf (key : ρ → κ) (id : ρ → ℤ) (rows : List ρ) (k : κ) : Option ρ :=
  minBy (fun row => -id row) (rows.filter fun row => key row = k)

/-- The newest row of each key, by key. -/
def distinctOn (key : ρ → κ) (id : ρ → ℤ) (order : κ → ω) (rows : List ρ) : List ρ :=
  (sortBy order (rows.map key).dedup).filterMap (newestOf key id rows)

variable {key : ρ → κ} {id : ρ → ℤ} {order : κ → ω} {rows : List ρ} {row : ρ} {k : κ}

lemma newestOf_some (h : newestOf key id rows k = some row) :
    row ∈ rows ∧ key row = k ∧ ∀ other ∈ rows, key other = k → id other ≤ id row := by
  have mem := minBy_mem h
  rw [List.mem_filter, decide_eq_true_eq] at mem
  refine ⟨mem.1, mem.2, fun other listed same => ?_⟩
  have le := minBy_le h (List.mem_filter.mpr ⟨listed, decide_eq_true same⟩)
  exact neg_le_neg_iff.mp le

lemma newestOf_eq_none : newestOf key id rows k = none ↔ ∀ row ∈ rows, key row ≠ k := by
  rw [newestOf, minBy_eq_none, List.filter_eq_nil_iff]
  simp only [decide_eq_true_eq, ne_eq]

/-- Where keys have one row, it is the newest. -/
lemma newestOf_eq_find? (nodup : (rows.map key).Nodup) : newestOf key id rows k = rows.find? (key · = k) := by
  cases newest : newestOf key id rows k with
  | none =>
    symm
    rw [List.find?_eq_none]
    intro row mem same
    exact newestOf_eq_none.mp newest row mem (of_decide_eq_true same)
  | some row =>
    obtain ⟨listed, isKey, -⟩ := newestOf_some newest
    cases found : rows.find? (key · = k) with
    | none => exact absurd (decide_eq_true isKey) (List.find?_eq_none.mp found row listed)
    | some other =>
      have same := List.find?_some found
      rw [decide_eq_true_eq] at same
      rw [List.inj_on_of_nodup_map nodup listed (List.mem_of_find?_eq_some found) (isKey.trans same.symm)]

lemma find?_filterMap_of_key {f : κ → Option ρ} {keys : List κ} (own : ∀ k row, f k = some row → key row = k) :
    (keys.filterMap f).find? (key · = k) = if k ∈ keys then f k else none := by
  induction keys with
  | nil => rfl
  | cons head keys ih =>
    cases found : f head with
    | none =>
      rw [List.filterMap_cons_none found, ih]
      cases eq_or_ne k head with
      | inl same =>
        subst same
        simp [found]
      | inr ne => simp [ne]
    | some row =>
      rw [List.filterMap_cons_some found, List.find?_cons]
      cases eq_or_ne k head with
      | inl same =>
        subst same
        simp [own _ _ found, found]
      | inr ne => simp [own _ _ found, ne, ne.symm, ih]

/-- The row picked for a key is its newest. -/
theorem find?_distinctOn : (distinctOn key id order rows).find? (key · = k) = newestOf key id rows k := by
  rw [distinctOn, find?_filterMap_of_key fun _ _ h => (newestOf_some h).2.1]
  split
  · rfl
  · rename_i absent
    symm
    rw [newestOf_eq_none]
    intro row mem same
    apply absent
    rw [mem_sortBy, List.mem_dedup]
    exact same ▸ List.mem_map_of_mem mem

/-- One row a key. -/
lemma nodup_distinctOn : ((distinctOn key id order rows).map key).Nodup := by
  have nodup : (sortBy order (rows.map key).dedup).Nodup :=
    ((sortBy_perm _ _).nodup_iff).mpr (List.nodup_dedup _)
  rw [distinctOn, List.map_filterMap]
  refine nodup.filterMap fun k k' k'' h h' => ?_
  simp only [Option.mem_def, Option.map_eq_some_iff] at h h'
  obtain ⟨row, found, same⟩ := h
  obtain ⟨row', found', same'⟩ := h'
  rw [← (newestOf_some found).2.1, ← (newestOf_some found').2.1, same, same']

/-- Rows of distinct keys read into a dictionary. -/
lemma get?_ofList_of_key {α : Type*} {f : ρ → α} (nodup : (rows.map key).Nodup) :
    (Dict.ofList (rows.map fun row => (key row, f row))).get? k = (rows.find? (key · = k)).map f := by
  have items : (Dict.ofList (rows.map fun row => (key row, f row))).items =
      rows.map fun row => (key row, f row) := by
    apply Dict.items_ofList
    rwa [List.map_map]
  rw [Dict.get?, items]
  clear items nodup
  induction rows with
  | nil => rfl
  | cons row rows ih =>
    rw [List.map_cons, Dict.lookup_cons_ite, ih, List.find?_cons]
    cases eq_or_ne k (key row) with
    | inl same => simp [same]
    | inr ne => simp [ne, ne.symm]

theorem get?_ofList_distinctOn {α : Type*} {f : ρ → α} :
    (Dict.ofList ((distinctOn key id order rows).map fun row => (key row, f row))).get? k =
      (newestOf key id rows k).map f := by
  rw [get?_ofList_of_key nodup_distinctOn, find?_distinctOn]

end ClientEngagement
