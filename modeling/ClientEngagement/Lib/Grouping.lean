import ClientEngagement.Lib.Dict

/-!
# Values gathered by key

A fold that updates the value of each entry's key in a dictionary makes the value of a key from the entries of
that key alone (`getD_foldl_modify`, `get?_gather`). Sizes of groups add up to the size of the list
(`sum_length_groups`), and leaving out whole groups leaves the others as they were (`get?_gather_filter`).
-/

namespace ClientEngagement

variable {κ ν υ : Type*} [DecidableEq κ]

lemma mem_keys_foldl_modify {key : υ → κ} {default : ν} {f : υ → ν → ν} {l : List υ} {d : Dict κ ν}
    {k : κ} : k ∈ (l.foldl (fun d u => d.modify (key u) default (f u)) d).keys ↔
      k ∈ d.keys ∨ ∃ u ∈ l, key u = k := by
  induction l generalizing d with
  | nil => simp
  | cons u l ih =>
    rw [List.foldl_cons, ih, Dict.modify, Dict.mem_keys_set]
    simp only [List.mem_cons, exists_eq_or_imp, eq_comm (a := k)]
    tauto

/-- What is made of a key's value is made by its own entries. -/
lemma getD_foldl_modify {key : υ → κ} {default : ν} {f : υ → ν → ν} {l : List υ} {d : Dict κ ν} {k : κ} :
    (l.foldl (fun d u => d.modify (key u) default (f u)) d).getD k default =
      (l.filter fun u => key u = k).foldl (fun value u => f u value) (d.getD k default) := by
  induction l generalizing d with
  | nil => rfl
  | cons u l ih =>
    rw [List.foldl_cons, ih, List.filter_cons]
    by_cases same : key u = k
    · rw [if_pos (decide_eq_true same), List.foldl_cons]
      subst same
      simp [Dict.getD, Dict.modify]
    · rw [if_neg (by simpa using same)]
      simp [Dict.getD, Dict.modify, Ne.symm same]

/-- The binding of a key, read off the items. -/
lemma filter_items (d : Dict κ ν) (k : κ) :
    d.items.filter (fun b => b.1 = k) = ((d.get? k).map fun v => (k, v)).toList := by
  obtain ⟨l, nodup⟩ := d
  rw [Dict.get?]
  induction l with
  | nil => rfl
  | cons b l ih =>
    obtain ⟨head, value⟩ := b
    rw [List.map_cons, List.nodup_cons] at nodup
    dsimp only at ih ⊢
    rw [List.filter_cons, Dict.lookup_cons_ite, ih nodup.2]
    by_cases same : k = head
    · subst same
      have absent : l.lookup k = none :=
        (Dict.get?_eq_none_iff (⟨l, nodup.2⟩ : Dict κ ν)).mpr nodup.1
      simp [absent]
    · simp [same, Ne.symm same]

/-- The values gathered from the entries of a list, each key's starting from `default`. -/
def gather (key : υ → κ) (default : ν) (f : υ → ν → ν) (l : List υ) : Dict κ ν :=
  l.foldl (fun d u => d.modify (key u) default (f u)) .empty

variable {key : υ → κ} {default : ν} {f : υ → ν → ν} {l : List υ} {k : κ}

lemma mem_keys_gather : k ∈ (gather key default f l).keys ↔ ∃ u ∈ l, key u = k := by
  rw [gather, mem_keys_foldl_modify]
  simp

/-- A key has a value exactly when some entry has the key, and its entries make the value. -/
theorem get?_gather {v : ν} :
    (gather key default f l).get? k = some v ↔
      (∃ u ∈ l, key u = k) ∧
        (l.filter fun u => key u = k).foldl (fun value u => f u value) default = v := by
  have value : (gather key default f l).getD k default =
      (l.filter fun u => key u = k).foldl (fun value u => f u value) default := getD_foldl_modify
  have keys : k ∈ (gather key default f l).keys ↔ ∃ u ∈ l, key u = k := mem_keys_gather
  rw [← keys, Dict.mem_keys_iff, ← value, Dict.getD]
  cases (gather key default f l).get? k with
  | none => simp
  | some _ => simp

/-- Where a test says the same of all entries of a key, the entries that fail it take their keys with them and
    nothing else. -/
theorem get?_gather_filter (key : υ → κ) (default : ν) (f : υ → ν → ν) {p : υ → Bool} {q : κ → Bool}
    (same : ∀ u ∈ l, p u = q (key u)) {v : ν} :
    (gather key default f (l.filter p)).get? k = some v ↔
      q k = true ∧ (gather key default f l).get? k = some v := by
  rw [get?_gather, get?_gather, List.filter_filter]
  have kept (passes : q k = true) :
      (l.filter fun u => decide (key u = k) && p u) = l.filter fun u => key u = k := by
    apply List.filter_congr
    intro u mem
    by_cases here : key u = k
    · rw [same u mem, here, passes]
      simp
    · simp [here]
  constructor
  · rintro ⟨⟨u, mem, rfl⟩, made⟩
    obtain ⟨mem, passes⟩ := List.mem_filter.mp mem
    rw [same u mem] at passes
    rw [kept passes] at made
    exact ⟨passes, ⟨u, mem, rfl⟩, made⟩
  · rintro ⟨passes, ⟨u, mem, rfl⟩, made⟩
    rw [kept passes]
    refine ⟨⟨u, List.mem_filter.mpr ⟨mem, ?_⟩, rfl⟩, made⟩
    rw [same u mem]
    exact passes

/-- The groups of a list by key, the keys being all its entries' own, have its length together. -/
theorem sum_length_groups {keys : List κ} (nodup : keys.Nodup) (all : ∀ u ∈ l, key u ∈ keys) :
    (keys.map fun k => (l.filter fun u => key u = k).length).sum = l.length := by
  induction l with
  | nil => simp
  | cons u l ih =>
    have rest := ih fun v mem => all v (.tail _ mem)
    have one : (keys.map fun k => if key u = k then 1 else 0).sum = 1 := by
      rw [← List.sum_toFinset _ nodup, Finset.sum_ite_eq, if_pos (List.mem_toFinset.mpr (all u (.head _)))]
    calc (keys.map fun k => ((u :: l).filter fun v => key v = k).length).sum
        = (keys.map fun k => (if key u = k then 1 else 0) + (l.filter fun v => key v = k).length).sum := by
          congr 1
          apply List.map_congr_left
          intro k _
          by_cases here : key u = k
          · simp [here, Nat.add_comm]
          · simp [here]
      _ = 1 + l.length := by rw [List.sum_map_add, one, rest]
      _ = (u :: l).length := by rw [List.length_cons, Nat.add_comm]

end ClientEngagement
