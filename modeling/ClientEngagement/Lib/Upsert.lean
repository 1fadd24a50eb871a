import ClientEngagement.Lib.Dict

/-!
# Upserts

A table as a dictionary, and rows that are inserted or merged into the row that has their key (`upsert`).
Rows with distinct keys may be written in one go or slice by slice (`foldl_upsert_slices`); tables that agree
up to a relation on rows stay so (`upsert_related`), and to write the same rows again changes nothing up to a
relation that one row written twice is in (`upsert_again`).
-/

namespace ClientEngagement

/-- The slices of at most `size` elements, as `range(0, len(rows), size)` takes them. -/
def slices {α : Type*} (size : ℕ) (rows : List α) : List (List α) :=
  (List.range ((rows.length + size - 1) / size)).map fun i => (rows.drop (i * size)).take size

lemma flatten_slices {α : Type*} {size : ℕ} (pos : 0 < size) (rows : List α) :
    (slices size rows).flatten = rows := by
  have upTo : ∀ n, ((List.range n).map fun i => (rows.drop (i * size)).take size).flatten =
      rows.take (n * size) := by
    intro n
    induction n with
    | zero => simp
    | succ n ih =>
      rw [List.range_succ, List.map_append, List.flatten_append, ih, List.map_singleton,
        List.flatten_singleton, Nat.succ_mul, List.take_add]
  rw [slices, upTo, List.take_of_length_le]
  have enough := Nat.lt_div_mul_add pos (a := rows.length + size - 1)
  omega

namespace Dict

variable {κ ρ ε : Type*}

/-- How a row is written: what is inserted of it, and what it makes of the row that has its key. -/
structure Writes (ρ ε : Type*) where
  insert : ε → ρ
  merge : ρ → ε → ρ

def Writes.apply (writes : Writes ρ ε) (old : Option ρ) (row : ε) : ρ :=
  old.elim (writes.insert row) fun stored => writes.merge stored row

/-- Rows are related in both tables or absent from both. -/
def Related [DecidableEq κ] (rel : ρ → ρ → Prop) (table table' : Dict κ ρ) : Prop :=
  ∀ k, Option.Rel rel (table.get? k) (table'.get? k)

variable [DecidableEq κ]

/-- Writes the rows one after the other. -/
def upsert (writes : Writes ρ ε) (table : Dict κ ρ) (rows : List (κ × ε)) : Dict κ ρ :=
  rows.foldl (fun table row => table.set row.1 (writes.apply (table.get? row.1) row.2)) table

variable {writes writes' : Writes ρ ε} {table table' : Dict κ ρ} {rows : List (κ × ε)} {k : κ}
  {rel : ρ → ρ → Prop}

lemma upsert_cons (row : κ × ε) : upsert writes table (row :: rows) =
    upsert writes (table.set row.1 (writes.apply (table.get? row.1) row.2)) rows := rfl

lemma foldl_upsert (parts : List (List (κ × ε))) :
    parts.foldl (upsert writes) table = upsert writes table parts.flatten := by
  induction parts generalizing table with
  | nil => rfl
  | cons part parts ih =>
    rw [List.foldl_cons, ih, List.flatten_cons, upsert, upsert, upsert, List.foldl_append]

/-- Slice by slice is all at once. -/
lemma foldl_upsert_slices {size : ℕ} (pos : 0 < size) :
    (slices size rows).foldl (upsert writes) table = upsert writes table rows := by
  rw [foldl_upsert, flatten_slices pos]

/-- A key that no row has keeps its row. -/
lemma get?_upsert_of_not_mem (absent : k ∉ rows.map Prod.fst) :
    (upsert writes table rows).get? k = table.get? k := by
  induction rows generalizing table with
  | nil => rfl
  | cons row rows ih =>
    rw [List.map_cons, List.mem_cons, not_or] at absent
    rw [upsert_cons, ih absent.2, get?_set_ne _ _ absent.1]

/-- A row is written over what its key had. -/
lemma get?_upsert_of_mem (nodup : (rows.map Prod.fst).Nodup) {row : ε} (mem : (k, row) ∈ rows) :
    (upsert writes table rows).get? k = some (writes.apply (table.get? k) row) := by
  induction rows generalizing table with
  | nil => cases mem
  | cons head rows ih =>
    rw [List.map_cons, List.nodup_cons] at nodup
    rw [upsert_cons]
    cases List.mem_cons.mp mem with
    | inl first =>
      subst first
      rw [get?_upsert_of_not_mem nodup.1, get?_set_self]
    | inr later =>
      have other : k ≠ head.1 := by
        intro same
        exact nodup.1 (same ▸ List.mem_map_of_mem later)
      rw [ih nodup.2 later, get?_set_ne _ _ other]

lemma Related.refl (h : ∀ r, rel r r) (table : Dict κ ρ) : table.Related rel table := by
  intro k
  cases table.get? k with
  | none => exact .none
  | some r => exact .some (h r)

lemma Related.mono {rel' : ρ → ρ → Prop} (weaker : ∀ r r', rel r r' → rel' r r')
    (h : table.Related rel table') : table.Related rel' table' := by
  intro k
  have here := h k
  generalize table.get? k = old at here
  generalize table'.get? k = old' at here
  cases here with
  | none => exact .none
  | some both => exact .some (weaker _ _ both)

lemma Related.set (h : table.Related rel table') {key : κ} {r r' : ρ} (both : rel r r') :
    (table.set key r).Related rel (table'.set key r') := by
  intro k
  rw [get?_set, get?_set]
  split
  · exact .some both
  · exact h k

/-- Related tables stay so under writes that make related rows. -/
lemma upsert_related (h : table.Related rel table')
    (insert : ∀ row ∈ rows, rel (writes.insert row.2) (writes'.insert row.2))
    (merge : ∀ row ∈ rows, ∀ r r', rel r r' → rel (writes.merge r row.2) (writes'.merge r' row.2)) :
    (upsert writes table rows).Related rel (upsert writes' table' rows) := by
  induction rows generalizing table table' with
  | nil => exact h
  | cons row rows ih =>
    rw [upsert_cons, upsert_cons]
    refine ih (h.set ?_) (fun r mem => insert r (List.mem_cons_of_mem _ mem))
      fun r mem => merge r (List.mem_cons_of_mem _ mem)
    have here := h row.1
    generalize table.get? row.1 = old at here
    generalize table'.get? row.1 = old' at here
    cases here with
    | none => exact insert row (List.mem_cons_self ..)
    | some both => exact merge row (List.mem_cons_self ..) _ _ both

/-- To write the same rows again changes nothing up to what one row written twice does. -/
lemma upsert_again (refl : ∀ r, rel r r) (nodup : (rows.map Prod.fst).Nodup)
    (twice : ∀ row ∈ rows, ∀ old,
      rel (writes'.merge (writes.apply old row.2) row.2) (writes.apply old row.2)) :
    (upsert writes' (upsert writes table rows) rows).Related rel (upsert writes table rows) := by
  intro k
  by_cases listed : k ∈ rows.map Prod.fst
  · obtain ⟨row, mem, same⟩ := List.mem_map.mp listed
    subst same
    rw [get?_upsert_of_mem nodup mem, get?_upsert_of_mem nodup mem]
    exact .some (twice row mem _)
  · rw [get?_upsert_of_not_mem listed]
    exact Related.refl refl _ k

end Dict

end ClientEngagement
