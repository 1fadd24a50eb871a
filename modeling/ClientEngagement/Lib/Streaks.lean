import Mathlib

/-!
# Streaks

A record of dated values, oldest first, and the streak it ends in. Whoever keeps only the last value with a
date, and moves the date only when the value changes, has the date at which that streak began
(`kept_eq`).
-/

namespace ClientEngagement

variable {δ β : Type*} {record : List (δ × β)} {date : δ} {value : β}

def lastValue (record : List (δ × β)) : Option β := record.getLast?.map Prod.snd

@[simp] lemma lastValue_concat : lastValue (record ++ [(date, value)]) = some value := by
  rw [lastValue, List.getLast?_concat]
  rfl

variable [DecidableEq β]

/-- The entries at the end of a record that have its last value. -/
def lastStreak (record : List (δ × β)) : List (δ × β) :=
  record.rtakeWhile fun entry => lastValue record = some entry.2

/-- The date the last streak began. -/
def streakStart (record : List (δ × β)) : Option δ := (lastStreak record).head?.map Prod.fst

/-- What is kept of a record: its last value, and a date that only moves when the value changes. -/
def keep (kept : Option (β × δ)) (entry : δ × β) : β × δ :=
  match kept with
  | none => (entry.2, entry.1)
  | some (value, since) => (entry.2, if value ≠ entry.2 then entry.1 else since)

/-- What is kept after the whole record. -/
def kept (record : List (δ × β)) : Option (β × δ) :=
  record.foldl (fun kept entry => some (keep kept entry)) none

lemma kept_concat (entry : δ × β) : kept (record ++ [entry]) = some (keep (kept record) entry) := by
  rw [kept, List.foldl_concat]
  rfl

lemma lastStreak_concat : lastStreak (record ++ [(date, value)]) =
    if lastValue record = some value then lastStreak record ++ [(date, value)] else [(date, value)] := by
  rw [lastStreak, lastValue_concat, List.rtakeWhile_concat_pos _ _ _ (by simp)]
  split
  case isTrue same =>
    rw [lastStreak, same]
  case isFalse other =>
    induction record using List.reverseRecOn with
    | nil => rfl
    | append_singleton record last =>
      obtain ⟨before, old⟩ := last
      rw [lastValue_concat] at other
      rw [List.rtakeWhile_concat_neg _ _ _ (by simpa [eq_comm] using other)]
      rfl

lemma lastStreak_ne_nil (some_entry : record ≠ []) : lastStreak record ≠ [] := by
  induction record using List.reverseRecOn with
  | nil => exact absurd rfl some_entry
  | append_singleton record entry =>
    obtain ⟨date, value⟩ := entry
    rw [lastStreak_concat]
    split <;> simp

/-- A record whose last value comes again goes on with its streak. -/
theorem streakStart_concat : streakStart (record ++ [(date, value)]) =
    if lastValue record = some value then streakStart record else some date := by
  rw [streakStart, lastStreak_concat]
  split
  case isTrue same =>
    have some_entry : record ≠ [] := by
      rintro rfl
      cases same
    rw [List.head?_append_of_ne_nil _ (lastStreak_ne_nil some_entry)]
    rfl
  case isFalse => rfl

lemma streakStart_mem (start : streakStart record = some date) : ∃ value, (date, value) ∈ record := by
  obtain ⟨⟨_, value⟩, first, rfl⟩ := Option.map_eq_some_iff.mp start
  exact ⟨value, (List.rtakeWhile_suffix _ _).subset (List.mem_of_mem_head? first)⟩

lemma streakStart_eq_none : streakStart record = none ↔ record = [] := by
  constructor
  · intro none
    by_contra some_entry
    rw [streakStart, Option.map_eq_none_iff, List.head?_eq_none_iff] at none
    exact lastStreak_ne_nil some_entry none
  · rintro rfl
    rfl

/-- What is kept is the last value with the start of its streak. -/
theorem kept_eq : kept record = (lastValue record).bind fun value => (streakStart record).map fun since =>
    (value, since) := by
  induction record using List.reverseRecOn with
  | nil => rfl
  | append_singleton record entry ih =>
    obtain ⟨date, value⟩ := entry
    rw [kept_concat, ih, lastValue_concat, streakStart_concat, Option.bind_some]
    cases last : lastValue record with
    | none => rfl
    | some old =>
      cases start : streakStart record with
      | none =>
        rw [streakStart_eq_none] at start
        rw [start] at last
        cases last
      | some since =>
        by_cases same : old = value
        · subst same
          simp [keep]
        · simp [keep, same]

end ClientEngagement
