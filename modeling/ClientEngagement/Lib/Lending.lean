import Mathlib

/-!
# Lending overflow to whoever has room

Holders with a capacity carry a number of items each. Items over capacity are taken one by one, in a
fixed order, and moved to another holder that has room, chosen by an arbitrary policy `pick`; an item
that finds no room is refused. `Owed` is the loop invariant: a holder that still owes items is full
capacity by at least that many, so it never gains room while it lends.

The run lemma `lendAll_spec` says what the loop computes in closed form: with `spare` places in
total, the first `spare` items are lent and the rest refused. `lendAll_lentTo` bounds what one
holder receives by the room it started with.
-/

namespace ClientEngagement.Lending

variable {α φ : Type*} [DecidableEq φ]

/-- The state of the loop: what each holder carries, what was lent to whom, what was refused. -/
structure Ledger (α φ : Type*) where
  counts : φ → ℕ
  lent : List (α × φ)
  refused : List α

variable (roster : List φ) (cap : φ → ℕ) (home : α → φ) (pick : (φ → ℕ) → List φ → Option φ)

/-- The holders other than `h` with room. -/
def withRoom (counts : φ → ℕ) (h : φ) : List φ :=
  roster.filter fun f => f ≠ h ∧ counts f < cap f

/-- The counts after one item moved from `h` to `t`. -/
def moved (counts : φ → ℕ) (h t : φ) : φ → ℕ :=
  Function.update (Function.update counts t (counts t + 1)) h
    (Function.update counts t (counts t + 1) h - 1)

/-- One turn of the loop. -/
def lend (s : Ledger α φ) (a : α) : Ledger α φ :=
  match pick s.counts (withRoom roster cap s.counts (home a)) with
  | none => { s with refused := s.refused ++ [a] }
  | some t =>
    { counts := moved s.counts (home a) t, lent := s.lent ++ [(a, t)], refused := s.refused }

/-- The whole loop. -/
def lendAll (s : Ledger α φ) (xs : List α) : Ledger α φ :=
  xs.foldl (lend roster cap home pick) s

/-- A policy that picks one of the holders it is offered, whenever it is offered one. -/
structure Picks (pick : (φ → ℕ) → List φ → Option φ) : Prop where
  mem : ∀ {counts l t}, pick counts l = some t → t ∈ l
  some_of_ne_nil : ∀ counts {l}, l ≠ [] → ∃ t, pick counts l = some t

/-- How many of the items a holder still owes. -/
def owed (xs : List α) (h : φ) : ℕ := xs.countP fun a => home a = h

/-- The loop invariant: a holder that still owes items is over capacity by at least that many. -/
def Owed (counts : φ → ℕ) (xs : List α) : Prop :=
  ∀ a ∈ xs, cap (home a) + owed home xs (home a) ≤ counts (home a)

/-- The free places in total. -/
def spare (counts : φ → ℕ) : ℕ := (roster.map fun f => cap f - counts f).sum

/-- How many items a holder was lent. -/
def lentTo (s : Ledger α φ) (f : φ) : ℕ := s.lent.countP fun p => p.2 = f

variable {roster cap home pick}

lemma mem_withRoom {counts : φ → ℕ} {h f : φ} :
    f ∈ withRoom roster cap counts h ↔ f ∈ roster ∧ f ≠ h ∧ counts f < cap f := by
  simp [withRoom]

lemma moved_target {counts : φ → ℕ} {h t : φ} (ne : t ≠ h) : moved counts h t t = counts t + 1 := by
  simp [moved, ne]

lemma moved_home {counts : φ → ℕ} {h t : φ} (ne : t ≠ h) : moved counts h t h = counts h - 1 := by
  simp [moved, ne.symm]

lemma moved_other {counts : φ → ℕ} {h t f : φ} (hh : f ≠ h) (ht : f ≠ t) :
    moved counts h t f = counts f := by
  simp [moved, hh, ht]

lemma owed_cons_self {a : α} {xs : List α} : owed home (a :: xs) (home a) = owed home xs (home a) + 1 := by
  simp [owed]

lemma owed_cons_ne {a : α} {xs : List α} {h : φ} (ne : home a ≠ h) :
    owed home (a :: xs) h = owed home xs h := by
  simp [owed, ne]

/-- Every item belongs to one holder. -/
lemma sum_owed {holders : List φ} (home : α → φ) (nd : holders.Nodup) (xs : List α)
    (hx : ∀ a ∈ xs, home a ∈ holders) : (holders.map (owed home xs)).sum = xs.length := by
  induction xs with
  | nil => simp [show owed home [] = fun _ => 0 from rfl]
  | cons a xs ih =>
    have hxs := ih fun b hb => hx b (List.mem_cons_of_mem _ hb)
    have hstep : holders.map (owed home (a :: xs)) =
        holders.map fun h => owed home xs h + if home a = h then 1 else 0 := by
      apply List.map_congr_left
      intro h _
      simp [owed, List.countP_cons]
    have hone : (holders.map fun h => if home a = h then 1 else 0).sum = 1 := by
      rw [List.sum_map_eq_nsmul_single (home a)]
      · simp [List.count_eq_one_of_mem nd (hx a (List.mem_cons_self ..))]
      · intro h ne _
        simp [Ne.symm ne]
    rw [hstep, List.sum_map_add, hxs, hone, List.length_cons]

/-- The holder of the next item is over capacity. -/
lemma Owed.head_lt {counts : φ → ℕ} {a : α} {xs : List α} (o : Owed cap home counts (a :: xs)) :
    cap (home a) < counts (home a) := by
  have h := o a (List.mem_cons_self ..)
  rw [owed_cons_self] at h
  omega

/-- Refusing the next item keeps the invariant. -/
lemma Owed.refuse {counts : φ → ℕ} {a : α} {xs : List α} (o : Owed cap home counts (a :: xs)) :
    Owed cap home counts xs := by
  intro b hb
  have h := o b (List.mem_cons_of_mem _ hb)
  by_cases e : home a = home b
  · rw [← e, owed_cons_self, e] at h
    omega
  · rwa [owed_cons_ne e] at h

/-- Lending the next item to a holder with room keeps the invariant. -/
lemma Owed.move {counts : φ → ℕ} {a : α} {xs : List α} {t : φ}
    (o : Owed cap home counts (a :: xs)) (ne : t ≠ home a) (room : counts t < cap t) :
    Owed cap home (moved counts (home a) t) xs := by
  intro b hb
  have h := o b (List.mem_cons_of_mem _ hb)
  by_cases e : home b = home a
  · rw [e, owed_cons_self] at h
    rw [e, moved_home ne]
    omega
  · have hbt : home b ≠ t := by
      rintro rfl
      omega
    rw [moved_other e hbt]
    rwa [owed_cons_ne (Ne.symm e)] at h

/-- Nobody has room exactly when no place is free. -/
lemma withRoom_eq_nil {counts : φ → ℕ} {h : φ} (full : cap h ≤ counts h) :
    withRoom roster cap counts h = [] ↔ spare roster cap counts = 0 := by
  rw [List.eq_nil_iff_forall_not_mem, spare, List.sum_eq_zero_iff]
  simp only [mem_withRoom, List.mem_map, forall_exists_index, and_imp]
  constructor
  · rintro hno _ f hf rfl
    by_contra hpos
    have hlt : counts f < cap f := by omega
    have hne : f ≠ h := by
      rintro rfl
      omega
    exact hno f ⟨hf, hne, hlt⟩
  · rintro hz f ⟨hf, hne, hlt⟩
    have := hz _ f hf rfl
    omega

/-- A loan takes one free place. -/
lemma spare_moved {counts : φ → ℕ} {h t : φ} (nd : roster.Nodup) (ht : t ∈ roster) (ne : t ≠ h)
    (room : counts t < cap t) (full : cap h < counts h) :
    spare roster cap (moved counts h t) + 1 = spare roster cap counts := by
  have hsame : ∀ f, f ≠ t → cap f - moved counts h t f = cap f - counts f := by
    intro f hf
    by_cases e : f = h
    · subst e
      rw [moved_home ne]
      omega
    · rw [moved_other e hf]
  have hrest : ((roster.erase t).map fun f => cap f - moved counts h t f) =
      (roster.erase t).map fun f => cap f - counts f :=
    List.map_congr_left fun f hf => hsame f ((nd.mem_erase_iff).mp hf).1
  have p := List.perm_cons_erase ht
  have hl := (p.map fun f => cap f - moved counts h t f).sum_eq
  have hr := (p.map fun f => cap f - counts f).sum_eq
  rw [List.map_cons, List.sum_cons, moved_target ne] at hl
  rw [List.map_cons, List.sum_cons] at hr
  rw [spare, spare, hl, hr, hrest]
  omega

/-- What one turn does: with a free place the item is lent and a place is used, without one the item
is refused. -/
lemma lend_cases (pk : Picks pick) (nd : roster.Nodup) {s : Ledger α φ} {a : α} {xs : List α}
    (o : Owed cap home s.counts (a :: xs)) :
    (spare roster cap s.counts = 0 ∧
      lend roster cap home pick s a = { s with refused := s.refused ++ [a] }) ∨
    ∃ t, t ∈ roster ∧ t ≠ home a ∧ s.counts t < cap t ∧
      spare roster cap (moved s.counts (home a) t) + 1 = spare roster cap s.counts ∧
      lend roster cap home pick s a =
        { counts := moved s.counts (home a) t, lent := s.lent ++ [(a, t)], refused := s.refused } := by
  have full := o.head_lt
  cases e : pick s.counts (withRoom roster cap s.counts (home a)) with
  | none =>
    left
    refine ⟨?_, by simp only [lend, e]⟩
    rw [← withRoom_eq_nil (h := home a) full.le]
    by_contra hne
    obtain ⟨t, ht⟩ := pk.some_of_ne_nil s.counts hne
    rw [e] at ht
    cases ht
  | some t =>
    right
    obtain ⟨hr, hne, hlt⟩ := mem_withRoom.mp (pk.mem e)
    exact ⟨t, hr, hne, hlt, spare_moved nd hr hne hlt full, by simp only [lend, e]⟩

/-- The first `spare` items are lent, the others refused, in the order they were taken. -/
theorem lendAll_spec (pk : Picks pick) (nd : roster.Nodup) (xs : List α) (s : Ledger α φ)
    (o : Owed cap home s.counts xs) :
    (lendAll roster cap home pick s xs).lent.map Prod.fst =
        s.lent.map Prod.fst ++ xs.take (spare roster cap s.counts) ∧
      (lendAll roster cap home pick s xs).refused =
        s.refused ++ xs.drop (spare roster cap s.counts) := by
  induction xs generalizing s with
  | nil => simp [lendAll]
  | cons a xs ih =>
    rcases lend_cases pk nd o with ⟨hz, e⟩ | ⟨t, -, hne, hlt, hsp, e⟩
    · have h := ih (lend roster cap home pick s a) (by rw [e]; exact o.refuse)
      rw [e] at h
      simp only [lendAll, List.foldl_cons, e] at h ⊢
      simpa [hz] using h
    · have h := ih (lend roster cap home pick s a) (by rw [e]; exact o.move hne hlt)
      rw [e] at h
      simp only [lendAll, List.foldl_cons, e] at h ⊢
      rw [← hsp]
      simpa using h

/-- What a holder receives plus the room it has left is constant through the loop. -/
theorem lendAll_lentTo (pk : Picks pick) (nd : roster.Nodup) (xs : List α) (s : Ledger α φ)
    (o : Owed cap home s.counts xs) (f : φ) :
    lentTo (lendAll roster cap home pick s xs) f ≤ lentTo s f + (cap f - s.counts f) := by
  induction xs generalizing s with
  | nil => simp [lendAll]
  | cons a xs ih =>
    have full := o.head_lt
    rcases lend_cases pk nd o with ⟨-, e⟩ | ⟨t, -, hne, hlt, -, e⟩
    · have h := ih (lend roster cap home pick s a) (by rw [e]; exact o.refuse)
      simp only [lendAll, List.foldl_cons, e] at h ⊢
      exact h
    · have h := ih (lend roster cap home pick s a) (by rw [e]; exact o.move hne hlt)
      simp only [lendAll, List.foldl_cons, e] at h ⊢
      refine h.trans ?_
      by_cases ht : f = t
      · subst ht
        simp only [lentTo, List.countP_append, List.countP_singleton, moved_target hne]
        simp
        omega
      · have hcount : cap f - moved s.counts (home a) t f = cap f - s.counts f := by
          by_cases hh : f = home a
          · subst hh
            rw [moved_home hne]
            omega
          · rw [moved_other hh ht]
        simp [lentTo, hcount, Ne.symm ht]

/-- Every loan goes to another holder of the roster. -/
theorem lendAll_target (pk : Picks pick) (nd : roster.Nodup) (xs : List α) (s : Ledger α φ)
    (o : Owed cap home s.counts xs) (hs : ∀ p ∈ s.lent, p.2 ∈ roster ∧ p.2 ≠ home p.1) :
    ∀ p ∈ (lendAll roster cap home pick s xs).lent, p.2 ∈ roster ∧ p.2 ≠ home p.1 := by
  induction xs generalizing s with
  | nil => exact hs
  | cons a xs ih =>
    rcases lend_cases pk nd o with ⟨-, e⟩ | ⟨t, hr, hne, hlt, -, e⟩
    · have h := ih (lend roster cap home pick s a) (by rw [e]; exact o.refuse) (by rw [e]; exact hs)
      simpa only [lendAll, List.foldl_cons] using h
    · have h := ih (lend roster cap home pick s a) (by rw [e]; exact o.move hne hlt) ?_
      · simpa only [lendAll, List.foldl_cons] using h
      · rw [e]
        intro p hp
        rcases List.mem_append.mp hp with hp | hp
        · exact hs p hp
        · obtain rfl := List.mem_singleton.mp hp
          exact ⟨hr, hne⟩

end ClientEngagement.Lending
