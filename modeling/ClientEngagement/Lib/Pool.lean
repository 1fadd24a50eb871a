import ClientEngagement.Lib.Runs

/-!
# Exclusive work

Workers that hold items, perform them and record them. Performing cannot be undone and is not
recorded at once, so nothing stops a second worker by itself; reserving only what nobody else holds
and nothing has recorded does. `Exclusive` is the invariant of such a pool and `performed_nodup`
says that no item is performed twice.
-/

namespace ClientEngagement

/-- What is recorded as done, what each worker holds, what it has performed and not recorded yet,
    and everything performed so far. -/
@[ext] structure Pool (κ ω : Type*) where
  recorded : Set κ
  held : ω → Set κ
  pending : ω → Set κ
  performed : List κ

inductive PoolMove (κ ω : Type*) where
  | reserve (w : ω) (items : Set κ)
  | perform (w : ω) (k : κ)
  | record (w : ω)
  | release (w : ω) (items : Set κ)

variable {κ ω : Type*} [DecidableEq ω]

inductive PoolStep (p : Pool κ ω) : PoolMove κ ω → Pool κ ω → Prop where
  | reserve {w items} (fresh : Disjoint items p.recorded)
      (free : ∀ w', w' ≠ w → Disjoint items (p.held w')) :
      PoolStep p (.reserve w items)
        { p with held := Function.update p.held w (p.held w ∪ items) }
  | perform {w k} (mine : k ∈ p.held w) (new : k ∉ p.pending w) :
      PoolStep p (.perform w k)
        { p with
          pending := Function.update p.pending w (insert k (p.pending w))
          performed := p.performed ++ [k] }
  | record {w} :
      PoolStep p (.record w)
        { p with
          recorded := p.recorded ∪ p.pending w
          held := Function.update p.held w (p.held w \ p.pending w)
          pending := Function.update p.pending w ∅ }
  -- what is performed and not recorded is not given back
  | release {w items} (sub : items ⊆ p.held w) (keeps : p.pending w ⊆ items) :
      PoolStep p (.release w items) { p with held := Function.update p.held w items }

structure Exclusive (p : Pool κ ω) : Prop where
  fresh : ∀ w, Disjoint (p.held w) p.recorded
  apart : ∀ w w', w ≠ w' → Disjoint (p.held w) (p.held w')
  own : ∀ w, p.pending w ⊆ p.held w
  nodup : p.performed.Nodup
  kept : ∀ k ∈ p.performed, k ∈ p.recorded ∨ ∃ w, k ∈ p.pending w

variable {p q : Pool κ ω} {w : ω} {k : κ} {items : Set κ}

/-- Replacing what one worker holds keeps the holdings apart. -/
lemma apart_update {held : ω → Set κ} (apart : ∀ w w', w ≠ w' → Disjoint (held w) (held w'))
    (free : ∀ w', w' ≠ w → Disjoint items (held w')) :
    ∀ u v, u ≠ v →
      Disjoint (Function.update held w items u) (Function.update held w items v) := by
  intro u v ne
  cases eq_or_ne u w with
  | inl hu =>
    subst hu
    rw [Function.update_self, Function.update_of_ne ne.symm]
    exact free v ne.symm
  | inr hu =>
    rw [Function.update_of_ne hu]
    cases eq_or_ne v w with
    | inl hv =>
      subst hv
      rw [Function.update_self]
      exact (free u hu).symm
    | inr hv =>
      rw [Function.update_of_ne hv]
      exact apart u v ne

lemma forall_update {held : ω → Set κ} {P : ω → Set κ → Prop} (self : P w items)
    (others : ∀ u, u ≠ w → P u (held u)) : ∀ u, P u (Function.update held w items u) := by
  intro u
  cases eq_or_ne u w with
  | inl hu =>
    subst hu
    rw [Function.update_self]
    exact self
  | inr hu =>
    rw [Function.update_of_ne hu]
    exact others u hu

omit [DecidableEq ω] in
/-- A held item that is not pending was never performed. -/
lemma Exclusive.not_performed (x : Exclusive p) (mine : k ∈ p.held w) (new : k ∉ p.pending w) :
    k ∉ p.performed := by
  intro done
  cases x.kept k done with
  | inl recorded => exact Set.disjoint_left.mp (x.fresh w) mine recorded
  | inr waiting =>
    obtain ⟨w', pending⟩ := waiting
    cases eq_or_ne w w' with
    | inl same => exact new (same ▸ pending)
    | inr ne => exact Set.disjoint_left.mp (x.apart w w' ne) mine (x.own w' pending)

lemma Exclusive.reserve (x : Exclusive p) (fresh : Disjoint items p.recorded)
    (free : ∀ w', w' ≠ w → Disjoint items (p.held w')) :
    Exclusive { p with held := Function.update p.held w (p.held w ∪ items) } where
  fresh := forall_update (P := fun _ s => Disjoint s p.recorded)
    (Set.disjoint_union_left.mpr ⟨x.fresh w, fresh⟩) fun u _ => x.fresh u
  apart := apart_update x.apart fun w' ne =>
    Set.disjoint_union_left.mpr ⟨x.apart w w' ne.symm, free w' ne⟩
  own := forall_update (P := fun u s => p.pending u ⊆ s)
    ((x.own w).trans Set.subset_union_left) fun u _ => x.own u
  nodup := x.nodup
  kept := x.kept

lemma Exclusive.perform (x : Exclusive p) (mine : k ∈ p.held w) (new : k ∉ p.pending w) :
    Exclusive { p with
      pending := Function.update p.pending w (insert k (p.pending w))
      performed := p.performed ++ [k] } where
  fresh := x.fresh
  apart := x.apart
  own := forall_update (P := fun u s => s ⊆ p.held u)
    (Set.insert_subset mine (x.own w)) fun u _ => x.own u
  nodup := by
    refine x.nodup.append (List.nodup_singleton k) ?_
    rw [List.disjoint_singleton]
    exact x.not_performed mine new
  kept k' done := by
    rw [List.mem_append, List.mem_singleton] at done
    cases done with
    | inl before =>
      cases x.kept k' before with
      | inl recorded => exact .inl recorded
      | inr waiting =>
        obtain ⟨w', pending⟩ := waiting
        refine .inr ⟨w', ?_⟩
        show k' ∈ Function.update p.pending w (insert k (p.pending w)) w'
        cases eq_or_ne w' w with
        | inl same =>
          subst same
          rw [Function.update_self]
          exact Set.mem_insert_of_mem _ pending
        | inr ne =>
          rw [Function.update_of_ne ne]
          exact pending
    | inr now =>
      refine .inr ⟨w, ?_⟩
      show k' ∈ Function.update p.pending w (insert k (p.pending w)) w
      rw [Function.update_self, now]
      exact Set.mem_insert k _

lemma Exclusive.record (x : Exclusive p) :
    Exclusive { p with
      recorded := p.recorded ∪ p.pending w
      held := Function.update p.held w (p.held w \ p.pending w)
      pending := Function.update p.pending w ∅ } where
  fresh := by
    apply forall_update (P := fun _ s => Disjoint s (p.recorded ∪ p.pending w))
    · exact Set.disjoint_union_right.mpr
        ⟨(x.fresh w).mono_left Set.sdiff_subset, Set.disjoint_sdiff_left⟩
    · intro u ne
      exact Set.disjoint_union_right.mpr ⟨x.fresh u, (x.apart u w ne).mono_right (x.own w)⟩
  apart := apart_update x.apart fun w' ne =>
    (x.apart w w' ne.symm).mono_left Set.sdiff_subset
  own u := by
    show Function.update p.pending w ∅ u ⊆
      Function.update p.held w (p.held w \ p.pending w) u
    cases eq_or_ne u w with
    | inl same =>
      subst same
      rw [Function.update_self]
      exact Set.empty_subset _
    | inr ne =>
      rw [Function.update_of_ne ne, Function.update_of_ne ne]
      exact x.own u
  nodup := x.nodup
  kept k' done := by
    cases x.kept k' done with
    | inl recorded => exact .inl (.inl recorded)
    | inr waiting =>
      obtain ⟨w', pending⟩ := waiting
      cases eq_or_ne w' w with
      | inl same => exact .inl (.inr (same ▸ pending))
      | inr ne =>
        refine .inr ⟨w', ?_⟩
        show k' ∈ Function.update p.pending w ∅ w'
        rw [Function.update_of_ne ne]
        exact pending

lemma Exclusive.release (x : Exclusive p) (sub : items ⊆ p.held w) (keeps : p.pending w ⊆ items) :
    Exclusive { p with held := Function.update p.held w items } where
  fresh := forall_update (P := fun _ s => Disjoint s p.recorded)
    ((x.fresh w).mono_left sub) fun u _ => x.fresh u
  apart := apart_update x.apart fun w' ne => (x.apart w w' ne.symm).mono_left sub
  own := forall_update (P := fun u s => p.pending u ⊆ s) keeps fun u _ => x.own u
  nodup := x.nodup
  kept := x.kept

/-- Every move keeps the pool exclusive. -/
theorem Exclusive.step {move : PoolMove κ ω} (x : Exclusive p) (st : PoolStep p move q) :
    Exclusive q := by
  cases st with
  | reserve fresh free => exact x.reserve fresh free
  | perform mine new => exact x.perform mine new
  | record => exact x.record
  | release sub keeps => exact x.release sub keeps

/-- Over any run of an exclusive pool no item is performed twice. -/
theorem performed_nodup {moves : List (PoolMove κ ω)} (x : Exclusive p)
    (r : Run PoolStep p moves q) : q.performed.Nodup :=
  (r.invariant Exclusive x fun _ _ _ x st => x.step st).nodup

end ClientEngagement
