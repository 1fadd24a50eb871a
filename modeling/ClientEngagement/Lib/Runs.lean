import Mathlib

/-!
# Runs of a labelled transition system

A `Run` is a finite sequence of labelled steps. A property of the start that every step keeps holds
at the end of every run (`Run.invariant`), also when it speaks about the labels seen so far
(`Run.invariant_trace`). `Guarded` restricts a system to the steps that meet a condition on the
state before the step, `Keeping` to those after which a property holds; where the condition is exact the two
have the same runs (`Run.guarded_iff_keeping`). `Respecting` is the same for a property of the states before
and after a step (`Run.guarded_iff_respecting`); a property that no step restores can be read off the last
state (`Run.keeping_of_last`). `Run.simulates` carries a run over to an abstract system.
-/

namespace ClientEngagement

variable {σ ℓ : Type*}

/-- A finite run from `s`, with its labels in order. -/
inductive Run (step : σ → ℓ → σ → Prop) (s : σ) : List ℓ → σ → Prop where
  | nil : Run step s [] s
  | snoc {ls t l u} : Run step s ls t → step t l u → Run step s (ls ++ [l]) u

/-- The steps that meet a condition. -/
def Guarded (guard : σ → ℓ → Prop) (step : σ → ℓ → σ → Prop) (s : σ) (l : ℓ) (t : σ) : Prop :=
  guard s l ∧ step s l t

/-- The steps between states that are so related. -/
def Respecting (rel : σ → σ → Prop) (step : σ → ℓ → σ → Prop) (s : σ) (l : ℓ) (t : σ) : Prop :=
  step s l t ∧ rel s t

/-- The steps into states with a property. -/
def Keeping (inv : σ → Prop) (step : σ → ℓ → σ → Prop) (s : σ) (l : ℓ) (t : σ) : Prop :=
  step s l t ∧ inv t

variable {step : σ → ℓ → σ → Prop} {s t : σ} {ls : List ℓ}

/-- What holds at the start and is kept by every step holds after every run, its labels included. -/
theorem Run.invariant_trace (inv : List ℓ → σ → Prop) (init : inv [] s)
    (keeps : ∀ ls t l u, inv ls t → step t l u → inv (ls ++ [l]) u) (r : Run step s ls t) :
    inv ls t := by
  induction r with
  | nil => exact init
  | snoc _ st ih => exact keeps _ _ _ _ ih st

theorem Run.invariant (inv : σ → Prop) (init : inv s)
    (keeps : ∀ t l u, inv t → step t l u → inv u) (r : Run step s ls t) : inv t := by
  apply r.invariant_trace (fun _ => inv) init
  intro _ t l u h st
  exact keeps t l u h st

lemma Run.mono {step' : σ → ℓ → σ → Prop} (h : ∀ t l u, step t l u → step' t l u)
    (r : Run step s ls t) : Run step' s ls t := by
  induction r with
  | nil => exact .nil
  | snoc _ st ih => exact .snoc ih (h _ _ _ st)

lemma Run.append {ls' : List ℓ} {u : σ} (r : Run step s ls t) (r' : Run step t ls' u) :
    Run step s (ls ++ ls') u := by
  induction r' with
  | nil => simpa using r
  | snoc _ st ih =>
    rw [← List.append_assoc]
    exact .snoc ih st

lemma Run.single {l : ℓ} (st : step s l t) : Run step s [l] t := .snoc .nil st

/-- When every step is a run of the abstract system, so is every run. -/
theorem Run.simulates {τ m : Type*} {step' : τ → m → τ → Prop} (abs : σ → τ)
    (matched : ∀ t l u, step t l u → ∃ ms, Run step' (abs t) ms (abs u)) (r : Run step s ls t) :
    ∃ ms, Run step' (abs s) ms (abs t) := by
  induction r with
  | nil => exact ⟨[], .nil⟩
  | snoc _ st ih =>
    obtain ⟨ms, before⟩ := ih
    obtain ⟨ms', last⟩ := matched _ _ _ st
    exact ⟨ms ++ ms', before.append last⟩

/-- A run of guarded steps is a run. -/
lemma Run.of_guarded {guard : σ → ℓ → Prop} (r : Run (Guarded guard step) s ls t) :
    Run step s ls t :=
  r.mono fun _ _ _ st => st.2

lemma Run.keeps {inv : σ → Prop} (init : inv s) (r : Run (Keeping inv step) s ls t) : inv t := by
  cases r with
  | nil => exact init
  | snoc _ st => exact st.2

/-- Where a condition says exactly which steps keep a property, the property holds in every state of a run
    exactly when every step meets the condition. -/
theorem Run.guarded_iff_keeping {guard : σ → ℓ → Prop} {inv : σ → Prop} (init : inv s)
    (exact_guard : ∀ t l u, inv t → step t l u → (guard t l ↔ inv u)) :
    Run (Guarded guard step) s ls t ↔ Run (Keeping inv step) s ls t := by
  constructor
  · intro r
    induction r with
    | nil => exact .nil
    | snoc _ st ih => exact .snoc ih ⟨st.2, (exact_guard _ _ _ (ih.keeps init) st.2).mp st.1⟩
  · intro r
    induction r with
    | nil => exact .nil
    | snoc before st ih =>
      exact .snoc ih ⟨(exact_guard _ _ _ (before.keeps init) st.1).mpr st.2, st.1⟩

/-- Where a condition says exactly which steps are so related, given what the relation keeps, every step of a
    run is exactly when every step meets the condition. -/
theorem Run.guarded_iff_respecting {guard : σ → ℓ → Prop} {inv : σ → Prop} {rel : σ → σ → Prop}
    (init : inv s) (keeps : ∀ t l u, inv t → step t l u → rel t u → inv u)
    (exact_guard : ∀ t l u, inv t → step t l u → (guard t l ↔ rel t u)) :
    Run (Guarded guard step) s ls t ↔ Run (Respecting rel step) s ls t := by
  constructor
  · intro r
    have both : Run (Respecting rel step) s ls t ∧ inv t := by
      induction r with
      | nil => exact ⟨.nil, init⟩
      | snoc _ st ih =>
        have related := (exact_guard _ _ _ ih.2 st.2).mp st.1
        exact ⟨.snoc ih.1 ⟨st.2, related⟩, keeps _ _ _ ih.2 st.2 related⟩
    exact both.1
  · intro r
    have both : Run (Guarded guard step) s ls t ∧ inv t := by
      induction r with
      | nil => exact ⟨.nil, init⟩
      | snoc _ st ih =>
        have allowed := (exact_guard _ _ _ ih.2 st.1).mpr st.2
        exact ⟨.snoc ih.1 ⟨allowed, st.1⟩, keeps _ _ _ ih.2 st.1 st.2⟩
    exact both.1

/-- Where no step brings a property back that was lost, a run that ends with it had it all along. -/
theorem Run.keeping_of_last {side inv : σ → Prop} (init : side s)
    (keeps : ∀ t l u, side t → step t l u → side u)
    (back : ∀ t l u, side t → step t l u → inv u → inv t) (r : Run step s ls t) (last : inv t) :
    Run (Keeping inv step) s ls t := by
  induction r with
  | nil => exact .nil
  | snoc before st ih =>
    have sound := before.invariant side init keeps
    exact .snoc (ih (back _ _ _ sound st last)) ⟨st, last⟩

end ClientEngagement
