import Mathlib

/-!
# Programs over a state

A `Program` reads and writes a state and may raise; the state survives the exception. `Spec` is the
triple for it, with a postcondition for each of the two ways it ends, and one rule for each way a
program is built. `Always` says that every element of a trace is allowed by what came before it; a
trace grows at its end (`always_snoc`).
-/

namespace ClientEngagement

universe u v w

def Program (ω : Type u) (ε : Type v) (α : Type w) := ω → Except ε α × ω

namespace Program

variable {ω : Type u} {ε : Type v} {α β γ : Type w}

def ret (a : α) : Program ω ε α := fun s => (.ok a, s)

def andThen (x : Program ω ε α) (f : α → Program ω ε β) : Program ω ε β := fun s =>
  match x s with
  | (.ok a, t) => f a t
  | (.error e, t) => (.error e, t)

def raise (e : ε) : Program ω ε α := fun s => (.error e, s)

instance : Monad (Program ω ε) where
  pure := ret
  bind := andThen

lemma bind_ok {x : Program ω ε α} {f : α → Program ω ε β} {s t : ω} {a : α} (h : x s = (.ok a, t)) :
    (x >>= f) s = f a t := by
  show andThen x f s = f a t
  rw [andThen, h]

lemma bind_assoc' (x : Program ω ε α) (f : α → Program ω ε β) (g : β → Program ω ε γ) :
    x >>= f >>= g = x >>= fun a => f a >>= g := by
  funext s
  show andThen (andThen x f) g s = andThen x (fun a => andThen (f a) g) s
  simp only [andThen]
  cases x s with
  | mk result t =>
    cases result with
    | ok a => rfl
    | error e => rfl

lemma pure_bind' (a : α) (f : α → Program ω ε β) : pure a >>= f = f a := rfl

lemma bind_pure' (x : Program ω ε α) : (x >>= fun a => pure a) = x := by
  funext s
  show andThen x ret s = x s
  simp only [andThen]
  cases x s with
  | mk result t =>
    cases result with
    | ok a => rfl
    | error e => rfl

/-! ## Specifications -/

/-- From a state that satisfies `pre` the program ends well in `post` or raises in `fail`. -/
def Spec (pre : ω → Prop) (x : Program ω ε α) (post : α → ω → Prop) (fail : ε → ω → Prop) : Prop :=
  ∀ s, pre s →
    match x s with
    | (.ok a, t) => post a t
    | (.error e, t) => fail e t

variable {pre pre' : ω → Prop} {post post' : α → ω → Prop} {fail fail' : ε → ω → Prop}

lemma Spec.pure {a : α} (h : ∀ s, pre s → post a s) : Spec pre (Pure.pure a) post fail := h

lemma Spec.raise {e : ε} (h : ∀ s, pre s → fail e s) : Spec pre (raise e) post fail := h

lemma Spec.bind {x : Program ω ε α} {f : α → Program ω ε β} {post : β → ω → Prop}
    {mid : α → ω → Prop} (hx : Spec pre x mid fail) (hf : ∀ a, Spec (mid a) (f a) post fail) :
    Spec pre (x >>= f) post fail := by
  intro s h
  have hs := hx s h
  show match andThen x f s with
    | (.ok b, t) => post b t
    | (.error e, t) => fail e t
  rw [andThen]
  cases e : x s with
  | mk result t =>
    rw [e] at hs
    cases result with
    | ok a => exact hf a t hs
    | error e => exact hs

lemma Spec.weaken {x : Program ω ε α} (h : Spec pre x post fail) (hpre : ∀ s, pre' s → pre s)
    (hpost : ∀ a s, post a s → post' a s) (hfail : ∀ e s, fail e s → fail' e s) :
    Spec pre' x post' fail' := by
  intro s hs
  have hx := h s (hpre s hs)
  cases e : x s with
  | mk result t =>
    rw [e] at hx
    cases result with
    | ok a => exact hpost a t hx
    | error raised => exact hfail raised t hx

/-- A specification for each value of a ghost variable is one for the states that have some value. -/
lemma Spec.ghost {ι : Type*} {x : Program ω ε α} {pre : ι → ω → Prop}
    (h : ∀ i, Spec (pre i) x post fail) : Spec (fun s => ∃ i, pre i s) x post fail := by
  intro s hs
  obtain ⟨i, hi⟩ := hs
  exact h i s hi

end Program

/-! ## Traces -/

variable {τ : Type*} {P : List τ → τ → Prop}

/-- Every element of the trace is allowed by what came before it. -/
def Always (P : List τ → τ → Prop) (trace : List τ) : Prop :=
  ∀ earlier x later, trace = earlier ++ x :: later → P earlier x

lemma always_nil : Always P [] := by
  intro earlier x later e
  simp at e

lemma always_snoc {trace : List τ} {x : τ} (h : Always P trace) (hx : P trace x) :
    Always P (trace ++ [x]) := by
  intro earlier y later e
  cases later.eq_nil_or_concat with
  | inl last =>
    subst last
    obtain ⟨rfl, same⟩ := List.append_inj' e rfl
    cases same
    exact hx
  | inr more =>
    obtain ⟨later', z, rfl⟩ := more
    rw [List.concat_eq_append, ← List.cons_append, ← List.append_assoc] at e
    exact h earlier y later' (List.append_inj' e rfl).1

end ClientEngagement
