/-
Module: Library.Run
Purpose: Runs of a deterministic step function over a list of events, a
  condition that every step of a run meets in the state it starts from, and the
  induction rules that carry an invariant from one step to whole runs; and the rule
  for recursions on fuel.
Trusted boundary: none
-/
import Mathlib

namespace OpenFlowController.Library

variable {σ ε : Type*}

/-- Every step of the run of `events` from `state` meets `ok` in the state it
starts from.  The state reached is `events.foldl step state`. -/
def Along (step : σ → ε → σ) (ok : σ → ε → Prop) : σ → List ε → Prop
  | _, [] => True
  | state, event :: rest => ok state event ∧ Along step ok (step state event) rest

namespace Along

variable {step : σ → ε → σ} {ok ok' : σ → ε → Prop}

instance decidable [∀ state event, Decidable (ok state event)] :
    ∀ (state : σ) (events : List ε), Decidable (Along step ok state events)
  | _, [] => isTrue trivial
  | state, event :: rest =>
    have := decidable (step state event) rest
    inferInstanceAs (Decidable (_ ∧ _))

@[simp]
theorem nil (state : σ) : Along step ok state [] :=
  trivial

variable {state : σ}

@[simp]
theorem cons_iff {event : ε} {rest : List ε} :
    Along step ok state (event :: rest) ↔
      ok state event ∧ Along step ok (step state event) rest :=
  Iff.rfl

theorem append_iff {front back : List ε} :
    Along step ok state (front ++ back) ↔
      Along step ok state front ∧ Along step ok (front.foldl step state) back := by
  induction front generalizing state with
  | nil => simp
  | cons event rest ih =>
    simp [ih, and_assoc]

theorem mono (weaker : ∀ state event, ok state event → ok' state event)
    {state : σ} {events : List ε} (along : Along step ok state events) :
    Along step ok' state events := by
  induction events generalizing state with
  | nil => trivial
  | cons event rest ih =>
    exact ⟨weaker _ _ along.1, ih along.2⟩

theorem and {state : σ} {events : List ε} (one : Along step ok state events)
    (other : Along step ok' state events) :
    Along step (fun state event => ok state event ∧ ok' state event) state events := by
  induction events generalizing state with
  | nil => trivial
  | cons event rest ih => exact ⟨⟨one.1, other.1⟩, ih one.2 other.2⟩

variable {Inv : σ → Prop}

section

variable (preserved : ∀ state event, Inv state → ok state event → Inv (step state event))

include preserved

/-- In the states of an invariant that the steps preserve, one condition may give another. -/
theorem mono_of_invariant (weaker : ∀ state event, Inv state → ok state event → ok' state event)
    {state : σ} {events : List ε} (start : Inv state) (along : Along step ok state events) :
    Along step ok' state events := by
  induction events generalizing state with
  | nil => trivial
  | cons event rest ih =>
    exact ⟨weaker _ _ start along.1, ih (preserved _ _ start along.1) along.2⟩

/-- What one step that meets `ok` preserves, every run whose steps all meet `ok`
preserves. -/
theorem invariant {state : σ} {events : List ε} (start : Inv state)
    (along : Along step ok state events) : Inv (events.foldl step state) := by
  induction events generalizing state with
  | nil => exact start
  | cons event rest ih =>
    exact ih (preserved _ _ start along.1) along.2

/-- Two conditions that agree in every state of an invariant, which steps that meet
the first preserve, hold along the same runs. -/
theorem iff_of_invariant (same : ∀ state event, Inv state → (ok state event ↔ ok' state event))
    {state : σ} {events : List ε} (start : Inv state) :
    Along step ok state events ↔ Along step ok' state events := by
  induction events generalizing state with
  | nil => exact Iff.rfl
  | cons event rest ih =>
  rw [cons_iff, cons_iff, ← same state event start]
  refine and_congr_right fun met => ?_
  exact ih (preserved state event start met)

end

end Along

/-- What the steps of a run answer. -/
def answers {α : Type*} (step : σ → ε → σ × α) : σ → List ε → List α
  | _, [] => []
  | state, event :: rest => (step state event).2 :: answers step (step state event).1 rest

/-- Two step functions whose steps answer alike and keep a relation answer alike along runs. -/
theorem answers_eq {α τ : Type*} {step : σ → ε → σ × α} {step' : τ → ε → τ × α}
    {ok : σ → ε → Prop} {Rel : σ → τ → Prop}
    (simulates : ∀ state state' event, Rel state state' → ok state event →
      Rel (step state event).1 (step' state' event).1 ∧
        (step state event).2 = (step' state' event).2)
    {state : σ} {state' : τ} {events : List ε} (start : Rel state state')
    (along : Along (fun state event => (step state event).1) ok state events) :
    answers step state events = answers step' state' events ∧
      Rel (events.foldl (fun state event => (step state event).1) state)
        (events.foldl (fun state event => (step' state event).1) state') := by
  induction events generalizing state state' with
  | nil => exact ⟨rfl, start⟩
  | cons event rest ih =>
    obtain ⟨next, same⟩ := simulates _ _ event start along.1
    obtain ⟨later, reached⟩ := ih next along.2
    exact ⟨by rw [answers, answers, same, later], reached⟩

/-- A recursion on fuel that calls itself only on smaller states needs no more fuel
than the size of the state it starts from. -/
theorem fuel_enough {α β : Type*} (size : α → Nat) {walk : Nat → α → β}
    (step : ∀ {fuel more : Nat} {state : α},
      (∀ smaller, size smaller < size state → walk fuel smaller = walk more smaller) →
        walk (fuel + 1) state = walk (more + 1) state)
    {fuel more : Nat} {state : α} (enough : size state < fuel) (enough' : size state < more) :
    walk fuel state = walk more state := by
  induction fuel generalizing state more with
  | zero => exact absurd enough (Nat.not_lt_zero _)
  | succ fuel ih =>
  cases more with
  | zero => exact absurd enough' (Nat.not_lt_zero _)
  | succ more =>
  apply step
  intro smaller below
  exact ih (by omega) (by omega)

end OpenFlowController.Library
