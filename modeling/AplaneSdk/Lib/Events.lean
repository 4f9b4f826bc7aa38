/-
# Machines that only react

A machine takes events one at a time; an event that cannot happen in a state
has no next state there. What every possible event keeps holds after every
sequence of events.

Key definitions: `react`.
Key theorem: `react_keeps`.
-/
import Mathlib.Data.Option.Basic

namespace Interaction

variable {σ ε : Type}

/-- The state after the events, if all of them can happen in their turn. -/
def react (step : σ → ε → Option σ) : σ → List ε → Option σ
  | s, [] => some s
  | s, e :: es => (step s e).bind fun s' => react step s' es

variable {step : σ → ε → Option σ}

theorem react_keeps {Inv : σ → Prop} (hstep : ∀ s e s', Inv s → step s e = some s' → Inv s') :
    ∀ {s s' : σ} {es : List ε}, Inv s → react step s es = some s' → Inv s'
  | s, s', [], h, hrun => by
    cases hrun
    exact h
  | s, s', e :: es, h, hrun => by
    obtain ⟨s₁, hs, hrest⟩ := Option.bind_eq_some_iff.mp hrun
    exact react_keeps hstep (hstep s e s₁ h hs) hrest

end Interaction
