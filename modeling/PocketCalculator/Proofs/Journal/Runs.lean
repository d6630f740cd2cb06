import Mathlib.Data.List.Infix
import PocketCalculator.Journal

/-!
# Runs

A machine that reads one input after another passes through states. `Logged.after` is the state at
the end of a run, and the recorded states of a run are the ends of its beginnings (`value_states`),
so a statement about `Logged.after` for all inputs is a statement about every recorded state.
-/

namespace PocketCalculator.Logged

variable {ε σ ι : Type} (next : σ → ι → Logged ε σ)

/-- The state at the end of a run. -/
def after (state : σ) (inputs : List ι) : σ :=
  inputs.foldl (fun state input => (next state input).value) state

/-- Without inputs the state is kept. -/
@[simp] theorem after_nil (state : σ) : after next state [] = state := rfl

/-- The first input is followed by the others. -/
@[simp] theorem after_cons (state : σ) (input : ι) (inputs : List ι) :
    after next state (input :: inputs) = after next (next state input).value inputs := rfl

/-- A run goes on from where an earlier one has ended. -/
theorem after_append (state : σ) (inputs more : List ι) :
    after next state (inputs ++ more) = after next (after next state inputs) more :=
  List.foldl_append

/-- The recorded states of a run are the ends of its beginnings, the shortest first. -/
theorem value_states (state : σ) (inputs : List ι) :
    (states next state inputs).value = inputs.inits.map (after next state) := by
  induction inputs generalizing state with
  | nil => rfl
  | cons input inputs ih =>
      rw [List.inits_cons, List.map_cons, List.map_map, after_nil]
      exact congrArg (state :: ·) (ih (next state input).value)

end PocketCalculator.Logged
