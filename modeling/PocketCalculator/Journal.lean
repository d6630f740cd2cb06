/-!
# Journals

A computation may leave records behind while it runs. `Logged ε α` is a value together with the
records of the computation that produced it, in the order in which they arose; running one
computation after another joins their records. `Level` says how grave a record is.
-/

namespace PocketCalculator

/-! ## Levels -/

/-- How grave a record is, from the gravest to the most detailed. -/
inductive Level where
  | error
  | warn
  | info
  | debug
  | trace
deriving DecidableEq, Repr

namespace Level

/-- The rank of a level: the graver, the smaller. -/
def rank : Level → Nat
  | .error => 1
  | .warn => 2
  | .info => 3
  | .debug => 4
  | .trace => 5

/-- The name of a level. -/
def name : Level → String
  | .error => "error"
  | .warn => "warn"
  | .info => "info"
  | .debug => "debug"
  | .trace => "trace"

end Level

/-! ## Computations with records -/

/-- A value and the records that its computation left, oldest first. -/
structure Logged (ε α : Type) where
  value : α
  journal : List ε := []

namespace Logged

variable {ε α β : Type}

/-- Runs `next` on the value; its records follow. -/
def andThen (x : Logged ε α) (next : α → Logged ε β) : Logged ε β :=
  ⟨(next x.value).value, x.journal ++ (next x.value).journal⟩

/-- A single record. -/
def emit (event : ε) : Logged ε Unit := ⟨(), [event]⟩

instance : Monad (Logged ε) where
  pure a := ⟨a, []⟩
  bind := andThen

/-- A value alone is that value. -/
@[simp] theorem value_pure (a : α) : (pure a : Logged ε α).value = a := rfl

/-- A step is followed by the next one, which is given its value, -/
@[simp] theorem value_bind (x : Logged ε α) (next : α → Logged ε β) :
    (x >>= next).value = (next x.value).value := rfl

/-- and the records of both are kept in this order. -/
@[simp] theorem journal_bind (x : Logged ε α) (next : α → Logged ε β) :
    (x >>= next).journal = x.journal ++ (next x.value).journal := rfl

/-! ## Runs -/

variable {σ ι : Type}

/-- The states of a run, from the given one on: one more after each input. -/
def states (next : σ → ι → Logged ε σ) (state : σ) : List ι → Logged ε (List σ)
  | [] => pure [state]
  | input :: inputs => do
      let after ← next state input
      return state :: (← states next after inputs)

end Logged

end PocketCalculator
