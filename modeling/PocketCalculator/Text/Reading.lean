/-!
# Reading a text

A `Reading` takes what it needs from the beginning of a text and leaves the rest, or fails. Places
are told by the length of the rest. Repetition is `repeating`, which runs a step on a state until
the step announces that it was the last, and `pieces`, which gathers items in this way; every step
that is repeated takes at least one character unless it is the last, so the length of the text
bounds the number of steps.
-/

namespace PocketCalculator.Text

/-- A reading of the beginning of a text. -/
abbrev Reading (α : Type) := StateT (List Char) Option α

namespace Reading

variable {α σ : Type}

/-! ## Characters -/

/-- The number of characters left. -/
def left : Reading Nat := do return (← get).length

/-- Takes one character. -/
def next : Reading Char := do
  match ← get with
  | c :: rest => set rest; return c
  | [] => failure

/-- Whether the rest begins with the given characters. -/
def lookingAt (text : List Char) : Reading Bool := do return text.isPrefixOf (← get)

/-- Takes the given characters if the rest begins with them, and tells whether it did. -/
def accept (text : List Char) : Reading Bool := do
  let found ← lookingAt text
  if found then modify (·.drop text.length)
  return found

/-- Takes the given characters, or fails. -/
def expect (text : List Char) : Reading Unit := do
  unless ← accept text do failure

/-- Takes characters as long as they are in the class. -/
def takeWhile (p : Char → Bool) : Reading (List Char) := do
  let rest ← get
  set (rest.dropWhile p)
  return rest.takeWhile p

/-- Takes one or more characters of the class. -/
def takeSome (p : Char → Bool) : Reading (List Char) := do
  let taken ← takeWhile p
  if taken.isEmpty then failure else return taken

/-! ## Repetition -/

/-- At most `bound` steps, up to the one that is marked as the last. -/
def repeatingWithin (step : σ → Reading (Bool × σ)) : Nat → σ → Reading σ
  | 0, _ => failure
  | bound + 1, state => do
      let (last, state) ← step state
      if last then return state
      repeatingWithin step bound state

/-- The state after the steps up to the one that is marked as the last. -/
def repeating (step : σ → Reading (Bool × σ)) (state : σ) : Reading σ := do
  repeatingWithin step ((← left) + 1) state

/-- At most `bound` pieces: the items of all pieces up to the one that is marked as the last. -/
def piecesWithin (piece : Reading (Bool × List α)) : Nat → Reading (List α)
  | 0 => failure
  | bound + 1 => do
      let (last, items) ← piece
      if last then return items
      return items ++ (← piecesWithin piece bound)

/-- The items of all pieces up to the one that is marked as the last. -/
def pieces (piece : Reading (Bool × List α)) : Reading (List α) := do
  piecesWithin piece ((← left) + 1)

end Reading

end PocketCalculator.Text
