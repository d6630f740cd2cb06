import PocketCalculator.Evaluation
import PocketCalculator.Rounding
import PocketCalculator.Settings.Basic

/-!
# The calculator

The calculator has a screen, which is a text, and keys that change it. Characters are appended as
they are; the clear key empties the screen; the equals key replaces it by the rounded value of its
text and keeps the working of that computation.

* `Key` and `Key.apply`: the new screen after a key;
* `Calculator` and `Calculator.press`: the whole state after a key;
* `Step`, `Calculator.advance` and `Calculator.states`: keys mixed with changes made from outside.
-/

namespace PocketCalculator

/-! ## Keys -/

/-- A key. -/
inductive Key where
  /-- A digit, point, operator or bracket; any character is accepted. -/
  | character (c : Char)
  | clear
  | equals
deriving DecidableEq, Repr

namespace Key

/-- The screen text of the value of a screen, rounded. -/
def result (screen : String) (places : UInt32) : Logged Event String := do
  let value ← evaluate screen
  return Layout.screen.text (roundToPlaces places value)

/-- The screen after a key. -/
def apply (key : Key) (screen : String) (places : UInt32) : Logged Event String :=
  match key with
  | .character c => pure (screen.push c)
  | .clear => pure ""
  | .equals => result screen places

end Key

/-! ## The state -/

/-- The working of the last result: the expression, its tokens and their postfix order. -/
structure Trace extends Working where
  expression : String := ""
deriving DecidableEq, Repr

/-- The state of the calculator. -/
structure Calculator where
  /-- The text on the screen. -/
  screen : String := ""
  /-- The working of the last result. -/
  trace : Trace := {}
  settings : Settings := {}
  /-- Whether the screen is still to be given the keyboard focus. -/
  focusDue : Bool := true

namespace Calculator

/-- Keeps the working of the expression on the screen. -/
def keepTrace (c : Calculator) : Logged Event Calculator := do
  let (value, working) ← explain c.screen
  Logged.emit (.computed c.screen value working.rpn)
  return { c with trace := { working with expression := c.screen } }

/-- The state after a key. -/
def press (c : Calculator) (key : Key) : Logged Event Calculator := do
  let c ← if key = .equals then c.keepTrace else pure c
  let screen ← key.apply c.screen c.settings.places
  return { c with screen := screen, focusDue := true }

/-- The state after several keys. -/
def pressAll (c : Calculator) (keys : List Key) : Logged Event Calculator :=
  keys.foldlM press c

end Calculator

/-! ## Steps -/

/-- A key, or a change made from outside. -/
inductive Step where
  | press (key : Key)
  /-- The characters of a text, one key each. -/
  | type (text : String)
  | setScreen (screen : String)
  | setPlaces (places : UInt32)
  | setFocusDue (due : Bool)

/-- The state after a step. -/
def Calculator.advance (c : Calculator) : Step → Logged Event Calculator
  | .press key => c.press key
  | .type text => c.pressAll (text.toList.map Key.character)
  | .setScreen screen => pure { c with screen := screen }
  | .setPlaces places => pure { c with settings := { c.settings with places := places } }
  | .setFocusDue due => pure { c with focusDue := due }

/-- The states of a run of steps, the first one included. -/
def Calculator.states (c : Calculator) (steps : List Step) : Logged Event (List Calculator) :=
  Logged.states advance c steps

end PocketCalculator
