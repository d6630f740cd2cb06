import PocketCalculator.Calculator

/-!
# The panel

The panel shows the screen, the pad of keys and, if the settings offer it, the working of the last
result under a header that opens and closes. It lives in frames: each frame takes the events that
have arrived and passes them on, always in the same order: a new screen text, Escape, Enter, then
the click.

Enter leaves the text field without the keyboard focus, and only a pending request gives it back, so
Enter computes in a frame that begins with the request still pending. The request is spent there and
renewed by every key.
-/

namespace PocketCalculator

/-! ## The pad -/

/-- The label of a key. -/
def Key.label : Key → String
  | .character c => c.toString
  | .clear => "C"
  | .equals => "="

/-- The rows of the pad. -/
def padRows : List (List Key) := [
  [.character '7', .character '8', .character '9', .character '/'],
  [.character '4', .character '5', .character '6', .character '*'],
  [.character '1', .character '2', .character '3', .character '-'],
  [.character '0', .character '.', .equals, .character '+'],
  [.character '(', .character ')', .clear]]

/-- The keys of the pad, row by row. -/
def padKeys : List Key := padRows.flatten

/-- The key of the pad with the given label. -/
def padKey? (label : String) : Option Key := padKeys.find? (·.label == label)

/-! ## Frames -/

/-- The events of a frame. -/
structure Frame where
  /-- A new text for the screen. -/
  screen : Option String := none
  escape : Bool := false
  enter : Bool := false
  /-- The label of the widget that is clicked. -/
  click : Option String := none

/-- The calculator and the header of its working. -/
structure Panel where
  calculator : Calculator
  /-- Whether the header is open. -/
  opened : Bool := false

namespace Panel

/-- The label of the header. -/
def header : String := "Démarche"

/-- A key pressed on the panel. -/
def press (p : Panel) (key : Key) : Logged Event Panel := do
  let calculator ← p.calculator.press key
  return { p with calculator := calculator }

/-- A new screen text, if there is one. -/
def takeScreen (p : Panel) : Option String → Panel
  | some screen => { p with calculator := { p.calculator with screen := screen } }
  | none => p

/-- The text field: a pending request for the focus is spent, and with it Enter computes. -/
def takeEnter (p : Panel) (enter : Bool) : Logged Event Panel :=
  if p.calculator.focusDue then
    let p := { p with calculator := { p.calculator with focusDue := false } }
    if enter then p.press .equals else pure p
  else
    pure p

/-- A click on a key of the pad, or on the header if there is one. -/
def takeClick (p : Panel) (label : String) : Logged Event Panel :=
  match padKey? label with
  | some key => p.press key
  | none =>
      if p.calculator.settings.showWorking ∧ label = header then
        pure { p with opened := !p.opened }
      else
        pure p

/-- One frame. -/
def frame (p : Panel) (f : Frame) : Logged Event Panel := do
  let p := p.takeScreen f.screen
  let p ← if f.escape then p.press .clear else pure p
  let p ← p.takeEnter f.enter
  match f.click with
  | some label => p.takeClick label
  | none => pure p

/-- The panel after its first frame, which has no events. -/
def launch (settings : Settings) : Logged Event Panel :=
  frame { calculator := { settings := settings } } {}

/-- The states of a run of frames, the first one included. -/
def states (p : Panel) (frames : List Frame) : Logged Event (List Panel) :=
  Logged.states frame p frames

/-! ## What the panel shows -/

/-- The labels that can be clicked. -/
def labels (p : Panel) : List String :=
  padKeys.map Key.label ++ (if p.calculator.settings.showWorking then [header] else [])

/-- The texts under the open header: each title, and after it its text unless it is empty. -/
def texts (p : Panel) : List String :=
  if p.calculator.settings.showWorking ∧ p.opened then
    let trace := p.calculator.trace
    ["Expression :", trace.expression, "Jetons :", trace.tokens, "RPN :", trace.rpn].filter
      (· ≠ "")
  else
    []

end Panel

end PocketCalculator
