import PocketCalculator.Calculator

/-!
# What a key does to the calculator

`Calculator.press` in one equation (`value_press`): every key changes the screen by `Key.apply` and
asks for the focus; the equals key also keeps the trace of the text that was on the screen
(`Trace.of`); the settings stay.
-/

namespace PocketCalculator

/-- The trace of an expression: its text, its tokens and their postfix order. -/
def Trace.of (expression : String) : Trace :=
  { (explain expression).value.2 with expression := expression }

namespace Calculator

/-- The state after a key. -/
theorem value_press (c : Calculator) (key : Key) :
    (c.press key).value =
      { c with
        screen := (key.apply c.screen c.settings.places).value
        trace := if key = .equals then Trace.of c.screen else c.trace
        focusDue := true } := by
  cases key <;> simp [press, keepTrace, Trace.of]

end Calculator

end PocketCalculator
