import PocketCalculator.Proofs.Calculator.Runs
import PocketCalculator.Proofs.Panel.Frames

/-!
# Frames as steps of the calculator

A frame of the panel does to the calculator what a few steps do, in a fixed order: the new screen
text, the clear key for Escape, the equals key for an Enter that computes, and the key that is
clicked (`Frame.steps`). Whether Enter computes depends on the frame before through one bit, the
pending request for the focus: Escape makes the request in the frame itself, a computing Enter and a
click on a key make it for the next frame.

* **`calculator_frame`**: one frame is the run of its steps, and leaves the request that
  `Frame.leavesDue` says.
* **`states_eq_after_steps`**: the states of a run of frames are those of the calculator on the
  steps of the frames, one after another.

The keys that a frame clicks are those that the labels of the pad press (`Key.Labelled`).
-/

namespace PocketCalculator

namespace Frame

variable (f : Frame)

/-- Whether Enter computes in the frame, given whether the request for the focus is pending at its
beginning. -/
def computes (due : Bool) : Bool := f.enter && (f.escape || due)

/-- Whether the frame ends with the request pending: Enter has computed, or a key was clicked. -/
def leavesDue (due : Bool) : Bool := f.computes due || f.key?.isSome

/-- The steps that the frame takes. -/
def steps (due : Bool) : List Step :=
  (f.screen.toList.map Step.setScreen) ++
    ((if f.escape then [.press .clear] else []) ++
      ((if f.computes due then [.press .equals] else []) ++ f.key?.toList.map Step.press))

/-- Whether the request is pending after a run of frames. -/
def dueAfter (due : Bool) (frames : List Frame) : Bool :=
  frames.foldl (fun due f => f.leavesDue due) due

/-- The steps that a run of frames takes. -/
def stepsAfter (due : Bool) : List Frame → List Step
  | [] => []
  | f :: frames => f.steps due ++ stepsAfter (f.leavesDue due) frames

/-- The request is pending after a frame exactly if Enter has computed in it or it has clicked a
key. -/
theorem dueAfter_concat (due : Bool) (frames : List Frame) :
    dueAfter due (frames ++ [f]) = (f.computes (dueAfter due frames) || f.key?.isSome) := by
  rw [dueAfter, List.foldl_append]
  rfl

end Frame

namespace Calculator

/-- The calculator with the given request for the focus. -/
def withFocus (c : Calculator) (due : Bool) : Calculator := { c with focusDue := due }

/-- What steps do to all else does not depend on the request for the focus. -/
theorem withFocus_after (c : Calculator) (steps : List Step) (due due' : Bool) :
    ((c.withFocus due').after steps).withFocus due = (c.after steps).withFocus due := by
  induction steps generalizing c due' with
  | nil => rfl
  | cons step steps ih =>
      have hstep : ((c.withFocus due').advance step).value.withFocus due' =
          (c.advance step).value.withFocus due' := by
        cases step with
        | press key => simp only [advance, value_press, withFocus]
        | type text =>
            simp only [advance, value_pressAll _ (equals_not_mem_characters text), withFocus]
        | setScreen screen => rfl
        | setPlaces places => rfl
        | setFocusDue due => rfl
      rw [after_cons, after_cons, ← ih _ due', hstep, ih]

end Calculator

namespace Panel

/-! ### The parts of a frame as steps -/

/-- A new text on the screen is one step, -/
theorem calculator_takeScreen (p : Panel) (screen : Option String) :
    (p.takeScreen screen).calculator =
      p.calculator.after (screen.toList.map Step.setScreen) := by
  cases screen <;> rfl

/-- a key is one step and asks for the focus, -/
theorem calculator_press (p : Panel) (key : Key) :
    (p.press key).value.calculator = (p.calculator.after [.press key]).withFocus true := by
  rw [value_press, Calculator.after_cons, Calculator.advance, Calculator.value_press]
  rfl

/-- and Escape is the key that clears. -/
theorem calculator_takeEscape (p : Panel) (escape : Bool) :
    (p.takeEscape escape).calculator =
      (p.calculator.after (if escape then [.press .clear] else [])).withFocus
        (escape || p.calculator.focusDue) := by
  cases escape with
  | false => rfl
  | true => exact p.calculator_press .clear

/-- The text field takes at most one step, and it leaves the request pending exactly if it takes
it. -/
theorem calculator_takeEnter (p : Panel) (enter : Bool) :
    let computes := enter && p.calculator.focusDue
    (p.takeEnter enter).value.calculator =
      (p.calculator.after (if computes then [.press .equals] else [])).withFocus computes := by
  intro computes
  cases enter with
  | false =>
      rw [value_takeEnter_false]
      rfl
  | true =>
      have hcomputes : computes = p.calculator.focusDue := Bool.true_and _
      rw [value_takeEnter_true, hcomputes]
      by_cases hdue : p.calculator.focusDue = true
      · rw [if_pos hdue, if_pos hdue, calculator_press, hdue]
      · rw [if_neg hdue, if_neg hdue]
        rfl

/-- A click on a key takes one step and leaves the request pending; any other click takes none. -/
theorem calculator_takeLabel (p : Panel) (click : Option String) :
    (p.takeLabel click).calculator =
      (p.calculator.after ((click.bind padKey?).toList.map Step.press)).withFocus
        ((click.bind padKey?).isSome || p.calculator.focusDue) := by
  cases click with
  | none => rfl
  | some label =>
      rw [Option.bind_some, takeLabel]
      cases hkey : padKey? label with
      | none =>
          rw [calculator_takeClick_of_none p hkey]
          rfl
      | some key =>
          rw [takeClick_of_key p hkey]
          exact p.calculator_press key

/-! ### Frames as steps -/

/-- **One frame is the run of its steps**, and it leaves the request pending exactly if Enter has
computed or a key was clicked. -/
theorem calculator_frame (p : Panel) (f : Frame) :
    (p.frame f).value.calculator =
      (p.calculator.after (f.steps p.calculator.focusDue)).withFocus
        (f.leavesDue p.calculator.focusDue) := by
  have hleaves : f.leavesDue p.calculator.focusDue =
      (f.key?.isSome || f.computes p.calculator.focusDue) := Bool.or_comm ..
  have hescape : ((p.takeScreen f.screen).takeEscape f.escape).calculator.focusDue =
      (f.escape || p.calculator.focusDue) := by
    rw [calculator_takeEscape, focusDue_takeScreen]
    rfl
  rw [value_frame, calculator_takeLabel, calculator_takeEnter, hescape, calculator_takeEscape,
    calculator_takeScreen]
  -- The four runs join, because only the last request for the focus is left.
  rw [Calculator.withFocus_after, ← Calculator.after_append, Calculator.withFocus_after,
    ← Calculator.after_append, ← Calculator.after_append, hleaves]
  rfl

/-- The request that a frame leaves behind. -/
theorem focusDue_frame (p : Panel) (f : Frame) :
    (p.frame f).value.calculator.focusDue = f.leavesDue p.calculator.focusDue := by
  rw [calculator_frame]
  rfl

/-- A run of frames is the run of their steps. -/
theorem calculator_after (p : Panel) (frames : List Frame) :
    (p.after frames).calculator =
      (p.calculator.after (Frame.stepsAfter p.calculator.focusDue frames)).withFocus
        (Frame.dueAfter p.calculator.focusDue frames) := by
  induction frames generalizing p with
  | nil => rfl
  | cons f frames ih =>
      rw [after_cons, ih, calculator_frame, Calculator.withFocus_after, ← Calculator.after_append]
      rfl

/-- The calculator after a run of frames from the launch on. The launch spends the first request. -/
theorem calculator_after_launch (settings : Settings) (run : List Frame) :
    ((launch settings).value.after run).calculator =
      (Calculator.after { settings := settings } (Frame.stepsAfter false run)).withFocus
        (Frame.dueAfter false run) := by
  have hlaunch : (launch settings).value.calculator =
      Calculator.withFocus { settings := settings } false := rfl
  have hrun := (launch settings).value.calculator_after run
  rwa [hlaunch, Calculator.withFocus_after] at hrun

/-- **The panel refines the calculator.** The states of a run of frames, the one after the launch
included, are those of the calculator on the steps of the frames; after each frame the request for
the focus is pending exactly if Enter has computed in it or it has clicked a key; and the keys that
a frame can click are those of the pad, by their labels. -/
theorem states_eq_after_steps (settings : Settings) (frames : List Frame) :
    ((launch settings).value.states frames).value.map Panel.calculator =
        frames.inits.map (fun run =>
          (Calculator.after { settings := settings } (Frame.stepsAfter false run)).withFocus
            (Frame.dueAfter false run)) ∧
      (∀ run f, Frame.dueAfter false (run ++ [f]) =
        (f.computes (Frame.dueAfter false run) || f.key?.isSome)) ∧
      ∀ (f : Frame) key,
        f.key? = some key ↔ ∃ label, f.click = some label ∧ Key.Labelled label key := by
  refine ⟨?_, fun run f => f.dueAfter_concat false run, fun f key => Frame.key?_eq_some_iff⟩
  rw [states, Logged.value_states, List.map_map]
  exact List.map_congr_left fun run _ => calculator_after_launch settings run

end Panel

end PocketCalculator
