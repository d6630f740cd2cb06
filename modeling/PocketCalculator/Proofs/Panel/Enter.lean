import PocketCalculator.Proofs.Panel.Refinement

/-!
# When Enter computes

The Enter key computes only in a frame that begins with the request for the focus pending. The
request of the launch is spent in the first frame, and a frame without Enter leaves a request behind
only by a click on a key (`focusDue_after_of_no_enter`). So after any run of frames without Enter,
Enter computes exactly if the last frame of the run has clicked a key of the pad.

* **`enter_after`**: the exact condition, and what the frame does otherwise: nothing but to take the
  new screen text.
-/

namespace PocketCalculator

namespace Panel

/-- The panel shows the result of the expression and keeps its trace. -/
structure Computed (p : Panel) (expression : String) : Prop where
  /-- The screen is what the equals key makes of the expression. -/
  screen_eq :
    p.calculator.screen = (Key.equals.apply expression p.calculator.settings.places).value
  /-- The trace is that of the expression. -/
  trace_eq : p.calculator.trace = Trace.of expression

/-- The request at the end of a run without Enter is that of its last frame. -/
theorem focusDue_after_of_no_enter (settings : Settings) {frames : List Frame}
    (h : ∀ f ∈ frames, f.enter = false) :
    ((launch settings).value.after frames).calculator.focusDue =
      (frames.getLast?.bind Frame.key?).isSome := by
  rcases List.eq_nil_or_concat frames with rfl | ⟨front, last, rfl⟩
  · rfl
  · have hlast : last.enter = false := h last (by simp)
    rw [List.concat_eq_append, after_append, after_cons, after_nil, focusDue_frame,
      Frame.leavesDue, Frame.computes, hlast, List.getLast?_concat]
    rfl

/-- The equals key computes the expression on the screen. -/
theorem computed_press_equals (p : Panel) :
    Computed (p.press .equals).value p.calculator.screen := by
  rw [value_press, Calculator.value_press]
  exact ⟨rfl, by simp⟩

/-- A frame with Enter, without Escape and without a click: with the request for the focus pending
it presses the equals key, otherwise it only takes the new screen text. -/
theorem value_frame_enter (p : Panel) {f : Frame} (henter : f.enter = true)
    (hescape : f.escape = false) (hclick : f.click = none) :
    (p.frame f).value =
      if p.calculator.focusDue then ((p.takeScreen f.screen).press .equals).value
      else p.takeScreen f.screen := by
  simp [frame, henter, hescape, hclick, value_takeEnter_true, focusDue_takeScreen]

/-- **When Enter computes.** After any run of frames without Enter, a frame with Enter and nothing
else than a new screen text computes exactly if the last frame has clicked a key, unless the panel
showed the result of its screen already; and if no key was clicked it only takes the screen text. -/
theorem enter_after (settings : Settings) {frames : List Frame} {f : Frame}
    (hfree : ∀ g ∈ frames, g.enter = false) (henter : f.enter = true)
    (hescape : f.escape = false) (hclick : f.click = none) :
    let p := (launch settings).value.after frames
    let start := f.screen.getD p.calculator.screen
    (Computed (p.frame f).value start ↔
        (frames.getLast?.bind Frame.key?).isSome ∨ Computed (p.takeScreen f.screen) start) ∧
      ((frames.getLast?.bind Frame.key?).isSome = false →
        (p.frame f).value = p.takeScreen f.screen) := by
  intro p start
  have hdue : p.calculator.focusDue = (frames.getLast?.bind Frame.key?).isSome :=
    focusDue_after_of_no_enter settings hfree
  have hframe := p.value_frame_enter henter hescape hclick
  rw [hdue] at hframe
  cases hkey : (frames.getLast?.bind Frame.key?).isSome with
  | true =>
      rw [hkey, if_pos rfl] at hframe
      have hcomputed := computed_press_equals (p.takeScreen f.screen)
      rw [← hframe, screen_takeScreen] at hcomputed
      exact ⟨⟨fun _ => .inl rfl, fun _ => hcomputed⟩, fun h => absurd h (by decide)⟩
  | false =>
      rw [hkey, if_neg (by decide)] at hframe
      rw [hframe]
      exact ⟨⟨.inr, fun h => h.resolve_left (by decide)⟩, fun _ => rfl⟩

/-- An expression is typed, a key of the pad is clicked, and Enter computes. -/
theorem enter_after_click :
    let frames : List Frame := [{ screen := some "1+" }, { click := some "2" }]
    let p := (launch {}).value.after frames
    (∀ g ∈ frames, g.enter = false) ∧ (frames.getLast?.bind Frame.key?).isSome ∧
      Computed (p.frame { enter := true }).value p.calculator.screen := by
  intro frames p
  have hfree : ∀ g ∈ frames, g.enter = false := by simp [frames]
  have hclicked : (frames.getLast?.bind Frame.key?).isSome := by decide +kernel
  have h := enter_after {} (f := { enter := true }) hfree rfl rfl rfl
  exact ⟨hfree, hclicked, h.1.mpr (.inl hclicked)⟩

/-- An expression is typed, and Enter does not compute. -/
theorem not_computed_after_typing :
    let p := (launch {}).value.after [{ screen := some "1+2" }]
    ¬ Computed (p.frame { enter := true }).value p.calculator.screen := by
  intro p h
  have hscreen : (p.frame { enter := true }).value.calculator.screen = "1+2" := by decide +kernel
  have hresult : (Key.equals.apply p.calculator.screen
      (p.frame { enter := true }).value.calculator.settings.places).value = "3" := by decide +kernel
  rw [h.screen_eq, hresult] at hscreen
  exact absurd hscreen (by decide)

end Panel

end PocketCalculator
