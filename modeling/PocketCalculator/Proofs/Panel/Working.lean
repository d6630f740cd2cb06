import Mathlib.Algebra.Ring.Parity
import Mathlib.Data.List.Forall2
import PocketCalculator.Proofs.Panel.Refinement

/-!
# What the panel shows under its header

The header is not a key: a click on it opens or closes the working and does nothing to the
calculator, and nothing else opens or closes it. So whether the working is open depends on the
number of clicks on the header alone (`opened_after_launch`). What is shown when it is open is the
trace of the calculator at the end of the frame, after the keys of that frame, and a trace belongs
to one expression: the one that the last equals key has found on the screen (`LastAsked`). Edits,
the clear key and clicks on the header come and go without changing it.

* **`states_show_working`**: what is shown after each frame of a run.
-/

namespace PocketCalculator

/-! ### The last expression computed -/

namespace Calculator

/-- The expression is the text that the last equals key of the steps has found on the screen; it is
empty if there was none. -/
inductive LastAsked (settings : Settings) : List Step → String → Prop where
  | never {steps : List Step} (h : Step.press .equals ∉ steps) : LastAsked settings steps ""
  | last (before : List Step) {since : List Step} (h : Step.press .equals ∉ since) :
      LastAsked settings (before ++ .press .equals :: since)
        (after { settings := settings } before).screen

variable {settings : Settings} {steps : List Step} {expression : String}

/-- Every run has a last expression, possibly the empty one. -/
theorem exists_lastAsked (settings : Settings) (steps : List Step) :
    ∃ expression, LastAsked settings steps expression := by
  induction steps using List.reverseRecOn with
  | nil => exact ⟨"", .never List.not_mem_nil⟩
  | append_singleton steps step ih =>
      by_cases hstep : step = .press .equals
      · subst hstep
        exact ⟨_, .last steps List.not_mem_nil⟩
      · obtain ⟨expression, never | ⟨before, hsince⟩⟩ := ih
        · refine ⟨"", .never ?_⟩
          simp [never, Ne.symm hstep]
        · refine ⟨(after { settings := settings } before).screen, ?_⟩
          rw [List.append_assoc, List.cons_append]
          refine .last before ?_
          simp [hsince, Ne.symm hstep]

/-- The trace of a run is that of its last expression. -/
theorem LastAsked.trace_eq (h : LastAsked settings steps expression) :
    (after { settings := settings } steps).trace = Trace.of expression := by
  cases h with
  | never h => exact (trace_after _ h).trans Trace.of_empty.symm
  | last before h => exact trace_after_equals _ before h

end Calculator

/-- The settings that offer the working do not change. -/
theorem Calculator.showWorking_after (c : Calculator) (steps : List Step) :
    (c.after steps).settings.showWorking = c.settings.showWorking := by
  rw [settings_after]

/-- Whether a frame clicks the header. -/
def Frame.clicksHeader (f : Frame) : Bool := f.click == some Panel.header

namespace Panel

open Calculator (LastAsked)

/-! ### The header -/

/-- The header is not a key of the pad. -/
theorem padKey?_header : padKey? header = none := by decide +kernel

/-- Keys do not open the working, -/
theorem opened_press (p : Panel) (key : Key) : (p.press key).value.opened = p.opened := by
  rw [value_press]

/-- and neither do texts on the screen, -/
theorem opened_takeScreen (p : Panel) (screen : Option String) :
    (p.takeScreen screen).opened = p.opened := by
  cases screen <;> rfl

/-- Escape, -/
theorem opened_takeEscape (p : Panel) (escape : Bool) :
    (p.takeEscape escape).opened = p.opened := by
  cases escape with
  | false => rfl
  | true => exact p.opened_press .clear

/-- or Enter. -/
theorem opened_takeEnter (p : Panel) (enter : Bool) :
    (p.takeEnter enter).value.opened = p.opened := by
  cases enter with
  | false => rw [value_takeEnter_false]
  | true =>
      rw [value_takeEnter_true]
      split
      · exact p.opened_press .equals
      · rfl

/-- A click on the header opens or closes the working if it is offered; other clicks do not. -/
theorem opened_takeLabel (p : Panel) (click : Option String) :
    (p.takeLabel click).opened =
      (p.opened ^^ (p.calculator.settings.showWorking && click == some header)) := by
  cases click with
  | none => simp [takeLabel]
  | some label =>
      by_cases hheader : label = header
      · subst hheader
        rw [takeLabel, takeClick, padKey?_header]
        cases p.calculator.settings.showWorking <;> simp
      · have hother : (some label == some header) = false := by simpa using hheader
        rw [takeLabel, hother, Bool.and_false, Bool.xor_false]
        cases hkey : padKey? label with
        | some key => rw [takeClick_of_key p hkey, opened_press]
        | none => simp [takeClick, hkey, hheader]

/-- One frame opens or closes the working by a click on the header only. -/
theorem opened_frame (p : Panel) (f : Frame) :
    (p.frame f).value.opened =
      (p.opened ^^ (p.calculator.settings.showWorking && f.clicksHeader)) := by
  have hoffered : ((((p.takeScreen f.screen).takeEscape f.escape).takeEnter
      f.enter).value).calculator.settings.showWorking = p.calculator.settings.showWorking := by
    rw [calculator_takeEnter, Calculator.withFocus, Calculator.showWorking_after,
      calculator_takeEscape, Calculator.withFocus, Calculator.showWorking_after,
      calculator_takeScreen, Calculator.showWorking_after]
  rw [value_frame, opened_takeLabel, hoffered, opened_takeEnter, opened_takeEscape,
    opened_takeScreen]
  rfl

/-! ### Runs of frames -/

/-- The settings that offer the working stay those of the launch. -/
theorem showWorking_after_launch (settings : Settings) (run : List Frame) :
    ((launch settings).value.after run).calculator.settings.showWorking = settings.showWorking := by
  rw [calculator_after_launch, Calculator.withFocus, Calculator.showWorking_after]

/-- The working is open exactly if it is offered and its header was clicked an odd number of
times. -/
theorem opened_after_launch (settings : Settings) (run : List Frame) :
    ((launch settings).value.after run).opened =
      (settings.showWorking && decide (Odd (run.countP Frame.clicksHeader))) := by
  induction run using List.reverseRecOn with
  | nil => simp; rfl
  | append_singleton run f ih =>
      rw [after_append, after_cons, after_nil, opened_frame, ih, showWorking_after_launch,
        List.countP_append, List.countP_singleton]
      cases settings.showWorking <;> cases f.clicksHeader <;>
        simp [Nat.odd_add_one, -Nat.not_odd_iff_even]

/-! ### What is shown -/

/-- A title, and after it the text unless it is empty. -/
def titled (title text : String) : List String := title :: if text = "" then [] else [text]

/-- The working of an expression: the expression, its tokens and their postfix order. -/
def working (expression : String) : List String :=
  titled "Expression :" expression ++
    titled "Jetons :" (Token.joined (Token.scan expression).value) ++
    titled "RPN :" (toRpn expression).value

/-- A text that is empty is left out, and its title is not. -/
theorem filter_titled {title : String} (h : title ≠ "") (text : String) :
    [title, text].filter (· ≠ "") = titled title text := by
  rw [titled, List.filter_cons_of_pos (by simpa using h)]
  by_cases htext : text = "" <;> simp [htext]

/-- With the trace of an expression the panel shows its working or nothing. -/
theorem texts_of_trace_eq {p : Panel} {expression : String}
    (h : p.calculator.trace = Trace.of expression) :
    p.texts =
      if p.calculator.settings.showWorking ∧ p.opened then working expression else [] := by
  have hworking := Trace.working_of expression
  have htokens := congrArg Working.tokens hworking
  have hrpn := congrArg Working.rpn hworking
  have htrace : (Trace.of expression).expression = expression := rfl
  dsimp only at htokens hrpn
  rw [texts, h, working, ← filter_titled (by decide), ← filter_titled (by decide),
    ← filter_titled (by decide), ← List.filter_append, ← List.filter_append, ← htokens, ← hrpn]
  rfl

/-- What the panel `p` shows after the frames of a run from the launch on. -/
structure ShowsWorking (settings : Settings) (run : List Frame) (p : Panel) : Prop where
  /-- Where the working is not offered, it is never open. -/
  hidden : settings.showWorking = false → p.opened = false
  /-- Where it is offered, it is open after an odd number of clicks on its header. -/
  opened_iff : settings.showWorking = true →
    (p.opened = true ↔ Odd (run.countP Frame.clicksHeader))
  /-- Nothing is shown while it is closed, -/
  texts_closed : p.opened = false → p.texts = []
  /-- and while it is open the working of the last expression is. -/
  texts_opened : p.opened = true → ∀ expression,
    LastAsked settings (Frame.stepsAfter false run) expression → p.texts = working expression
  /-- There is a last expression. -/
  asked : ∃ expression, LastAsked settings (Frame.stepsAfter false run) expression

/-- After every run the panel shows what it should. -/
theorem showsWorking_after_launch (settings : Settings) (run : List Frame) :
    ShowsWorking settings run ((launch settings).value.after run) := by
  have hopened := opened_after_launch settings run
  have hoffered := showWorking_after_launch settings run
  obtain ⟨expression, hasked⟩ := Calculator.exists_lastAsked settings (Frame.stepsAfter false run)
  have htexts {expression : String}
      (h : LastAsked settings (Frame.stepsAfter false run) expression) :=
    texts_of_trace_eq (p := (launch settings).value.after run)
      (by rw [calculator_after_launch]; exact h.trace_eq)
  constructor
  case hidden =>
    intro hhidden
    rw [hopened, hhidden, Bool.false_and]
  case opened_iff =>
    intro hshown
    rw [hopened, hshown, Bool.true_and, decide_eq_true_iff]
  case texts_closed =>
    intro hclosed
    rw [htexts hasked, hclosed, if_neg (by simp)]
  case texts_opened =>
    intro hopen expression hlast
    have hshown : settings.showWorking = true := by
      rw [hopened, Bool.and_eq_true] at hopen
      exact hopen.1
    rw [htexts hlast, if_pos ⟨hoffered.trans hshown, hopen⟩]
  case asked => exact ⟨expression, hasked⟩

/-- **What is shown under the header.** After each frame of a run the working is open exactly if it
is offered and its header was clicked an odd number of times so far. Then it is the working of one
expression, the text that the last equals key up to then has found on the screen; else nothing is
shown. -/
theorem states_show_working (settings : Settings) (frames : List Frame) :
    List.Forall₂ (ShowsWorking settings) frames.inits
      ((launch settings).value.states frames).value := by
  rw [states, Logged.value_states, List.forall₂_map_right_iff, List.forall₂_same]
  exact fun run _ => showsWorking_after_launch settings run

end Panel

end PocketCalculator
