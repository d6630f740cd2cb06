import PocketCalculator.Proofs.Calculator.Press
import PocketCalculator.Proofs.Journal.Runs

/-!
# Runs of the calculator

What the state of the calculator has to do with the steps that led to it. The steps are read as a
history: the keys they press (`Step.keys`), each with the decimal places that are current when it is
pressed (`Step.keysFrom`), and the places they leave behind (`Step.placesAfter`). A step that
assigns the screen text cuts the history, because nothing pressed before it can be seen on the
screen.

* **`records_after`**: the screen is the left fold of the keys pressed since its last assignment,
  the trace is that of the text which the last equals key found on the screen, and the settings are
  the initial ones with the places assigned last.
-/

namespace PocketCalculator

/-! ### Steps as a history -/

namespace Step

/-- The keys that a step presses. -/
def keys : Step → List Key
  | .press key => [key]
  | .type text => text.toList.map Key.character
  | _ => []

/-- A step that assigns the screen text. -/
def AssignsScreen : Step → Prop
  | .setScreen _ => True
  | _ => False

/-- The decimal places after a step. -/
def placesThen (places : UInt32) : Step → UInt32
  | .setPlaces places => places
  | _ => places

/-- The decimal places after a run of steps. -/
def placesAfter (places : UInt32) (steps : List Step) : UInt32 := steps.foldl placesThen places

/-- The keys of a run of steps, each with the decimal places current at that key. -/
def keysFrom (places : UInt32) : List Step → List (Key × UInt32)
  | [] => []
  | step :: steps =>
      step.keys.map (fun key => (key, places)) ++ keysFrom (step.placesThen places) steps

end Step

/-- The screen after several keys, each with the decimal places current at it. -/
def Key.applyAll (screen : String) (keys : List (Key × UInt32)) : String :=
  keys.foldl (fun screen key => (key.1.apply screen key.2).value) screen

/-- Keys are applied to the screen that the keys before have left. -/
theorem Key.applyAll_append (screen : String) (keys more : List (Key × UInt32)) :
    Key.applyAll screen (keys ++ more) = Key.applyAll (Key.applyAll screen keys) more :=
  List.foldl_append

/-! ### Traces -/

/-- The working in the trace of an expression is made of its tokens and of their postfix order. -/
theorem Trace.working_of (expression : String) :
    (Trace.of expression).toWorking =
      ⟨Token.joined (Token.scan expression).value, (toRpn expression).value⟩ := by
  simp [Trace.of, explain, toRpn]

/-- The empty trace is that of the empty expression. -/
theorem Trace.of_empty : Trace.of "" = {} := rfl

namespace Calculator

variable (c : Calculator)

/-- The calculator after a run of steps. -/
def after (steps : List Step) : Calculator := Logged.after advance c steps

/-- Without steps the calculator is kept. -/
@[simp] theorem after_nil : c.after [] = c := rfl

/-- The first step is followed by the others. -/
@[simp] theorem after_cons (step : Step) (steps : List Step) :
    c.after (step :: steps) = (c.advance step).value.after steps := rfl

/-- A run goes on from where an earlier one has ended. -/
theorem after_append (steps more : List Step) :
    c.after (steps ++ more) = (c.after steps).after more := Logged.after_append ..

/-! ### One step -/

/-- Several keys that are not the equals key: each changes the screen, and the focus is asked for if
there is a key at all. -/
theorem value_pressAll {keys : List Key} (h : Key.equals ∉ keys) :
    (c.pressAll keys).value =
      { c with
        screen := Key.applyAll c.screen (keys.map fun key => (key, c.settings.places))
        focusDue := c.focusDue || !keys.isEmpty } := by
  induction keys generalizing c with
  | nil => simp [pressAll, Key.applyAll]
  | cons key keys ih =>
      rw [List.mem_cons, not_or] at h
      obtain ⟨hkey, hkeys⟩ := h
      have hcons : (c.pressAll (key :: keys)).value =
          ((c.press key).value.pressAll keys).value := by
        simp [pressAll]
      rw [hcons, ih _ hkeys, value_press]
      simp [Key.applyAll, Ne.symm hkey]

/-- The characters of a text are typed without the equals key. -/
theorem equals_not_mem_characters (text : String) :
    Key.equals ∉ text.toList.map Key.character := by
  simp

/-- A step that assigns no screen text changes the screen by the keys it presses. -/
theorem screen_advance {step : Step} (h : ¬ step.AssignsScreen) :
    (c.advance step).value.screen =
      Key.applyAll c.screen (step.keys.map fun key => (key, c.settings.places)) := by
  cases step with
  | press key =>
      rw [advance, value_press]
      rfl
  | type text =>
      rw [advance, value_pressAll c (equals_not_mem_characters text)]
      rfl
  | setScreen screen => exact absurd trivial h
  | setPlaces places => rfl
  | setFocusDue due => rfl

/-- A step changes nothing in the settings but the decimal places, and those only by assigning
them. -/
theorem settings_advance (step : Step) :
    (c.advance step).value.settings =
      { c.settings with places := step.placesThen c.settings.places } := by
  cases step with
  | press key =>
      rw [advance, value_press]
      rfl
  | type text =>
      rw [advance, value_pressAll c (equals_not_mem_characters text)]
      rfl
  | setScreen screen => rfl
  | setPlaces places => rfl
  | setFocusDue due => rfl

/-- Only the equals key changes the trace. -/
theorem trace_advance {step : Step} (h : step ≠ .press .equals) :
    (c.advance step).value.trace = c.trace := by
  cases step with
  | press key =>
      have hkey : key ≠ .equals := fun hkey => h (congrArg Step.press hkey)
      rw [advance, value_press]
      exact if_neg hkey
  | type text => rw [advance, value_pressAll c (equals_not_mem_characters text)]
  | setScreen screen => rfl
  | setPlaces places => rfl
  | setFocusDue due => rfl

/-- The equals key keeps the trace of the screen. -/
theorem trace_advance_equals : (c.advance (.press .equals)).value.trace = Trace.of c.screen := by
  rw [advance, value_press]
  rfl

/-! ### Runs of steps -/

/-- Of the settings only the decimal places change, to those last chosen. -/
theorem settings_after (steps : List Step) :
    (c.after steps).settings =
      { c.settings with places := Step.placesAfter c.settings.places steps } := by
  induction steps generalizing c with
  | nil => rfl
  | cons step steps ih =>
      rw [after_cons, ih, settings_advance]
      rfl

/-- Without an assignment of the screen text the screen is the fold of the keys. -/
theorem screen_after {steps : List Step} (h : ∀ step ∈ steps, ¬ step.AssignsScreen) :
    (c.after steps).screen = Key.applyAll c.screen (Step.keysFrom c.settings.places steps) := by
  induction steps generalizing c with
  | nil => rfl
  | cons step steps ih =>
      have hstep := c.screen_advance (h step List.mem_cons_self)
      rw [after_cons, ih _ fun s hs => h s (List.mem_cons_of_mem step hs), hstep, settings_advance,
        ← Key.applyAll_append]
      rfl

/-- Without the equals key the trace stays. -/
theorem trace_after {steps : List Step} (h : Step.press .equals ∉ steps) :
    (c.after steps).trace = c.trace := by
  induction steps generalizing c with
  | nil => rfl
  | cons step steps ih =>
      rw [List.mem_cons, not_or] at h
      obtain ⟨hstep, hsteps⟩ := h
      rw [after_cons, ih _ hsteps, c.trace_advance (Ne.symm hstep)]

/-- The equals key pressed last decides the trace. -/
theorem trace_after_equals (before : List Step) {since : List Step}
    (h : Step.press .equals ∉ since) :
    (c.after (before ++ .press .equals :: since)).trace = Trace.of (c.after before).screen := by
  rw [after_append, after_cons, trace_after _ h, trace_advance_equals]

/-- The trace of a run belongs to one expression. -/
theorem trace_after_eq_of (steps : List Step) (h : c.trace = Trace.of c.trace.expression) :
    (c.after steps).trace = Trace.of (c.after steps).trace.expression := by
  induction steps generalizing c with
  | nil => exact h
  | cons step steps ih =>
      refine ih _ ?_
      by_cases hstep : step = .press .equals
      · rw [hstep, trace_advance_equals]
        rfl
      · rw [c.trace_advance hstep]
        exact h

/-- What the state `c` says about the run of steps that has led to it from a new calculator. -/
structure Records (c : Calculator) (settings : Settings) (steps : List Step) : Prop where
  /-- The screen is the fold of the keys since the last assignment of its text. -/
  screen_since : ∀ before screen since, steps = before ++ .setScreen screen :: since →
    (∀ step ∈ since, ¬ step.AssignsScreen) →
    c.screen = Key.applyAll screen
      (Step.keysFrom (Step.placesAfter settings.places before) since)
  /-- Without an assignment it is the fold of all keys, from the empty text. -/
  screen_unassigned : (∀ step ∈ steps, ¬ step.AssignsScreen) →
    c.screen = Key.applyAll "" (Step.keysFrom settings.places steps)
  /-- The expression of the trace is the screen text that the last equals key has found. -/
  expression_since : ∀ before since, steps = before ++ .press .equals :: since →
    Step.press .equals ∉ since →
    c.trace.expression = (after { settings := settings } before).screen
  /-- Without an equals key it is empty. -/
  expression_unasked : Step.press .equals ∉ steps → c.trace.expression = ""
  /-- The working of the trace is that of its expression. -/
  working_eq : c.trace.toWorking =
    ⟨Token.joined (Token.scan c.trace.expression).value, (toRpn c.trace.expression).value⟩
  /-- The settings are the initial ones, with the decimal places assigned last. -/
  settings_eq : c.settings =
    { settings with places := Step.placesAfter settings.places steps }
  /-- No key changes the settings. -/
  settings_press : ∀ key, (c.press key).value.settings = c.settings
  /-- Only the equals key changes the trace. -/
  trace_press : ∀ key, key ≠ .equals → (c.press key).value.trace = c.trace

/-- **Every state of the calculator records the run that has led to it**: the screen holds the keys
since its last assignment, the trace is that of the last computation, and the settings change by
assignment only. -/
theorem records_after (settings : Settings) (steps : List Step) :
    Records (after { settings := settings } steps) settings steps where
  screen_since before screen since hsteps hsince := by
    rw [hsteps, after_append, after_cons, screen_after _ hsince]
    have hplaces := settings_after { settings := settings } before
    simp only [advance, Logged.value_pure, hplaces]
  screen_unassigned hsteps := screen_after _ hsteps
  expression_since before since hsteps hsince := by
    rw [hsteps, trace_after_equals _ _ hsince]
    rfl
  expression_unasked hsteps := by rw [trace_after _ hsteps]
  working_eq := by
    have htrace := trace_after_eq_of { settings := settings } steps Trace.of_empty.symm
    rw [← Trace.working_of, ← htrace]
  settings_eq := settings_after _ steps
  settings_press key := settings_advance _ (.press key)
  trace_press key hkey := trace_advance _ fun h => hkey (Step.press.inj h)

end Calculator

end PocketCalculator
