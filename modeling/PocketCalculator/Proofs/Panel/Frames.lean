import Mathlib.Data.List.Nodup
import PocketCalculator.Panel
import PocketCalculator.Proofs.Calculator.Press
import PocketCalculator.Proofs.Journal.Runs

/-!
# What a frame does to the panel

One equation for each part of a frame, and for runs of frames. `Panel.after` is the panel at the end
of a run, and `Frame.key?` is the key of the pad that a frame clicks, if it clicks one. Which labels
are keys, and what they press, is said by `Key.Labelled` (`padKey?_eq_some_iff`).
-/

namespace PocketCalculator

/-! ### The labels of the pad -/

/-- `Key.Labelled label key`: the label is on the pad, and a click on it presses the key. -/
inductive Key.Labelled : String → Key → Prop where
  /-- Digits, the point, operators and brackets stand for themselves. -/
  | character {c : Char} (h : c ∈ ['0', '1', '2', '3', '4', '5', '6', '7', '8', '9', '.', '+', '-',
      '*', '/', '(', ')']) : Labelled (String.singleton c) (.character c)
  | clear : Labelled "C" .clear
  | equals : Labelled "=" .equals

/-- The characters on the pad. -/
theorem character_mem_padKeys_iff {c : Char} :
    Key.character c ∈ padKeys ↔ c ∈ ['0', '1', '2', '3', '4', '5', '6', '7', '8', '9', '.', '+',
      '-', '*', '/', '(', ')'] := by
  simp only [padKeys, padRows, List.flatten_cons, List.flatten_nil, List.mem_append,
    List.mem_cons, List.not_mem_nil, Key.character.injEq, reduceCtorEq, or_false, false_or]
  tauto

/-- Every key of the pad is on it with its label, -/
theorem Key.labelled_of_mem_padKeys {key : Key} (h : key ∈ padKeys) : Labelled key.label key := by
  cases key with
  | character c => exact .character (character_mem_padKeys_iff.mp h)
  | clear => exact .clear
  | equals => exact .equals

/-- and every label has its key there. -/
theorem Key.Labelled.mem_padKeys {label : String} {key : Key} (h : Labelled label key) :
    key ∈ padKeys ∧ key.label = label := by
  cases h with
  | character hc => exact ⟨character_mem_padKeys_iff.mpr hc, rfl⟩
  | clear => exact ⟨by decide, rfl⟩
  | equals => exact ⟨by decide, rfl⟩

/-- No two keys of the pad have the same label, -/
theorem nodup_labels_padKeys : (padKeys.map fun key => key.label.toList).Nodup := by decide

/-- so a label presses one key only. -/
theorem Key.Labelled.unique {label : String} {key key' : Key} (h : Labelled label key)
    (h' : Labelled label key') : key = key' := by
  obtain ⟨hmem, hlabel⟩ := h.mem_padKeys
  obtain ⟨hmem', hlabel'⟩ := h'.mem_padKeys
  refine List.inj_on_of_nodup_map nodup_labels_padKeys hmem hmem' ?_
  rw [hlabel, hlabel']

/-- The key of a label is the one that the label presses. -/
theorem padKey?_eq_some_iff {label : String} {key : Key} :
    padKey? label = some key ↔ Key.Labelled label key := by
  have hfound {found : Key} (h : padKey? label = some found) : Key.Labelled label found := by
    have hlabel : found.label = label := by simpa using List.find?_some h
    rw [← hlabel]
    exact Key.labelled_of_mem_padKeys (List.mem_of_find?_eq_some h)
  refine ⟨hfound, fun h => ?_⟩
  obtain ⟨hmem, hlabel⟩ := h.mem_padKeys
  have hsome : (padKey? label).isSome := List.find?_isSome.mpr ⟨key, hmem, by simpa using hlabel⟩
  obtain ⟨found, hfind⟩ := Option.isSome_iff_exists.mp hsome
  rw [hfind, (hfound hfind).unique h]

/-- The key of the pad that a frame clicks. -/
def Frame.key? (f : Frame) : Option Key := f.click.bind padKey?

/-- A frame clicks a key if it clicks a label that presses it. -/
theorem Frame.key?_eq_some_iff {f : Frame} {key : Key} :
    f.key? = some key ↔ ∃ label, f.click = some label ∧ Key.Labelled label key := by
  simp only [key?, Option.bind_eq_some_iff, padKey?_eq_some_iff]

namespace Panel

/-- The panel at the end of a run of frames. -/
def after (p : Panel) (frames : List Frame) : Panel := Logged.after frame p frames

/-- Without frames the panel is kept. -/
@[simp] theorem after_nil (p : Panel) : p.after [] = p := rfl

/-- The first frame is followed by the others. -/
@[simp] theorem after_cons (p : Panel) (f : Frame) (frames : List Frame) :
    p.after (f :: frames) = (p.frame f).value.after frames := rfl

/-- A run goes on from where an earlier one has ended. -/
theorem after_append (p : Panel) (frames more : List Frame) :
    p.after (frames ++ more) = (p.after frames).after more := Logged.after_append ..

/-! ### The parts of a frame -/

/-- A key is pressed on the calculator. -/
theorem value_press (p : Panel) (key : Key) :
    (p.press key).value = { p with calculator := (p.calculator.press key).value } := rfl

/-- A new text on the screen does not ask for the focus, -/
theorem focusDue_takeScreen (p : Panel) (screen : Option String) :
    (p.takeScreen screen).calculator.focusDue = p.calculator.focusDue := by
  cases screen <;> rfl

/-- and it takes the place of the one before. -/
theorem screen_takeScreen (p : Panel) (screen : Option String) :
    (p.takeScreen screen).calculator.screen = screen.getD p.calculator.screen := by
  cases screen <;> rfl

/-- Escape, if it is pressed. -/
def takeEscape (p : Panel) (escape : Bool) : Panel :=
  if escape then (p.press .clear).value else p

/-- The click, if there is one. -/
def takeLabel (p : Panel) : Option String → Panel
  | some label => (p.takeClick label).value
  | none => p

/-- A frame is its four parts, one after another. -/
theorem value_frame (p : Panel) (f : Frame) :
    (p.frame f).value = Panel.takeLabel
      (((p.takeScreen f.screen).takeEscape f.escape).takeEnter f.enter).value f.click := by
  unfold frame
  cases f.escape <;> cases f.click <;> rfl

/-- Without Enter the text field only spends the request for the focus. -/
theorem value_takeEnter_false (p : Panel) :
    (p.takeEnter false).value =
      { p with calculator := { p.calculator with focusDue := false } } := by
  unfold takeEnter
  split
  case isTrue h => rfl
  case isFalse h =>
    have hfalse : p.calculator.focusDue = false := by simpa using h
    simp [← hfalse]

/-- With Enter the text field presses the equals key if the request for the focus is pending, and
does nothing otherwise. -/
theorem value_takeEnter_true (p : Panel) :
    (p.takeEnter true).value =
      if p.calculator.focusDue then (p.press .equals).value else p := by
  unfold takeEnter
  split
  case isTrue h =>
    simp only [if_true, value_press, Calculator.value_press]
  case isFalse h => rfl

/-- A click on a key presses it. -/
theorem takeClick_of_key (p : Panel) {label : String} {key : Key} (h : padKey? label = some key) :
    p.takeClick label = p.press key := by
  simp only [takeClick, h]

/-- Any other click leaves the calculator alone. -/
theorem calculator_takeClick_of_none (p : Panel) {label : String} (h : padKey? label = none) :
    (p.takeClick label).value.calculator = p.calculator := by
  simp only [takeClick, h]
  split <;> rfl

end Panel

end PocketCalculator
