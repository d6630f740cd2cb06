import Mathlib.Data.Nat.Init
import PocketCalculator.Token.Basic

/-!
# Brackets and their partners

Which brackets of an expression belong together. Nothing is refused, so brackets without a partner
are as much a part of an expression as pairs are. Pairs are described by their inside: an opening
and a closing bracket are partners if the brackets between them are themselves in pairs
(`Balanced`). From this an opening bracket is `Closed` by what follows it and a closing one `Opened`
by what comes before it, `unclosed` counts the opening brackets without a partner, and `AllClosed`
and `NoneStray` say that one kind has none without.

All of this is computed from the right, by `stray`, the number of closing brackets that have no
partner: an opening bracket takes away one of those that follow it. The two counts determine the
rest.

* **`closed_iff`**, **`opened_iff`**: a bracket has a partner exactly if the count on that side is
  positive;
* **`balanced_iff`**: brackets are in pairs exactly if none of either kind is without a partner.
-/

namespace PocketCalculator

namespace Brackets

/-- What a bracket does. -/
inductive Side where
  | opening
  | closing
deriving DecidableEq, Repr

open Side (opening closing)

/-! ### Partners -/

/-- The brackets are in pairs. -/
inductive Balanced : List Side → Prop where
  | nil : Balanced []
  /-- A pair with pairs inside, and pairs after it. -/
  | pair {inner rest : List Side} (inside : Balanced inner) (outside : Balanced rest) :
      Balanced (opening :: (inner ++ closing :: rest))

/-- An opening bracket directly before these brackets has a partner among them. -/
def Closed (after : List Side) : Prop :=
  ∃ inner rest, after = inner ++ closing :: rest ∧ Balanced inner

/-- A closing bracket directly after these brackets has a partner among them. -/
def Opened (before : List Side) : Prop :=
  ∃ rest inner, before = rest ++ opening :: inner ∧ Balanced inner

/-- Every opening bracket has a partner. -/
def AllClosed (brackets : List Side) : Prop :=
  ∀ before after, brackets = before ++ opening :: after → Closed after

/-- Every closing bracket has a partner. -/
def NoneStray (brackets : List Side) : Prop :=
  ∀ before after, brackets = before ++ closing :: after → Opened before

/-! ### Closing brackets without a partner -/

/-- The number of closing brackets without a partner. An opening bracket is the partner of the first
of those that follow it. -/
def stray : List Side → ℕ
  | [] => 0
  | opening :: after => stray after - 1
  | closing :: after => stray after + 1

/-- Nothing has no brackets without a partner. -/
@[simp] theorem stray_nil : stray [] = 0 := rfl

/-- An opening bracket takes one of the closing ones that had none, if there is one. -/
@[simp] theorem stray_opening (after : List Side) :
    stray (opening :: after) = stray after - 1 := rfl

/-- A closing bracket finds no partner after it. -/
@[simp] theorem stray_closing (after : List Side) :
    stray (closing :: after) = stray after + 1 := rfl

variable {brackets : List Side}

/-- Pairs have no effect on the brackets after them. -/
theorem Balanced.stray_append (h : Balanced brackets) (rest : List Side) :
    stray (brackets ++ rest) = stray rest := by
  induction h generalizing rest with
  | nil => rfl
  | pair inside outside ihInside ihOutside => simp [ihInside, ihOutside]

/-- If a closing bracket has no partner, there is a first one. -/
theorem closed_of_stray_pos : (after : List Side) → 0 < stray after → Closed after
  | [], h => absurd h (Nat.lt_irrefl 0)
  | closing :: after, _ => ⟨[], after, rfl, .nil⟩
  | opening :: after, h => by
      -- The opening bracket takes the first one, so the second one is the first that is left.
      obtain ⟨inner, rest, hafter, hinner⟩ := closed_of_stray_pos after (Nat.lt_of_lt_pred h)
      have hshorter : rest.length < after.length := by simp [hafter]; omega
      have hrest : 0 < stray rest := by simpa [hafter, hinner.stray_append] using h
      obtain ⟨outer, last, hsplit, houter⟩ := closed_of_stray_pos rest hrest
      exact ⟨opening :: (inner ++ closing :: outer), last, by simp [hafter, hsplit],
        .pair hinner houter⟩
termination_by after => after.length
decreasing_by
  · exact Nat.lt_succ_self _
  · exact Nat.lt_succ_of_lt hshorter

/-- An opening bracket has a partner exactly if a closing one after it had none. -/
theorem closed_iff {after : List Side} : Closed after ↔ 0 < stray after := by
  constructor
  · rintro ⟨inner, rest, rfl, hinner⟩
    simp [hinner.stray_append]
  · exact closed_of_stray_pos after

instance (after : List Side) : Decidable (Closed after) := decidable_of_iff _ closed_iff.symm

/-! ### Opening brackets without a partner -/

/-- The number of opening brackets without a partner. -/
def unclosed : List Side → ℕ
  | [] => 0
  | opening :: after => if Closed after then unclosed after else unclosed after + 1
  | closing :: after => unclosed after

/-- Nothing has no opening brackets without a partner. -/
@[simp] theorem unclosed_nil : unclosed [] = 0 := rfl

/-- An opening bracket lacks a partner if no closing one after it lacked one. -/
@[simp] theorem unclosed_opening (after : List Side) :
    unclosed (opening :: after) = unclosed after + (1 - stray after) := by
  rw [unclosed]
  split
  case isTrue h =>
    rw [Nat.sub_eq_zero_of_le (closed_iff.mp h), Nat.add_zero]
  case isFalse h =>
    rw [Nat.eq_zero_of_not_pos fun hpos => h (closed_iff.mpr hpos)]

/-- A closing bracket is none itself, nor the partner of those after it. -/
@[simp] theorem unclosed_closing (after : List Side) :
    unclosed (closing :: after) = unclosed after := rfl

/-- Where two lists meet, opening brackets of the first and closing brackets of the second that
had no partner become partners, as many as there are of both. -/
theorem stray_append (first second : List Side) :
    stray (first ++ second) = stray first + (stray second - unclosed first) := by
  induction first with
  | nil => simp
  | cons bracket first ih =>
      cases bracket with
      | opening =>
          simp only [List.cons_append, stray_opening, unclosed_opening, ih]
          omega
      | closing =>
          simp only [List.cons_append, stray_closing, unclosed_closing, ih]
          omega

/-- Besides those of the second list, the opening brackets of the first one that the second one does
not close still have no partner. -/
theorem unclosed_append (first second : List Side) :
    unclosed (first ++ second) = unclosed second + (unclosed first - stray second) := by
  induction first with
  | nil => simp
  | cons bracket first ih =>
      cases bracket with
      | opening =>
          simp only [List.cons_append, unclosed_opening, ih, stray_append]
          omega
      | closing =>
          simp only [List.cons_append, unclosed_closing, ih]

/-! ### Pairs by counting -/

/-- Among pairs no closing bracket lacks a partner, -/
theorem Balanced.stray_eq_zero (h : Balanced brackets) : stray brackets = 0 := by
  simpa using h.stray_append []

/-- and no opening one. -/
theorem Balanced.unclosed_eq_zero (h : Balanced brackets) : unclosed brackets = 0 := by
  induction h with
  | nil => rfl
  | pair inside outside ihInside ihOutside =>
      simp [unclosed_append, inside.stray_append, ihInside, ihOutside]

/-- Without brackets of either kind that have no partner there are only pairs. -/
theorem balanced_of_eq_zero :
    (brackets : List Side) → stray brackets = 0 → unclosed brackets = 0 → Balanced brackets
  | [], _, _ => .nil
  | closing :: after, hstray, _ => absurd hstray (Nat.succ_ne_zero _)
  | opening :: after, hstray, hunclosed => by
      have hpos : 0 < stray after := by
        simp only [unclosed_opening] at hunclosed
        omega
      obtain ⟨inner, rest, hafter, hinner⟩ := closed_of_stray_pos after hpos
      have hshorter : rest.length < after.length := by simp [hafter]; omega
      have hrest : stray rest = 0 := by simpa [hafter, hinner.stray_append] using hstray
      have hclosed : unclosed rest = 0 := by
        simpa [hafter, unclosed_append, hinner.unclosed_eq_zero, hinner.stray_append]
          using hunclosed
      rw [hafter]
      exact .pair hinner (balanced_of_eq_zero rest hrest hclosed)
termination_by brackets => brackets.length
decreasing_by exact Nat.lt_succ_of_lt hshorter

/-- If an opening bracket has no partner, there is a last one. -/
theorem opened_of_unclosed_pos : (before : List Side) → 0 < unclosed before → Opened before
  | [], h => absurd h (Nat.lt_irrefl 0)
  | bracket :: before, h => by
      by_cases hbefore : 0 < unclosed before
      · obtain ⟨rest, inner, rfl, hinner⟩ := opened_of_unclosed_pos before hbefore
        exact ⟨bracket :: rest, inner, rfl, hinner⟩
      · -- All the others have a partner, so it is the first bracket, and pairs follow it.
        obtain hzero := Nat.eq_zero_of_not_pos hbefore
        cases bracket with
        | closing => exact absurd h hbefore
        | opening =>
            have hstray : stray before = 0 := by
              simp only [unclosed_opening] at h
              omega
            exact ⟨[], before, rfl, balanced_of_eq_zero before hstray hzero⟩

/-- A closing bracket has a partner exactly if an opening one before it had none. -/
theorem opened_iff {before : List Side} : Opened before ↔ 0 < unclosed before := by
  constructor
  · rintro ⟨rest, inner, rfl, hinner⟩
    simp only [unclosed_append, unclosed_opening, hinner.stray_eq_zero, hinner.unclosed_eq_zero]
    omega
  · exact opened_of_unclosed_pos before

/-! ### Brackets that all have partners -/

/-- Every opening bracket has a partner exactly if none is counted as unclosed. -/
theorem allClosed_iff : AllClosed brackets ↔ unclosed brackets = 0 := by
  constructor
  · intro h
    induction brackets with
    | nil => rfl
    | cons bracket after ih =>
        have hafter := ih fun before rest hsplit => h (bracket :: before) rest (by rw [hsplit]; rfl)
        cases bracket with
        | opening =>
            have hclosed := closed_iff.mp (h [] after rfl)
            rw [unclosed_opening, hafter]
            omega
        | closing => exact hafter
  · rintro h before after rfl
    rw [closed_iff]
    simp only [unclosed_append, unclosed_opening] at h
    omega

/-- Every closing bracket has a partner exactly if none is counted as stray. -/
theorem noneStray_iff : NoneStray brackets ↔ stray brackets = 0 := by
  constructor
  · intro h
    refine Nat.eq_zero_of_not_pos fun hpos => ?_
    obtain ⟨inner, rest, rfl, hinner⟩ := closed_iff.mpr hpos
    have hopened := opened_iff.mp (h inner rest rfl)
    rw [hinner.unclosed_eq_zero] at hopened
    exact absurd hopened (Nat.lt_irrefl 0)
  · rintro h before after rfl
    rw [opened_iff]
    simp only [stray_append, stray_closing] at h
    omega

/-- Brackets are in pairs exactly if none of either kind is without a partner. -/
theorem balanced_iff : Balanced brackets ↔ AllClosed brackets ∧ NoneStray brackets := by
  rw [allClosed_iff, noneStray_iff]
  exact ⟨fun h => ⟨h.unclosed_eq_zero, h.stray_eq_zero⟩,
    fun h => balanced_of_eq_zero brackets h.2 h.1⟩

instance (brackets : List Side) : Decidable (AllClosed brackets) :=
  decidable_of_iff _ allClosed_iff.symm

instance (brackets : List Side) : Decidable (NoneStray brackets) :=
  decidable_of_iff _ noneStray_iff.symm

instance (brackets : List Side) : Decidable (Balanced brackets) :=
  decidable_of_iff _ balanced_iff.symm

/-- The first bracket has no partner, the last one has none either. -/
example : stray [closing, opening, closing, opening] = 1 ∧
    unclosed [closing, opening, closing, opening] = 1 := by decide

/-- The bracket that a character is. -/
def Side.ofChar? : Char → Option Side
  | '(' => some opening
  | ')' => some closing
  | _ => none

/-- The brackets of a text, in their order. -/
def ofText (text : String) : List Side := text.toList.filterMap Side.ofChar?

end Brackets

/-- The bracket that a token is. -/
def Token.bracket? : Token → Option Brackets.Side
  | .openBracket => some .opening
  | .closeBracket => some .closing
  | _ => none

/-- The brackets of a list of tokens, in their order. -/
def Token.brackets (tokens : List Token) : List Brackets.Side := tokens.filterMap bracket?

end PocketCalculator
