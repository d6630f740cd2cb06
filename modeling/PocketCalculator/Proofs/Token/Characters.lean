import PocketCalculator.Token.Scanner
import PocketCalculator.Proofs.Decimal.Literal

/-!
# What one character does to a scan

One lemma for each kind of character. Characters of literals gather in the run; every other
character first ends the run, which `flush` describes, and then either is ignored, or leaves a minus
sign waiting, or adds a token. A text of ignored characters, a `Gap`, therefore only ends the run
(`flush_foldl_gap`), and does nothing where no run has begun (`foldl_gap`).

`Scanner.Ready` holds of the states in which a literal or an opening bracket may stand: nothing is
half read and an operand is due. From such a state a literal adds its token once the run ends
(`flush_foldl_spaced`).
-/

namespace PocketCalculator

/-! ### Gaps -/

/-- A character that means nothing in an expression: not a digit, a point, an operator or a
bracket. -/
def Ignored (c : Char) : Prop :=
  c ∉ ['0', '1', '2', '3', '4', '5', '6', '7', '8', '9', '.', '+', '-', '*', '/', '(', ')']

instance (c : Char) : Decidable (Ignored c) := inferInstanceAs (Decidable (c ∉ _))

/-- A text of characters that mean nothing. -/
def Gap (text : List Char) : Prop := ∀ c ∈ text, Ignored c

/-- The empty text is a gap. -/
theorem gap_nil : Gap [] := fun _ h => absurd h List.not_mem_nil

/-- The digits are the ten characters from `0` to `9`. -/
theorem mem_digits_of_isDigit {c : Char} (h : c.isDigit = true) :
    c ∈ ['0', '1', '2', '3', '4', '5', '6', '7', '8', '9'] := by
  have hbounds : 48 ≤ c.toNat ∧ c.toNat ≤ 57 := by
    simpa [Char.isDigit, UInt32.le_iff_toNat_le] using h
  have hval : c.toNat ∈ [48, 49, 50, 51, 52, 53, 54, 55, 56, 57] := by
    simp only [List.mem_cons, List.not_mem_nil, or_false]
    omega
  rw [← Char.ofNat_toNat c]
  have hmap := List.mem_map_of_mem (f := Char.ofNat) hval
  simpa using hmap

/-- The symbol of an operator is read as the operator. -/
@[simp] theorem Token.ofSymbol?_symbol (op : Operator) :
    Token.ofSymbol? op.symbol = some (.operation op) :=
  Token.ofSymbol?_eq_some_iff.mpr (.operation op)

namespace Scanner

variable (s : Scanner)

/-- An ignored character is not part of a literal. -/
theorem isLiteralChar_of_ignored {c : Char} (h : Ignored c) : isLiteralChar c = false := by
  cases hc : isLiteralChar c with
  | false => rfl
  | true =>
      rcases (by simpa [isLiteralChar] using hc : c.isDigit = true ∨ c = '.') with hd | rfl
      · have := mem_digits_of_isDigit hd
        exact absurd (List.mem_append_left _ this) h
      · exact absurd (by decide) h

/-! ### The end of a run -/

/-- After its end no run has begun, -/
@[simp] theorem run_flush : s.flush.run = [] := by
  unfold flush
  split
  case isTrue h => simpa using h
  case isFalse h =>
    dsimp only
    generalize Token.ofLiteral _ = token
    cases token <;> rfl

/-- and where none has begun there is nothing to end, -/
theorem flush_of_run_nil {s : Scanner} (h : s.run = []) : s.flush = s := by
  simp [flush, h]

/-- so that ending a run twice is ending it once. -/
@[simp] theorem flush_flush : s.flush.flush = s.flush := flush_of_run_nil s.run_flush

/-! ### Single characters -/

/-- A character of a literal goes on with the run. -/
theorem step_of_isLiteralChar {c : Char} (h : isLiteralChar c = true) :
    s.step c = { s with run := c :: s.run } := by
  simp [step, h]

/-- A symbol is neither part of a literal nor ignored. -/
theorem isLiteralChar_of_ofSymbol? {c : Char} {token : Token}
    (h : Token.ofSymbol? c = some token) : isLiteralChar c = false ∧ ¬ Ignored c := by
  cases Token.ofSymbol?_eq_some_iff.mp h with
  | operation op => cases op <;> decide
  | openBracket => decide
  | closeBracket => decide

/-- An ignored character only ends the run. -/
theorem step_of_ignored {c : Char} (h : Ignored c) : s.step c = s.flush := by
  have hsymbol : Token.ofSymbol? c = none :=
    Option.eq_none_iff_forall_ne_some.mpr fun _ hc => (isLiteralChar_of_ofSymbol? hc).2 h
  have hminus : c ≠ '-' := by
    rintro rfl
    exact h (by decide)
  simp [step, isLiteralChar_of_ignored h, separate, hminus, hsymbol]

/-- A symbol ends the run and adds its token, unless it is a minus sign where an operand is due. -/
theorem step_of_symbol {c : Char} {token : Token} (hc : Token.ofSymbol? c = some token)
    (h : c = '-' → s.flush.awaitsOperand = false) :
    s.step c = { s.flush with tokens := token :: s.flush.tokens } := by
  have hliteral := (isLiteralChar_of_ofSymbol? hc).1
  have hsign : ¬ (c = '-' ∧ s.flush.awaitsOperand = true) := by
    rintro ⟨hminus, hdue⟩
    rw [h hminus] at hdue
    cases hdue
  simp [step, hliteral, separate, hsign, hc]

/-- A minus sign where an operand is due waits for the next literal. -/
theorem step_minus (h : s.flush.awaitsOperand = true) :
    s.step '-' = { s.flush with signed := true } := by
  have hliteral : isLiteralChar '-' = false := by decide
  simp [step, hliteral, separate, h]

/-! ### Texts -/

/-- Characters of literals gather in the run. -/
theorem foldl_step_of_isLiteralChar {text : List Char} (h : ∀ c ∈ text, isLiteralChar c = true) :
    text.foldl step s = { s with run := text.reverse ++ s.run } := by
  induction text generalizing s with
  | nil => rfl
  | cons c text ih =>
      rw [List.foldl_cons, s.step_of_isLiteralChar (h c List.mem_cons_self),
        ih _ fun d hd => h d (List.mem_cons_of_mem c hd)]
      simp

/-- Where no run has begun, a gap does nothing. -/
theorem foldl_gap {s : Scanner} {u : List Char} (hu : Gap u) (h : s.run = []) :
    u.foldl step s = s := by
  induction u with
  | nil => rfl
  | cons c u ih =>
      rw [List.foldl_cons, s.step_of_ignored (hu c List.mem_cons_self), flush_of_run_nil h]
      exact ih fun d hd => hu d (List.mem_cons_of_mem c hd)

/-- A gap only ends the run. -/
theorem flush_foldl_gap {u : List Char} (hu : Gap u) : (u.foldl step s).flush = s.flush := by
  cases u with
  | nil => rfl
  | cons c u =>
      rw [List.foldl_cons, s.step_of_ignored (hu c List.mem_cons_self),
        foldl_gap (fun d hd => hu d (List.mem_cons_of_mem c hd)) s.run_flush, flush_flush]

/-! ### Literals where an operand is due -/

/-- Nothing is half read, and an operand is due. -/
structure Ready : Prop where
  run_nil : s.run = []
  unsigned : s.signed = false
  awaits : s.awaitsOperand = true

/-- The state before the first character. -/
theorem ready_init : Ready {} := ⟨rfl, rfl, rfl⟩

/-- After a token that awaits an operand, with nothing half read. -/
theorem Ready.push {s : Scanner} (h : s.Ready) {token : Token}
    (htoken : token.awaitsOperand = true) (tokens : List Token) :
    Ready { s with tokens := token :: tokens } :=
  ⟨h.run_nil, h.unsigned, htoken⟩

/-- The run of a literal ends as its token. -/
theorem flush_literal (l : Literal) (tokens : List Token) (journal : List Event) :
    flush ⟨tokens, l.unsigned.reverse, l.negative, journal⟩ =
      ⟨l.operand.token :: tokens, [], false, journal⟩ := by
  have hrun : l.unsigned.reverse.isEmpty = false := by simpa using l.unsigned_ne_nil
  have hchars : (if l.negative = true then '-' :: l.unsigned else l.unsigned) = l.chars := rfl
  simp only [flush, hrun, Bool.false_eq_true, if_false, List.reverse_reverse, hchars,
    l.ofLiteral_chars]
  rfl

/-- Where an operand is due, a literal, with a gap after its sign, adds its token. -/
theorem flush_foldl_spaced {s : Scanner} (h : s.Ready) (l : Literal) {u : List Char} (hu : Gap u) :
    ((l.spaced u).foldl step s).flush = { s with tokens := l.operand.token :: s.tokens } := by
  obtain ⟨tokens, run, signed, journal⟩ := s
  obtain rfl : run = [] := h.run_nil
  obtain rfl : signed = false := h.unsigned
  have hall : ∀ c ∈ l.unsigned, isLiteralChar c = true := by
    intro c hc
    simpa [isLiteralChar] using l.isDigit_or_point_of_mem_unsigned hc
  have hend := flush_literal l tokens journal
  unfold Literal.spaced
  cases hneg : l.negative with
  | false =>
      rw [hneg] at hend
      simpa [foldl_step_of_isLiteralChar _ hall] using hend
  | true =>
      rw [hneg] at hend
      have hminus : step ⟨tokens, [], false, journal⟩ '-' = ⟨tokens, [], true, journal⟩ :=
        step_minus _ h.awaits
      simpa [hminus, foldl_gap hu, foldl_step_of_isLiteralChar _ hall] using hend

end Scanner

end PocketCalculator
