import PocketCalculator.Proofs.Token.Characters

/-!
# Lexemes

What a scan finds in a text, said without the scan. The lexemes of a text are its maximal runs of
digits and points, and its operator and bracket characters, in order; all else only separates runs
(`lexemes`). No character that means something is lost (`flatMap_chars_lexemes`).

Whether a minus sign belongs to a literal is a matter of its place among the lexemes. A place is
described by the lexemes before it, the nearest first. At a place where an operand is due
(`OperandDue`) a minus sign is unary; earlier unary signs are passed over in deciding that. A run is
signed (`Signed`) if a unary sign stands somewhere between it and the run before. `Lexeme.tokens`
puts these together: the tokens of a list of lexemes, each read at its place.
-/

namespace PocketCalculator

open Scanner (isLiteralChar)

/-- A part of a text that means something. -/
inductive Lexeme where
  /-- Digits and points in a row. -/
  | run (chars : List Char)
  /-- An operator or a bracket. -/
  | symbol (c : Char)
deriving DecidableEq, Repr

/-- The characters of operators and brackets. -/
def Lexeme.symbols : List Char := ['+', '-', '*', '/', '(', ')']

/-! ### The lexemes of a text -/

/-- The lexemes of a text: maximal runs of digits and points, and symbols. -/
def lexemes : List Char → List Lexeme
  | [] => []
  | c :: text =>
      if isLiteralChar c then
        .run (c :: text.takeWhile isLiteralChar) :: lexemes (text.dropWhile isLiteralChar)
      else if c ∈ Lexeme.symbols then
        .symbol c :: lexemes text
      else
        lexemes text
termination_by text => text.length
decreasing_by
  · exact Nat.lt_succ_of_le (List.dropWhile_sublist _).length_le
  · exact Nat.lt_succ_self _
  · exact Nat.lt_succ_self _

/-- The digits and the point are the characters of literals. -/
theorem isLiteralChar_iff {c : Char} :
    isLiteralChar c = true ↔ c ∈ ['0', '1', '2', '3', '4', '5', '6', '7', '8', '9', '.'] := by
  constructor
  · intro h
    rcases (by simpa [isLiteralChar] using h : c.isDigit = true ∨ c = '.') with hd | rfl
    · exact List.mem_append_left ['.'] (mem_digits_of_isDigit hd)
    · decide
  · intro h
    simp only [List.mem_cons, List.not_mem_nil, or_false] at h
    rcases h with rfl | rfl | rfl | rfl | rfl | rfl | rfl | rfl | rfl | rfl | rfl <;> rfl

/-- A character means nothing exactly if it is neither part of a literal nor a symbol. -/
theorem ignored_iff {c : Char} :
    Ignored c ↔ isLiteralChar c = false ∧ c ∉ Lexeme.symbols := by
  have hmem : c ∈ ['0', '1', '2', '3', '4', '5', '6', '7', '8', '9', '.'] ++ Lexeme.symbols ↔
      isLiteralChar c = true ∨ c ∈ Lexeme.symbols := by
    rw [List.mem_append, isLiteralChar_iff]
  rw [← Bool.not_eq_true, ← not_or, ← hmem]
  rfl

namespace Lexeme

/-- The characters of a lexeme. -/
def chars : Lexeme → List Char
  | run chars => chars
  | symbol c => [c]

end Lexeme

/-- The lexemes of a text are made of all its characters that mean something, in order. -/
theorem flatMap_chars_lexemes (text : List Char) :
    (lexemes text).flatMap Lexeme.chars = text.filter fun c => ¬ Ignored c := by
  fun_induction lexemes text with
  | case1 => rfl
  | case2 c text hc ih =>
      have hmeans : ∀ d, isLiteralChar d = true → decide (¬ Ignored d) = true := by
        intro d hd
        simp [ignored_iff, hd]
      have hrun : (text.takeWhile isLiteralChar).filter (fun d => ¬ Ignored d) =
          text.takeWhile isLiteralChar :=
        List.filter_eq_self.mpr fun d hd => hmeans d (List.mem_takeWhile_imp hd)
      have hsplit : text.filter (fun d => ¬ Ignored d) = text.takeWhile isLiteralChar ++
          (text.dropWhile isLiteralChar).filter (fun d => ¬ Ignored d) := by
        rw [← hrun, ← List.filter_append, List.takeWhile_append_dropWhile]
      have hfirst : (c :: text).filter (fun d => ¬ Ignored d) =
          c :: text.filter fun d => ¬ Ignored d := List.filter_cons_of_pos (hmeans c hc)
      rw [List.flatMap_cons, ih, hfirst, hsplit]
      rfl
  | case3 c text hc hsymbol ih =>
      have hfirst : ¬ Ignored c := fun h => (ignored_iff.mp h).2 hsymbol
      rw [List.flatMap_cons, ih, List.filter_cons_of_pos (by simpa using hfirst)]
      rfl
  | case4 c text hc hsymbol ih =>
      have hfirst : Ignored c := ignored_iff.mpr ⟨by simpa using hc, hsymbol⟩
      rw [ih, List.filter_cons_of_neg (by simpa using hfirst)]

/-! ### Places among the lexemes -/

namespace Lexeme

/-- Whether a lexeme is a run. -/
def isRun : Lexeme → Bool
  | run _ => true
  | symbol _ => false

/-- Whether an operand is due after a lexeme: it is an operator or an opening bracket. -/
def awaitsOperand : Lexeme → Bool
  | run _ => false
  | symbol c => c ∈ ['+', '-', '*', '/', '(']

/-- The lexeme before a place, unary minus signs being passed over. -/
def lastKept : List Lexeme → Option Lexeme
  | [] => none
  | l :: before =>
      if l = symbol '-' ∧ (lastKept before).all awaitsOperand then lastKept before else some l

/-- A minus sign at the place is unary: the lexeme before, earlier unary signs being passed over,
does not exist or awaits an operand. -/
def OperandDue (before : List Lexeme) : Prop := (lastKept before).all awaitsOperand = true

instance (before : List Lexeme) : Decidable (OperandDue before) :=
  inferInstanceAs (Decidable (_ = true))

/-- A unary minus sign stands between the place and the run before it, or the beginning. -/
def Signed (before : List Lexeme) : Prop :=
  ∃ near far, before = near ++ symbol '-' :: far ∧ (∀ l ∈ near, l.isRun = false) ∧ OperandDue far

/-- An operand is due at the beginning, -/
theorem operandDue_nil : OperandDue [] := rfl

/-- A unary minus sign leaves the place after it as the place before it. -/
theorem operandDue_minus {before : List Lexeme} (h : OperandDue before) :
    OperandDue (symbol '-' :: before) := by
  have hkept : lastKept (symbol '-' :: before) = lastKept before := if_pos ⟨rfl, h⟩
  rwa [OperandDue, hkept]

/-- After any other lexeme the place is decided by that lexeme. -/
theorem operandDue_cons {l : Lexeme} {before : List Lexeme}
    (h : ¬ (l = symbol '-' ∧ OperandDue before)) :
    OperandDue (l :: before) ↔ l.awaitsOperand = true := by
  have hkept : lastKept (l :: before) = some l := if_neg h
  rw [OperandDue, hkept, Option.all_some]

/-- where there is no sign before. -/
theorem not_signed_nil : ¬ Signed [] := by
  rintro ⟨near, far, h, -⟩
  cases near <;> cases h

/-- A place is signed directly after a unary minus sign, or if the place before its symbol is. -/
theorem signed_cons_iff {l : Lexeme} {before : List Lexeme} :
    Signed (l :: before) ↔
      l = symbol '-' ∧ OperandDue before ∨ l.isRun = false ∧ Signed before := by
  constructor
  · rintro ⟨near, far, h, hnear, hfar⟩
    cases near with
    | nil =>
        obtain ⟨rfl, rfl⟩ := List.cons.inj h
        exact Or.inl ⟨rfl, hfar⟩
    | cons m near =>
        obtain ⟨rfl, rfl⟩ := List.cons.inj h
        exact Or.inr ⟨hnear _ List.mem_cons_self, near, far, rfl,
          fun l hl => hnear l (List.mem_cons_of_mem _ hl), hfar⟩
  · rintro (⟨rfl, hdue⟩ | ⟨hrun, near, far, rfl, hnear, hfar⟩)
    · exact ⟨[], before, rfl, by simp, hdue⟩
    · exact ⟨l :: near, far, rfl, by simpa [hrun] using hnear, hfar⟩

instance decidableSigned : (before : List Lexeme) → Decidable (Signed before)
  | [] => isFalse not_signed_nil
  | _ :: before =>
      have := decidableSigned before
      decidable_of_iff _ signed_cons_iff.symm

/-! ### The tokens of lexemes -/

/-- The tokens of the operators and brackets. -/
def symbolTokens : List (Char × Token) :=
  [('+', .operation .plus), ('-', .operation .minus), ('*', .operation .times),
    ('/', .operation .divide), ('(', .openBracket), (')', .closeBracket)]

/-- The token of a lexeme at its place, if it has one of its own: a unary minus sign has none, and a
signed run is a literal with the sign. -/
def token? (before : List Lexeme) : Lexeme → Option Token
  | run chars => some (Token.ofLiteral (if Signed before then '-' :: chars else chars))
  | symbol c => if c = '-' ∧ OperandDue before then none else symbolTokens.lookup c

/-- The scanner has the same tokens of operators and brackets. -/
theorem lookup_symbolTokens (c : Char) : symbolTokens.lookup c = Token.ofSymbol? c := by
  by_cases hc : c ∈ symbols
  · simp only [symbols, List.mem_cons, List.not_mem_nil, or_false] at hc
    rcases hc with rfl | rfl | rfl | rfl | rfl | rfl <;> rfl
  · have hnone : Token.ofSymbol? c = none := by
      refine Option.eq_none_iff_forall_ne_some.mpr fun token htoken => hc ?_
      cases Token.ofSymbol?_eq_some_iff.mp htoken with
      | operation op => cases op <;> decide
      | openBracket => decide
      | closeBracket => decide
    rw [hnone, List.lookup_eq_none_iff]
    intro pair hpair
    rw [bne_iff_ne]
    rintro rfl
    exact hc (List.mem_map_of_mem (f := Prod.fst) hpair)

/-- The token of a symbol at its place. -/
theorem token?_symbol (before : List Lexeme) (c : Char) :
    (symbol c).token? before =
      if c = '-' ∧ OperandDue before then none else Token.ofSymbol? c := by
  rw [token?, lookup_symbolTokens]

/-- The tokens of lexemes, each read at its place. -/
def tokens (before : List Lexeme) : List Lexeme → List Token
  | [] => []
  | l :: lexemes => (l.token? before).toList ++ tokens (l :: before) lexemes

end Lexeme

end PocketCalculator
