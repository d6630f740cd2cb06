import PocketCalculator.Proofs.Decimal.Value
import PocketCalculator.Proofs.Token.Lexemes

/-!
# What a scan finds

The scanner goes through a text once, with a run that ends late and a sign that may wait over any
number of characters. What it finds is said here by places: the tokens of a text are those of its
lexemes, each read at its place.

`Scanner.Follows` relates a state to a place: an operand is due in the one exactly if it is due in
the other, and the sign waits exactly if the place is signed. Reading one lexeme keeps the relation
and adds the token of the lexeme (`Follows.adds_run`, `Follows.adds_symbol`), and from it follows
what reading a whole text adds (`Follows.tokens_flush_foldl`).

* **`scan_eq_tokens_of_lexemes`**: the tokens of a text, where the lexemes have all its characters
  that mean something and literals become tokens by their shape.
-/

namespace PocketCalculator

open Lexeme (OperandDue Signed)

/-- A literal does not await an operand. -/
theorem Token.awaitsOperand_ofLiteral (text : List Char) :
    (Token.ofLiteral text).awaitsOperand = false := by
  unfold Token.ofLiteral
  cases Numeral.read? text <;> rfl

/-- Every symbol has a token, which awaits an operand exactly if the symbol does. -/
theorem Token.exists_ofSymbol? {c : Char} (hc : c ∈ Lexeme.symbols) :
    ∃ token, Token.ofSymbol? c = some token ∧
      token.awaitsOperand = (Lexeme.symbol c).awaitsOperand := by
  simp only [Lexeme.symbols, List.mem_cons, List.not_mem_nil, or_false] at hc
  rcases hc with rfl | rfl | rfl | rfl | rfl | rfl <;> exact ⟨_, rfl, rfl⟩

namespace Scanner

/-- The state between two lexemes: no run is being read, and the tokens and the waiting sign are
those of the place. -/
structure Follows (s : Scanner) (before : List Lexeme) : Prop where
  run_nil : s.run = []
  awaits_iff : s.awaitsOperand = true ↔ OperandDue before
  signed_iff : s.signed = true ↔ Signed before

/-- At the beginning there is no lexeme. -/
theorem follows_init : Follows {} [] :=
  ⟨rfl, iff_of_true rfl Lexeme.operandDue_nil, iff_of_false (by decide) Lexeme.not_signed_nil⟩

/-! ### The end of a run -/

/-- The literal that the run being read will be. -/
def literal (s : Scanner) : List Char :=
  if s.signed then '-' :: s.run.reverse else s.run.reverse

/-- A run becomes the token of its literal, and the waiting sign is used up. -/
theorem flush_of_run {s : Scanner} (h : s.run ≠ []) :
    s.flush.tokens = Token.ofLiteral s.literal :: s.tokens ∧ s.flush.signed = false := by
  have hempty : s.run.isEmpty = false := by simpa using h
  simp only [flush, hempty, Bool.false_eq_true, if_false, literal]
  generalize Token.ofLiteral _ = token
  cases token <;> exact ⟨rfl, rfl⟩

/-- A text that does not begin with a character of a literal ends the run. -/
theorem flush_foldl_flush {text : List Char} (h : ∀ c ∈ text.head?, isLiteralChar c = false)
    (s : Scanner) : (text.foldl step s).flush = (text.foldl step s.flush).flush := by
  cases text with
  | nil => exact (flush_flush s).symm
  | cons c text =>
      have hc := h c rfl
      simp [step, hc]

/-- The characters of literals at the beginning of a text go on with the run, which ends there. -/
theorem flush_foldl_eq (text : List Char) (s : Scanner) :
    (text.foldl step s).flush = ((text.dropWhile isLiteralChar).foldl step
      { s with run := (text.takeWhile isLiteralChar).reverse ++ s.run }.flush).flush := by
  have hrun : ∀ c ∈ text.takeWhile isLiteralChar, isLiteralChar c = true :=
    fun _ hc => List.mem_takeWhile_imp hc
  have hrest : ∀ c ∈ (text.dropWhile isLiteralChar).head?, isLiteralChar c = false := by
    intro c hc
    have hnot := List.head?_dropWhile_not isLiteralChar text
    rwa [Option.mem_def.mp hc] at hnot
  rw [← flush_foldl_flush hrest, ← foldl_step_of_isLiteralChar s hrun, ← List.foldl_append,
    List.takeWhile_append_dropWhile]

/-! ### Lexeme by lexeme -/

variable {s : Scanner} {before : List Lexeme}

/-- `Adds s t before l`: from the state `s` at its place, reading the lexeme `l` leads to the state
`t` at the next place, and the token of `l` is added. -/
structure Adds (s t : Scanner) (before : List Lexeme) (l : Lexeme) : Prop where
  follows : t.Follows (l :: before)
  tokens_eq : t.tokens.reverse = s.tokens.reverse ++ (l.token? before).toList

/-- A run, once it has ended. -/
theorem Follows.adds_run (h : s.Follows before) {r : List Char} (hr : r ≠ []) :
    Adds s { s with run := r.reverse }.flush before (.run r) := by
  have hrun : ({ s with run := r.reverse } : Scanner).run ≠ [] := by simpa using hr
  have hliteral : ({ s with run := r.reverse } : Scanner).literal =
      if Signed before then '-' :: r else r := by
    simp only [literal, List.reverse_reverse, h.signed_iff]
  obtain ⟨htokens, hsigned⟩ := flush_of_run hrun
  rw [hliteral] at htokens
  refine ⟨⟨run_flush _, ?_, ?_⟩, by simp [htokens, Lexeme.token?]⟩
  · rw [Lexeme.operandDue_cons (by simp), awaitsOperand, htokens]
    exact Bool.eq_iff_iff.mp (Token.awaitsOperand_ofLiteral _)
  · rw [hsigned, Lexeme.signed_cons_iff]
    simp [Lexeme.isRun]

/-- A symbol adds its token, and a unary minus sign waits. -/
theorem Follows.adds_symbol (h : s.Follows before) {c : Char} (hc : c ∈ Lexeme.symbols) :
    Adds s (s.step c) before (.symbol c) := by
  have hflush : s.flush = s := flush_of_run_nil h.run_nil
  by_cases hunary : c = '-' ∧ OperandDue before
  · obtain ⟨rfl, hdue⟩ := hunary
    have hstep := s.step_minus (by rw [hflush]; exact h.awaits_iff.mpr hdue)
    rw [hflush] at hstep
    rw [hstep]
    refine ⟨⟨h.run_nil, iff_of_true (h.awaits_iff.mpr hdue) (Lexeme.operandDue_minus hdue),
      iff_of_true rfl (Lexeme.signed_cons_iff.mpr (.inl ⟨rfl, hdue⟩))⟩, ?_⟩
    simp [Lexeme.token?_symbol, hdue]
  · obtain ⟨token, htoken, hawaits⟩ := Token.exists_ofSymbol? hc
    have hstep := s.step_of_symbol htoken fun hminus => by
      rw [hflush, Bool.eq_false_iff, Ne, h.awaits_iff]
      exact fun hdue => hunary ⟨hminus, hdue⟩
    rw [hflush] at hstep
    have hnot : ¬ (Lexeme.symbol c = .symbol '-' ∧ OperandDue before) := by simpa using hunary
    rw [hstep]
    refine ⟨⟨h.run_nil, ?_, ?_⟩, ?_⟩
    · rw [Lexeme.operandDue_cons hnot, ← hawaits]
      rfl
    · rw [Lexeme.signed_cons_iff, or_iff_right hnot]
      simpa [Lexeme.isRun] using h.signed_iff
    · simp [Lexeme.token?_symbol, hunary, htoken]

/-- Reading a text from any place adds the tokens of its lexemes. -/
theorem Follows.tokens_flush_foldl (h : s.Follows before) (text : List Char) :
    (text.foldl step s).flush.tokens.reverse =
      s.tokens.reverse ++ Lexeme.tokens before (lexemes text) := by
  fun_induction lexemes text generalizing s before with
  | case1 => rw [List.foldl_nil, flush_of_run_nil h.run_nil, Lexeme.tokens, List.append_nil]
  | case2 c text hc ih =>
      have hadds := h.adds_run (List.cons_ne_nil c (text.takeWhile isLiteralChar))
      rw [flush_foldl_eq, List.takeWhile_cons_of_pos hc, List.dropWhile_cons_of_pos hc, h.run_nil,
        List.append_nil, ih hadds.follows, hadds.tokens_eq, Lexeme.tokens, List.append_assoc]
  | case3 c text hc hsymbol ih =>
      have hadds := h.adds_symbol hsymbol
      rw [List.foldl_cons, ih hadds.follows, hadds.tokens_eq, Lexeme.tokens, List.append_assoc]
  | case4 c text hc hsymbol ih =>
      have hignored : Ignored c := ignored_iff.mpr ⟨by simpa using hc, hsymbol⟩
      rw [List.foldl_cons, s.step_of_ignored hignored, flush_of_run_nil h.run_nil, ih h]

end Scanner

/-- The tokens of a text are those of its lexemes. -/
theorem value_scan (text : String) :
    (Token.scan text).value = Lexeme.tokens [] (lexemes text.toList) :=
  Scanner.follows_init.tokens_flush_foldl text.toList

/-- **What a scan finds.** The tokens of a text are those of its lexemes, each read at its place;
the lexemes are made of all the characters of the text that mean something, in order; and a literal
is a number with its value correctly rounded if it has the shape of a numeral, and malformed
otherwise. -/
theorem scan_eq_tokens_of_lexemes (text : String) :
    (Token.scan text).value = Lexeme.tokens [] (lexemes text.toList) ∧
      (lexemes text.toList).flatMap Lexeme.chars = text.toList.filter (fun c => ¬ Ignored c) ∧
      ∀ literal, Token.Literally literal (Token.ofLiteral literal) :=
  ⟨value_scan text, flatMap_chars_lexemes text.toList, Token.literally_ofLiteral⟩

end PocketCalculator
