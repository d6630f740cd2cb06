import Mathlib.Data.List.Chain
import PocketCalculator.Proofs.Token.Image
import PocketCalculator.Proofs.Token.Words

/-!
# Scanning what is shown

The tokens of a text are shown with single spaces, and what is shown can be scanned again. Every
token is then found as it was, except for a literal whose sign has crossed a closing bracket: shown,
the sign stands after the bracket, where a minus sign is an operator. `Token.reread` says what a
shown token is found as, given the token before it, and `value_scan_joined` that a second scan finds
exactly this. The scanner is followed from space to space: there no run has begun and no sign is
waiting, and whether an operand is due is decided by the token shown last (`Scanner.Between`).

* **`scan_joined_iff`**: a second scan finds the same tokens exactly if no literal with a sign
  directly follows a closing bracket, and so for every text in which no unary minus sign stands
  before a closing bracket with no run between them and a run after them (`CarriesSign`).
-/

namespace PocketCalculator

open Scanner (isLiteralChar)
open Lexeme (OperandDue Signed)

/-! ### What a shown token is found as -/

namespace Token

/-- Whether a token is a literal with a sign. -/
def isSigned (token : Token) : Bool := token.isLiteral && token.text.toList.head? == some '-'

/-- The tokens that a shown token is found as, given the token shown before it: directly after a
closing bracket the sign of a literal is a minus operator. -/
def reread : Option Token → Token → List Token
  | some .closeBracket, token =>
      if token.isSigned then [.operation .minus, ofLiteral token.text.toList.tail] else [token]
  | _, token => [token]

/-- The tokens that shown tokens are found as, given the token shown before them. -/
def rereadAll (last : Option Token) : List Token → List Token
  | [] => []
  | token :: tokens => reread last token ++ rereadAll (some token) tokens

/-- The literal of a run is signed exactly if the run has been given a sign. -/
theorem isSigned_ofLiteral {run : List Char} (hall : ∀ c ∈ run, isLiteralChar c = true)
    (negative : Bool) :
    (ofLiteral (if negative then '-' :: run else run)).isSigned = negative := by
  rw [isSigned, isLiteral_ofLiteral, text_ofLiteral, String.toList_ofList, Bool.true_and]
  cases negative with
  | true => rfl
  | false =>
      rw [beq_eq_false_iff_ne]
      intro hhead
      exact absurd (hall '-' (List.mem_of_mem_head? hhead)) (by decide)

/-- A token without a sign is found as it is, -/
theorem reread_of_not_isSigned {token : Token} (h : token.isSigned = false) (last : Option Token) :
    reread last token = [token] := by
  unfold reread
  split
  · rw [h]
    rfl
  · rfl

/-- and so is every token that does not follow a closing bracket. -/
theorem reread_of_ne {last : Option Token} (h : last ≠ some .closeBracket) (token : Token) :
    reread last token = [token] := by
  unfold reread
  split
  · exact absurd rfl h
  · rfl

/-- Nothing is lost. -/
theorem length_le_rereadAll (last : Option Token) (tokens : List Token) :
    tokens.length ≤ (rereadAll last tokens).length := by
  induction tokens generalizing last with
  | nil => exact Nat.le_refl _
  | cons token tokens ih =>
      have hfirst : 1 ≤ (reread last token).length := by
        unfold reread
        split
        · split <;> simp
        · simp
      have hrest := ih (some token)
      rw [rereadAll, List.length_append, List.length_cons]
      omega

/-- Neighbours that a second scan finds again: the second is no literal with a sign if the first is
a closing bracket. -/
def Untorn (before token : Token) : Prop := before = .closeBracket → token.isSigned = false

/-- The tokens are found as they are exactly if no literal is torn. -/
theorem rereadAll_some_eq_iff {last : Token} {tokens : List Token} :
    rereadAll (some last) tokens = tokens ↔ (last :: tokens).IsChain Untorn := by
  induction tokens generalizing last with
  | nil => simp [rereadAll]
  | cons token tokens ih =>
      rw [List.isChain_cons_cons, ← ih, rereadAll]
      by_cases huntorn : Untorn last token
      · have hfirst : reread (some last) token = [token] := by
          by_cases hlast : last = .closeBracket
          · exact reread_of_not_isSigned (huntorn hlast) _
          · exact reread_of_ne (by simpa using hlast) token
        simp [hfirst, huntorn]
      · -- A torn literal makes the list longer.
        obtain ⟨rfl, hsigned⟩ := Classical.not_imp.mp huntorn
        refine iff_of_false (fun heq => ?_) fun h => huntorn h.1
        have hfirst : (reread (some .closeBracket) token).length = 2 := by
          rw [reread, if_pos (by simpa using hsigned)]
          rfl
        have hrest := length_le_rereadAll (some token) tokens
        have hlength := congrArg List.length heq
        rw [List.length_append, List.length_cons, hfirst] at hlength
        omega

/-- So it is for a whole list, where nothing comes before the first token. -/
theorem rereadAll_none_eq_iff {tokens : List Token} :
    rereadAll none tokens = tokens ↔ tokens.IsChain Untorn := by
  cases tokens with
  | nil => simp [rereadAll]
  | cons token tokens => simp [rereadAll, reread, rereadAll_some_eq_iff]

end Token

/-! ### From space to space -/

namespace Scanner

open Token (Fits SignMayWait)

/-- The state between two shown tokens: no run has begun, no sign is waiting, and whether an operand
is due is decided by the token shown last. -/
structure Between (s : Scanner) (last : Option Token) : Prop where
  run_nil : s.run = []
  unsigned : s.signed = false
  awaits_eq : s.awaitsOperand = last.all Token.awaitsOperand

/-- `Finds s t tokens`: from the state `s` to the state `t` these tokens have been found. -/
def Finds (s t : Scanner) (tokens : List Token) : Prop :=
  t.tokens.reverse = s.tokens.reverse ++ tokens

variable {s : Scanner} {before : List Token} {token : Token}

/-- A sign that may wait can stand where an operand is due, or after a closing bracket. -/
theorem awaitsOperand_or_eq_closeBracket (h : SignMayWait before) :
    before.getLast?.all Token.awaitsOperand = true ∨ before.getLast? = some .closeBracket := by
  rcases List.eq_nil_or_concat' before with rfl | ⟨front, last, rfl⟩
  · exact .inl rfl
  · rw [List.getLast?_concat, Option.all_some]
    cases hawaits : last.awaitsOperand with
    | true => exact .inl rfl
    | false =>
        rcases Token.awaitsOperand_eq_false_iff.mp hawaits with hliteral | rfl
        · exact absurd h (Token.not_signMayWait_concat hliteral)
        · exact .inr rfl

/-- A run adds its literal, and no operand is due after it, whichever literal has been shown. -/
theorem between_foldl_run {t : Scanner} (hrun : t.run = []) {run : List Char} (hne : run ≠ [])
    (hall : ∀ c ∈ run, isLiteralChar c = true) (shown : List Char) :
    (run.foldl Scanner.step t).flush.Between (some (Token.ofLiteral shown)) ∧
      Finds t (run.foldl Scanner.step t).flush
        [Token.ofLiteral (if t.signed then '-' :: run else run)] := by
  obtain ⟨htokens, hunsigned⟩ := flush_foldl_run hrun hne hall
  refine ⟨⟨run_flush _, hunsigned, ?_⟩, ?_⟩
  · rw [awaitsOperand, htokens, Option.all_some, Token.awaitsOperand_ofLiteral]
    exact Token.awaitsOperand_ofLiteral _
  · rw [Finds, htokens, List.reverse_cons]

/-- A shown sign is left waiting where an operand is due, -/
theorem Between.step_sign_of_due {last : Option Token} (h : s.Between last)
    (hdue : last.all Token.awaitsOperand = true) : s.step '-' = { s with signed := true } := by
  have hflush := flush_of_run_nil h.run_nil
  rw [step_minus _ (by rw [hflush, h.awaits_eq, hdue]), hflush]

/-- and after a closing bracket it is an operator. -/
theorem Between.step_sign_of_closeBracket (h : s.Between (some .closeBracket)) :
    s.step '-' = { s with tokens := .operation .minus :: s.tokens } := by
  have hflush := flush_of_run_nil h.run_nil
  rw [step_of_symbol (c := '-') _ rfl fun _ => by rw [hflush, h.awaits_eq]; rfl, hflush]

/-- A shown literal. -/
theorem Between.literal (h : s.Between before.getLast?) {run : List Char} (hne : run ≠ [])
    (hall : ∀ c ∈ run, isLiteralChar c = true) (negative : Bool)
    (hsigned : negative = true → SignMayWait before) :
    let text := if negative then '-' :: run else run
    (text.foldl Scanner.step s).flush.Between (some (Token.ofLiteral text)) ∧
      Finds s (text.foldl Scanner.step s).flush
        (Token.reread before.getLast? (Token.ofLiteral text)) := by
  intro text
  have htext : (Token.ofLiteral text).isSigned = negative := Token.isSigned_ofLiteral hall negative
  cases negative with
  | false =>
      have hread := between_foldl_run h.run_nil hne hall run
      rw [h.unsigned] at hread
      rw [Token.reread_of_not_isSigned htext]
      exact hread
  | true =>
      show (run.foldl Scanner.step (s.step '-')).flush.Between _ ∧
        Finds s (run.foldl Scanner.step (s.step '-')).flush _
      rcases awaitsOperand_or_eq_closeBracket (hsigned rfl) with hdue | hclose
      · -- The sign is left waiting, and the run takes it.
        have hopen : before.getLast? ≠ some .closeBracket := by
          intro hclose
          rw [hclose] at hdue
          cases hdue
        rw [h.step_sign_of_due hdue, Token.reread_of_ne hopen]
        exact between_foldl_run (t := { s with signed := true }) h.run_nil hne hall text
      · -- The sign is an operator, and the run is a literal without sign.
        rw [hclose] at h ⊢
        obtain ⟨hbetween, hfinds⟩ := between_foldl_run
          (t := { s with tokens := .operation .minus :: s.tokens }) h.run_nil hne hall text
        rw [h.step_sign_of_closeBracket, Token.reread, if_pos htext, Token.text_ofLiteral,
          String.toList_ofList]
        refine ⟨hbetween, ?_⟩
        rw [Finds, hfinds, h.unsigned, List.reverse_cons, List.append_assoc]
        rfl

/-- A shown token. -/
theorem Between.shown (h : s.Between before.getLast?) (hfits : Fits before token) :
    (token.text.toList.foldl Scanner.step s).flush.Between (some token) ∧
      Finds s (token.text.toList.foldl Scanner.step s).flush
        (Token.reread before.getLast? token) := by
  cases hliteral : token.isLiteral with
  | true =>
      obtain ⟨negative, run, hne, hall, rfl, hsigned⟩ := hfits.exists_run hliteral
      rw [Token.text_ofLiteral, String.toList_ofList]
      exact h.literal hne hall negative hsigned
  | false =>
      obtain ⟨c, hc, htext, hminus⟩ := hfits.exists_symbol hliteral
      have hflush := flush_of_run_nil h.run_nil
      have hstep : s.step c = { s with tokens := token :: s.tokens } := by
        rw [step_of_symbol _ hc fun hsign => by rw [hflush, h.awaits_eq, hminus hsign], hflush]
      have hafter : (s.step c).flush = { s with tokens := token :: s.tokens } := by
        rw [hstep]
        exact flush_of_run_nil h.run_nil
      have hunsigned : token.isSigned = false := by rw [Token.isSigned, hliteral, Bool.false_and]
      rw [htext, List.foldl_cons, List.foldl_nil, hafter, Token.reread_of_not_isSigned hunsigned]
      refine ⟨⟨h.run_nil, h.unsigned, rfl⟩, ?_⟩
      rw [Finds, List.reverse_cons]

/-- All tokens that are shown. -/
theorem Between.joined (h : s.Between before.getLast?) {tokens : List Token}
    (hfits : ∀ earlier token after, tokens = earlier ++ token :: after →
      Fits (before ++ earlier) token) :
    Finds s ((Token.joined tokens).toList.foldl Scanner.step s).flush
      (Token.rereadAll before.getLast? tokens) := by
  induction tokens generalizing s before with
  | nil =>
      show (([] : List Char).foldl Scanner.step s).flush.tokens.reverse = s.tokens.reverse ++ []
      rw [List.foldl_nil, flush_of_run_nil h.run_nil, List.append_nil]
  | cons token tokens ih =>
      have hfirst : Fits before token := by simpa using hfits [] token tokens rfl
      obtain ⟨hbetween, hfinds⟩ := h.shown hfirst
      cases tokens with
      | nil => simpa [Token.rereadAll] using hfinds
      | cons next tokens =>
          have hlast : (before ++ [token]).getLast? = some token := List.getLast?_concat
          have hrest := ih (hlast ▸ hbetween) fun earlier t after hsplit => by
            have := hfits (token :: earlier) t after (by rw [hsplit, List.cons_append])
            rwa [List.append_assoc]
          have hspace : (Token.joined (token :: next :: tokens)).toList =
              token.text.toList ++ ' ' :: (Token.joined (next :: tokens)).toList := by
            rw [Token.joined_cons_cons, String.toList_append, String.toList_append,
              List.append_assoc]
            rfl
          rw [hlast] at hrest
          rw [hspace, List.foldl_append, List.foldl_cons, step_of_ignored _ (by decide),
            Token.rereadAll, Finds, hrest, hfinds, List.append_assoc]

end Scanner

/-- A second scan finds every shown token as `Token.reread` says. -/
theorem value_scan_joined {tokens : List Token} (h : Token.Scannable tokens) :
    (Token.scan (Token.joined tokens)).value = Token.rereadAll none tokens := by
  have hstart : Scanner.Between {} ([] : List Token).getLast? := ⟨rfl, rfl, rfl⟩
  exact hstart.joined h

/-! ### Signs that are carried across a closing bracket -/

/-- A unary minus sign of the text stands before a closing bracket, with no run between them and a
run after them, which takes the sign. -/
def CarriesSign (text : List Char) : Prop :=
  ∃ far near run rest, lexemes text = far ++ .symbol '-' :: (near ++ .run run :: rest) ∧
    OperandDue far.reverse ∧ (∀ l ∈ near, l.isRun = false) ∧ .symbol ')' ∈ near

namespace Lexeme

/-- Every token of lexemes is the token of one of them, at its place. -/
theorem exists_of_tokens_eq {before lexemes : List Lexeme} {earlier after : List Token}
    {token : Token} (h : tokens before lexemes = earlier ++ token :: after) :
    ∃ front l rest, lexemes = front ++ l :: rest ∧
      l.token? (front.reverse ++ before) = some token ∧
      tokens (l :: (front.reverse ++ before)) rest = after := by
  induction lexemes generalizing before earlier with
  | nil => simp [tokens] at h
  | cons l lexemes ih =>
      -- If the token is not that of the first lexeme, it is one of the others'.
      have hlater : ∀ {earlier}, tokens (l :: before) lexemes = earlier ++ token :: after →
          ∃ front m rest, l :: lexemes = front ++ m :: rest ∧
            m.token? (front.reverse ++ before) = some token ∧
            tokens (m :: (front.reverse ++ before)) rest = after := by
        intro earlier hrest
        obtain ⟨front, m, rest, rfl, htoken, hafter⟩ := ih hrest
        exact ⟨l :: front, m, rest, rfl, by simpa using htoken, by simpa using hafter⟩
      rw [tokens] at h
      cases hfirst : l.token? before with
      | none => exact hlater (by simpa [hfirst] using h)
      | some first =>
          rw [hfirst, Option.toList_some, List.singleton_append] at h
          cases earlier with
          | nil =>
              obtain ⟨rfl, hafter⟩ := List.cons.inj h
              exact ⟨[], l, lexemes, rfl, hfirst, hafter⟩
          | cons _ earlier => exact hlater (List.cons.inj h).2

/-- A closing bracket is the token of its symbol only. -/
theorem eq_of_token?_closeBracket {before : List Lexeme} {l : Lexeme}
    (h : l.token? before = some .closeBracket) : l = .symbol ')' := by
  cases l with
  | run chars =>
      have := Token.isLiteral_ofLiteral (if Signed before then '-' :: chars else chars)
      rw [Option.some.inj h] at this
      cases this
  | symbol c =>
      rw [token?_symbol] at h
      split at h
      case isTrue => cases h
      case isFalse =>
        cases Token.ofSymbol?_eq_some_iff.mp h
        rfl

/-- Directly after a closing bracket every lexeme has a token. -/
theorem exists_token?_of_closeBracket {l : Lexeme} (h : l.Sound) (before : List Lexeme) :
    ∃ token, l.token? (.symbol ')' :: before) = some token := by
  cases l with
  | run chars => exact ⟨_, rfl⟩
  | symbol c =>
      have hdue : ¬ OperandDue (.symbol ')' :: before) := by
        rw [operandDue_cons (by simp)]
        decide
      obtain ⟨token, htoken, -⟩ := Token.exists_ofSymbol? h
      exact ⟨token, by rw [token?_symbol, if_neg (fun hunary => hdue hunary.2), htoken]⟩

/-- A literal with a sign is that of a run at a signed place. -/
theorem exists_run_of_isSigned {l : Lexeme} (h : l.Sound) {before : List Lexeme} {token : Token}
    (htoken : l.token? before = some token) (hsigned : token.isSigned = true) :
    ∃ chars, l = .run chars ∧ Signed before := by
  cases l with
  | run chars =>
      refine ⟨chars, rfl, ?_⟩
      by_contra hnot
      obtain rfl := Option.some.inj htoken
      rw [if_neg hnot] at hsigned
      exact absurd (Token.isSigned_ofLiteral h.2 false) (by simp [hsigned])
  | symbol c =>
      rw [token?_symbol] at htoken
      split at htoken
      case isTrue => cases htoken
      case isFalse =>
        rw [Token.isSigned, Token.isLiteral_of_ofSymbol? htoken] at hsigned
        cases hsigned

end Lexeme

/-- A literal with a sign directly after a closing bracket has a sign that was carried across it. -/
theorem carriesSign_of_isSigned {text : String} {before after : List Token} {token : Token}
    (h : (Token.scan text).value = before ++ .closeBracket :: token :: after)
    (hsigned : token.isSigned = true) : CarriesSign text.toList := by
  rw [value_scan] at h
  obtain ⟨front, l, rest, hlexemes, hclose, hrest⟩ := Lexeme.exists_of_tokens_eq h
  obtain rfl := Lexeme.eq_of_token?_closeBracket hclose
  have hsound : ∀ m ∈ rest, m.Sound := fun m hm =>
    sound_of_mem_lexemes (by
      rw [hlexemes]
      exact List.mem_append_right _ (List.mem_cons_of_mem _ hm))
  cases rest with
  | nil => simp [Lexeme.tokens] at hrest
  | cons m rest =>
      have hm := hsound m List.mem_cons_self
      obtain ⟨next, hnext⟩ := Lexeme.exists_token?_of_closeBracket hm (front.reverse ++ [])
      rw [Lexeme.tokens, hnext, Option.toList_some, List.singleton_append] at hrest
      obtain ⟨rfl, -⟩ := List.cons.inj hrest
      obtain ⟨chars, rfl, hplace⟩ := Lexeme.exists_run_of_isSigned hm hnext hsigned
      have hfront : Signed front.reverse := by
        simpa [Lexeme.signed_cons_iff, Lexeme.isRun] using hplace
      obtain ⟨near, far, hsplit, hnear, hdue⟩ := hfront
      have hwhole : front = far.reverse ++ .symbol '-' :: near.reverse := by
        rw [← List.reverse_reverse front, hsplit]
        simp
      refine ⟨far.reverse, near.reverse ++ [.symbol ')'], chars, rest, ?_, ?_, ?_, by simp⟩
      · rw [hlexemes, hwhole]
        simp
      · rwa [List.reverse_reverse]
      · intro l hl
        rcases List.mem_append.mp hl with hl | hl
        · exact hnear l (List.mem_reverse.mp hl)
        · rw [List.mem_singleton.mp hl]
          rfl

/-! ### The second scan -/

/-- **Scanning what is shown.** A second scan finds the same tokens exactly if no literal with a
sign directly follows a closing bracket. This holds of every text that carries no sign across a
closing bracket, and scanning what is shown then changes nothing any more. -/
theorem scan_joined_iff (text : String) :
    let tokens := (Token.scan text).value
    let again := (Token.scan (Token.joined tokens)).value
    (again = tokens ↔ ∀ before token after, tokens = before ++ .closeBracket :: token :: after →
        token.isSigned = false) ∧
      (¬ CarriesSign text.toList →
        again = tokens ∧ Token.joined again = Token.joined tokens ∧
          (Token.scan (Token.joined again)).value = again) := by
  intro tokens again
  have hagain : again = tokens ↔ ∀ before token after,
      tokens = before ++ .closeBracket :: token :: after → token.isSigned = false := by
    have hreread : again = Token.rereadAll none tokens := value_scan_joined (scannable_scan text)
    rw [hreread, Token.rereadAll_none_eq_iff, List.isChain_iff_forall_rel_of_append_cons_cons]
    constructor
    · intro h before token after hsplit
      exact h hsplit rfl
    · rintro h _ token before after hsplit rfl
      exact h before token after hsplit
  refine ⟨hagain, fun hcarries => ?_⟩
  have hsame : again = tokens := by
    refine hagain.mpr fun before token after hsplit => ?_
    by_contra hsigned
    exact hcarries (carriesSign_of_isSigned hsplit (by simpa using hsigned))
  rw [hsame]
  exact ⟨rfl, rfl, hsame⟩

/-- A sign directly before its digits, and a minus operator after a closing bracket. -/
theorem scan_joined_iff_product :
    ¬ CarriesSign "2*(-3)-.5".toList ∧
      (Token.scan (Token.joined (Token.scan "2*(-3)-.5").value)).value =
        (Token.scan "2*(-3)-.5").value := by
  have hlexemes : lexemes "2*(-3)-.5".toList =
      [.run ['2'], .symbol '*', .symbol '(', .symbol '-', .run ['3'], .symbol ')', .symbol '-',
        .run ['.', '5']] := by
    decide +kernel
  have hcarries : ¬ CarriesSign "2*(-3)-.5".toList := by
    rintro ⟨far, near, run, rest, hsplit, -, hnear, hclose⟩
    rw [hlexemes] at hsplit
    cases near with
    | nil => cases hclose
    | cons l near =>
        -- Of the two minus signs only the first has more than one lexeme after it.
        have hrun : l = .run ['3'] := by
          simp only [List.cons_append, List.cons_eq_append_iff, List.cons.injEq, reduceCtorEq,
            false_and, and_false, Lexeme.symbol.injEq, Char.reduceEq, true_and,
            List.append_eq_nil_iff, and_self, List.nil_eq, exists_const, or_self, or_false,
            ↓existsAndEq, false_or] at hsplit
          exact hsplit.2.1
        have hl := hnear l List.mem_cons_self
        rw [hrun] at hl
        cases hl
  exact ⟨hcarries, ((scan_joined_iff "2*(-3)-.5").2 hcarries).1⟩

/-- A sign that has crossed a closing bracket is shown behind it, and found there as an operator. -/
example : Token.joined (Token.scan "(-)4").value = "( ) -4" ∧
    Token.joined (Token.scan "( ) -4").value = "( ) - 4" := by
  decide +kernel

end PocketCalculator
