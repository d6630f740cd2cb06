import PocketCalculator.Proofs.Token.Scan

/-!
# The lists of tokens that a scan can find

Not every list of tokens is the scan of a text. What may come next is decided by the tokens before
it (`Token.Fits`): a literal is what its text says, a minus operator follows an operand, and a
literal has a sign only if one can have been left waiting since the literal before it
(`Token.SignMayWait`). A list is `Token.Scannable` if every token in it fits its place.

Both directions go token by token, from the left. What a scanner has found is scannable, and a sign
waits only where it may, whatever the next character is (`Scanner.Sound.step`). Conversely a
scannable list can be spelled from the left, and spelled so that a sign is waiting at its end
wherever one may (`exists_spells`); a sign is left waiting directly after the operator or bracket
that allows it, so it may have to cross closing brackets before it meets its literal.

* **`exists_scan_iff`**: a list of tokens is the scan of some text exactly if it is scannable.
-/

namespace PocketCalculator

open Binary
open Scanner (isLiteralChar)

/-! ### What may come next -/

namespace Token

/-- Whether a token is a literal. -/
def isLiteral : Token → Bool
  | .number _ _ | .malformed _ => true
  | _ => false

/-- A sign may be waiting after the tokens: since the last literal, if there is one, an operator or
an opening bracket has come. -/
def SignMayWait (tokens : List Token) : Prop :=
  ∀ earlier literal between, tokens = earlier ++ literal :: between → literal.isLiteral = true →
    (∀ token ∈ between, token.isLiteral = false) → ∃ token ∈ between, token.awaitsOperand = true

/-- `Fits before token`: the token may stand directly after the tokens `before`. -/
inductive Fits (before : List Token) : Token → Prop where
  /-- A text with the shape of a numeral and its value, correctly rounded. -/
  | number (l : Literal) {value : Binary64} (rounded : Number.IsRounded l.negative l.toRat value)
      (signed : l.negative = true → SignMayWait before) :
      Fits before (.number (String.ofList l.chars) value)
  /-- Digits and points without that shape, possibly with a sign. -/
  | malformed (negative : Bool) {run : List Char} (nonempty : run ≠ [])
      (chars : ∀ c ∈ run, isLiteralChar c = true)
      (shapeless : ∀ l : Literal, l.chars ≠ if negative then '-' :: run else run)
      (signed : negative = true → SignMayWait before) :
      Fits before (.malformed (String.ofList (if negative then '-' :: run else run)))
  /-- A minus operator directly after a literal or a closing bracket. -/
  | minus {last : Token} (last_eq : before.getLast? = some last)
      (operand : last.isLiteral = true ∨ last = .closeBracket) : Fits before (.operation .minus)
  /-- Any other operator. -/
  | operation {op : Operator} (other : op ≠ .minus) : Fits before (.operation op)
  | openBracket : Fits before .openBracket
  | closeBracket : Fits before .closeBracket

/-- Every token of the list fits its place. -/
def Scannable (tokens : List Token) : Prop :=
  ∀ before token after, tokens = before ++ token :: after → Fits before token

/-! ### Lists that grow at the end -/

/-- A place in a list with one more entry is at the new end or in the old list. -/
theorem eq_or_exists_of_concat {α : Type} {entries before after : List α} {new entry : α}
    (h : entries ++ [new] = before ++ entry :: after) :
    before = entries ∧ entry = new ∧ after = [] ∨
      ∃ rest, after = rest ++ [new] ∧ entries = before ++ entry :: rest := by
  rcases List.eq_nil_or_concat' after with rfl | ⟨rest, last, rfl⟩
  · obtain ⟨rfl, hlast⟩ := List.append_inj' h rfl
    exact .inl ⟨rfl, (List.singleton_inj.mp hlast).symm, rfl⟩
  · rw [← List.cons_append, ← List.append_assoc] at h
    obtain ⟨hentries, hlast⟩ := List.append_inj' h rfl
    exact .inr ⟨rest, by rw [List.singleton_inj.mp hlast], hentries⟩

variable {tokens : List Token} {token : Token}

/-- The token of a literal is a literal, malformed or not. -/
theorem isLiteral_ofLiteral (text : List Char) : (ofLiteral text).isLiteral = true := by
  unfold ofLiteral
  cases Numeral.read? text <;> rfl

/-- A token that awaits an operand is not a literal. -/
theorem isLiteral_of_awaitsOperand (h : token.awaitsOperand = true) : token.isLiteral = false := by
  cases token <;> first | rfl | cases h

/-- A token that awaits no operand is a literal or a closing bracket. -/
theorem awaitsOperand_eq_false_iff :
    token.awaitsOperand = false ↔ token.isLiteral = true ∨ token = .closeBracket := by
  cases token <;> simp [awaitsOperand, isLiteral]

/-- The token of a symbol is not a literal. -/
theorem isLiteral_of_ofSymbol? {c : Char} (h : ofSymbol? c = some token) :
    token.isLiteral = false := by
  cases ofSymbol?_eq_some_iff.mp h with
  | operation op => rfl
  | openBracket => rfl
  | closeBracket => rfl

/-- The empty list is scannable. -/
theorem scannable_nil : Scannable [] := by
  intro before token after h
  simp at h

/-- A scannable list goes on with a token that fits, -/
theorem Scannable.concat (h : Scannable tokens) (ht : Fits tokens token) :
    Scannable (tokens ++ [token]) := by
  intro before next after hsplit
  rcases eq_or_exists_of_concat hsplit with ⟨rfl, rfl, -⟩ | ⟨rest, -, htokens⟩
  · exact ht
  · exact h before next rest htokens

/-- and with no other. -/
theorem Scannable.of_concat (h : Scannable (tokens ++ [token])) :
    Scannable tokens ∧ Fits tokens token := by
  refine ⟨fun before next after hsplit => ?_, h tokens token [] rfl⟩
  exact h before next (after ++ [token]) (by rw [hsplit, List.append_assoc, List.cons_append])

/-- A sign may wait at the beginning. -/
theorem signMayWait_nil : SignMayWait [] := by
  intro earlier literal between h
  simp at h

/-- Where a sign may wait it may go on waiting until the next literal. -/
theorem SignMayWait.concat (h : SignMayWait tokens) (ht : token.isLiteral = false) :
    SignMayWait (tokens ++ [token]) := by
  intro earlier literal between hsplit hliteral hbetween
  rcases eq_or_exists_of_concat hsplit with ⟨-, rfl, -⟩ | ⟨rest, rfl, htokens⟩
  · rw [ht] at hliteral
    cases hliteral
  · obtain ⟨awaiting, hmem, hawaits⟩ := h earlier literal rest htokens hliteral
      fun t hmem => hbetween t (List.mem_append_left _ hmem)
    exact ⟨awaiting, List.mem_append_left _ hmem, hawaits⟩

/-- A sign may wait after every token that awaits an operand. -/
theorem signMayWait_concat (tokens : List Token) (ht : token.awaitsOperand = true) :
    SignMayWait (tokens ++ [token]) := by
  intro earlier literal between hsplit hliteral hbetween
  rcases eq_or_exists_of_concat hsplit with ⟨-, rfl, -⟩ | ⟨rest, rfl, -⟩
  · rw [isLiteral_of_awaitsOperand ht] at hliteral
    cases hliteral
  · exact ⟨token, List.mem_append_right _ List.mem_cons_self, ht⟩

/-- Directly after a literal no sign may wait. -/
theorem not_signMayWait_concat (ht : token.isLiteral = true) :
    ¬ SignMayWait (tokens ++ [token]) := by
  intro h
  obtain ⟨awaiting, hmem, -⟩ := h tokens token [] rfl ht (List.forall_mem_nil _)
  exact List.not_mem_nil hmem

/-- After another token that awaits no operand a sign may wait only if it might do so before. -/
theorem SignMayWait.of_concat (h : SignMayWait (tokens ++ [token]))
    (ht : token.isLiteral = false) (hawaits : token.awaitsOperand = false) :
    SignMayWait tokens := by
  intro earlier literal between hsplit hliteral hbetween
  have hnone : ∀ t ∈ between ++ [token], t.isLiteral = false := by
    intro t hmem
    rcases List.mem_append.mp hmem with hmem | hmem
    · exact hbetween t hmem
    · rwa [List.mem_singleton.mp hmem]
  obtain ⟨awaiting, hmem, hawaiting⟩ := h earlier literal (between ++ [token])
    (by rw [hsplit, List.append_assoc, List.cons_append]) hliteral hnone
  rcases List.mem_append.mp hmem with hmem | hmem
  · exact ⟨awaiting, hmem, hawaiting⟩
  · rw [List.mem_singleton.mp hmem, hawaits] at hawaiting
    cases hawaiting

/-- The literal of a run fits wherever its sign may wait. -/
theorem fits_ofLiteral {run : List Char} (hne : run ≠ [])
    (hall : ∀ c ∈ run, isLiteralChar c = true) (negative : Bool)
    (hsigned : negative = true → SignMayWait tokens) :
    Fits tokens (ofLiteral (if negative then '-' :: run else run)) := by
  have hliterally := literally_ofLiteral (if negative then '-' :: run else run)
  generalize htext : (if negative then '-' :: run else run) = text at hliterally ⊢
  generalize ofLiteral text = token at hliterally ⊢
  cases hliterally with
  | number l rounded =>
      refine .number l rounded fun hl => hsigned ?_
      cases negative with
      | true => rfl
      | false =>
          have hhead : '-' ∈ run := by
            have : run = '-' :: l.unsigned := by simpa [Numeral.chars, hl] using htext
            rw [this]
            exact List.mem_cons_self
          exact absurd (hall '-' hhead) (by decide)
  | malformed shapeless =>
      subst htext
      exact .malformed negative hne hall shapeless hsigned

/-- A literal that fits is that of a run, and its sign may wait. -/
theorem Fits.exists_run (h : Fits tokens token) (ht : token.isLiteral = true) :
    ∃ (negative : Bool) (run : List Char), run ≠ [] ∧ (∀ c ∈ run, isLiteralChar c = true) ∧
      token = ofLiteral (if negative then '-' :: run else run) ∧
      (negative = true → SignMayWait tokens) := by
  cases h with
  | number l rounded signed =>
      refine ⟨l.negative, l.unsigned, l.unsigned_ne_nil, fun c hc => ?_,
        (Literally.number l rounded).eq_ofLiteral, signed⟩
      simpa [isLiteralChar] using l.isDigit_or_point_of_mem_unsigned hc
  | malformed negative nonempty chars shapeless signed =>
      exact ⟨negative, _, nonempty, chars, (Literally.malformed shapeless).eq_ofLiteral, signed⟩
  | minus _ _ => cases ht
  | operation _ => cases ht
  | openBracket => cases ht
  | closeBracket => cases ht

/-- Any other token that fits is that of a symbol, and no operand is due before a minus operator. -/
theorem Fits.exists_symbol (h : Fits tokens token) (ht : token.isLiteral = false) :
    ∃ c, ofSymbol? c = some token ∧ token.text.toList = [c] ∧
      (c = '-' → tokens.getLast?.all Token.awaitsOperand = false) := by
  cases h with
  | number _ _ _ => cases ht
  | malformed _ _ _ _ _ => cases ht
  | minus last_eq operand =>
      refine ⟨'-', rfl, rfl, fun _ => ?_⟩
      rw [last_eq, Option.all_some, awaitsOperand_eq_false_iff]
      exact operand
  | @operation op other =>
      refine ⟨op.symbol, ofSymbol?_symbol op, String.toList_singleton _, fun hc => ?_⟩
      cases op <;> first | exact absurd rfl other | exact absurd hc (by decide)
  | openBracket => exact ⟨'(', rfl, rfl, fun hc => absurd hc (by decide)⟩
  | closeBracket => exact ⟨')', rfl, rfl, fun hc => absurd hc (by decide)⟩

end Token

/-! ### What a scanner has found -/

namespace Scanner

open Token (Scannable SignMayWait Fits)

/-- The tokens are scannable, the run has characters of literals only, and a sign waits only where
it may. -/
structure Sound (s : Scanner) : Prop where
  scannable : Scannable s.tokens.reverse
  run_chars : ∀ c ∈ s.run, isLiteralChar c = true
  may_wait : s.signed = true → SignMayWait s.tokens.reverse

variable {s : Scanner}

/-- At the beginning nothing has been found. -/
theorem sound_init : Sound {} :=
  ⟨Token.scannable_nil, List.forall_mem_nil _, fun h => absurd h (by decide)⟩

/-- The literal of a run that ends fits its place. -/
theorem Sound.flush (h : s.Sound) : s.flush.Sound := by
  by_cases hrun : s.run = []
  · rwa [flush_of_run_nil hrun]
  · obtain ⟨htokens, hsigned⟩ := flush_of_run hrun
    refine ⟨?_, by simp, by simp [hsigned]⟩
    rw [htokens, List.reverse_cons]
    refine h.scannable.concat (Token.fits_ofLiteral ?_ ?_ s.signed h.may_wait)
    · simpa using hrun
    · simpa using h.run_chars

/-- Whether an operand is due is a matter of the last token. -/
theorem awaitsOperand_eq (s : Scanner) :
    s.awaitsOperand = s.tokens.reverse.getLast?.all Token.awaitsOperand := by
  unfold awaitsOperand
  cases s.tokens with
  | nil => rfl
  | cons last tokens => simp

/-- Where an operand is due a sign may wait. -/
theorem signMayWait_of_awaitsOperand (h : s.awaitsOperand = true) :
    SignMayWait s.tokens.reverse := by
  unfold awaitsOperand at h
  cases htokens : s.tokens with
  | nil => exact Token.signMayWait_nil
  | cons last tokens =>
      rw [htokens] at h
      rw [List.reverse_cons]
      exact Token.signMayWait_concat _ h

/-- Where no operand is due the tokens end in an operand or a closing bracket. -/
theorem exists_last_of_awaitsOperand (h : s.awaitsOperand = false) :
    ∃ last, s.tokens.reverse.getLast? = some last ∧
      (last.isLiteral = true ∨ last = .closeBracket) := by
  rw [awaitsOperand_eq, Option.all_eq_false] at h
  obtain ⟨last, hlast, hawaits⟩ := h
  exact ⟨last, hlast, Token.awaitsOperand_eq_false_iff.mp hawaits⟩

/-- The token of a symbol fits, unless it is a minus sign where an operand is due. -/
theorem fits_of_ofSymbol? {c : Char} {token : Token} (hc : Token.ofSymbol? c = some token)
    (h : c = '-' → s.awaitsOperand = false) : Fits s.tokens.reverse token := by
  cases Token.ofSymbol?_eq_some_iff.mp hc with
  | operation op =>
      by_cases hop : op = .minus
      · subst hop
        obtain ⟨last, hlast, hoperand⟩ := exists_last_of_awaitsOperand (h rfl)
        exact .minus hlast hoperand
      · exact .operation hop
  | openBracket => exact .openBracket
  | closeBracket => exact .closeBracket

/-- A separator adds a token that fits, or a sign that may wait. -/
theorem Sound.separate (h : s.Sound) (c : Char) : (s.separate c).Sound := by
  unfold Scanner.separate
  split
  case isTrue hsign =>
    exact ⟨h.scannable, h.run_chars, fun _ => signMayWait_of_awaitsOperand hsign.2⟩
  case isFalse hsign =>
    split
    case h_1 token htoken =>
      have hfits : Fits s.tokens.reverse token :=
        fits_of_ofSymbol? htoken fun hc => by simpa [hc] using hsign
      refine ⟨?_, h.run_chars, fun hsigned => ?_⟩
      · rw [List.reverse_cons]
        exact h.scannable.concat hfits
      · rw [List.reverse_cons]
        exact (h.may_wait hsigned).concat (Token.isLiteral_of_ofSymbol? htoken)
    case h_2 => exact h

/-- Whatever the next character is, what has been found stays sound. -/
theorem Sound.step (h : s.Sound) (c : Char) : (s.step c).Sound := by
  unfold Scanner.step
  split
  case isTrue hc =>
    refine ⟨h.scannable, fun d hd => ?_, h.may_wait⟩
    rcases List.mem_cons.mp hd with rfl | hd
    · exact hc
    · exact h.run_chars d hd
  case isFalse => exact h.flush.separate c

/-- So it is after every text. -/
theorem Sound.foldl (h : s.Sound) (text : List Char) : (text.foldl Scanner.step s).Sound := by
  induction text generalizing s with
  | nil => exact h
  | cons c text ih => exact ih (h.step c)

/-! ### Texts for scannable lists -/

/-- Where no run has begun, a run adds its literal, which takes the waiting sign. -/
theorem flush_foldl_run {s : Scanner} (h : s.run = []) {run : List Char} (hne : run ≠ [])
    (hall : ∀ c ∈ run, isLiteralChar c = true) :
    (run.foldl Scanner.step s).flush.tokens =
        Token.ofLiteral (if s.signed then '-' :: run else run) :: s.tokens ∧
      (run.foldl Scanner.step s).flush.signed = false := by
  have hrun : ({ s with run := run.reverse } : Scanner).run ≠ [] := by simpa using hne
  rw [foldl_step_of_isLiteralChar _ hall, h, List.append_nil]
  simpa [Scanner.literal] using flush_of_run hrun

/-- `Spells text tokens waiting`: the text leads to the tokens, with no run begun, and with a sign
waiting or not. -/
structure Spells (text : List Char) (tokens : List Token) (waiting : Bool) : Prop where
  run_nil : (text.foldl step {}).run = []
  tokens_eq : (text.foldl step {}).tokens.reverse = tokens
  signed_eq : (text.foldl step {}).signed = waiting

variable {text : List Char} {tokens : List Token} {waiting : Bool}

/-- The empty text spells the empty list. -/
theorem spells_nil : Spells [] [] false := ⟨rfl, rfl, rfl⟩

/-- A symbol adds its token, and a sign goes on waiting. -/
theorem Spells.symbol (h : Spells text tokens waiting) {c : Char} {token : Token}
    (hc : Token.ofSymbol? c = some token)
    (hminus : c = '-' → tokens.getLast?.all Token.awaitsOperand = false) :
    Spells (text ++ [c]) (tokens ++ [token]) waiting := by
  have hflush := flush_of_run_nil h.run_nil
  have hstep := step_of_symbol (text.foldl step {}) hc fun hsign => by
    rw [hflush, awaitsOperand_eq, h.tokens_eq, hminus hsign]
  rw [hflush] at hstep
  constructor
  · rw [List.foldl_concat, hstep, h.run_nil]
  · rw [List.foldl_concat, hstep, List.reverse_cons, h.tokens_eq]
  · rw [List.foldl_concat, hstep, h.signed_eq]

/-- A minus sign where an operand is due is left waiting. -/
theorem Spells.sign (h : Spells text tokens waiting)
    (hdue : tokens.getLast?.all Token.awaitsOperand = true) :
    Spells (text ++ ['-']) tokens true := by
  have hflush := flush_of_run_nil h.run_nil
  have hstep := step_minus (text.foldl step {}) (by
    rw [hflush, awaitsOperand_eq, h.tokens_eq, hdue])
  rw [hflush] at hstep
  constructor
  · rw [List.foldl_concat, hstep, h.run_nil]
  · rw [List.foldl_concat, hstep, h.tokens_eq]
  · rw [List.foldl_concat, hstep]

/-- A run and a space add a literal, which takes the waiting sign. -/
theorem Spells.literal (h : Spells text tokens waiting) {run : List Char} (hne : run ≠ [])
    (hall : ∀ c ∈ run, isLiteralChar c = true) :
    Spells (text ++ (run ++ [' ']))
      (tokens ++ [Token.ofLiteral (if waiting then '-' :: run else run)]) false := by
  have hend : (text ++ (run ++ [' '])).foldl step {} =
      (run.foldl step (text.foldl step {})).flush := by
    rw [List.foldl_append, List.foldl_concat, step_of_ignored _ (by decide)]
  obtain ⟨htokens, hsigned⟩ := flush_foldl_run h.run_nil hne hall
  constructor
  · rw [hend, run_flush]
  · rw [hend, htokens, List.reverse_cons, h.tokens_eq, h.signed_eq]
  · rw [hend, hsigned]

/-- One more symbol, where the tokens before it can be spelled with a sign waiting or without. A
sign that may wait after the symbol was already waiting before it, or is put directly after it. -/
theorem exists_spells_symbol {c : Char} {token : Token} (hc : Token.ofSymbol? c = some token)
    (hminus : c = '-' → tokens.getLast?.all Token.awaitsOperand = false)
    (hspells : ∀ waiting, (waiting = true → SignMayWait tokens) →
      ∃ text, Spells text tokens waiting)
    (hwaits : waiting = true → SignMayWait (tokens ++ [token])) :
    ∃ text, Spells text (tokens ++ [token]) waiting := by
  by_cases hbefore : waiting = true → SignMayWait tokens
  · obtain ⟨text, htext⟩ := hspells waiting hbefore
    exact ⟨_, htext.symbol hc hminus⟩
  · obtain ⟨rfl, hnot⟩ := Classical.not_imp.mp hbefore
    have hawaits : token.awaitsOperand = true := by
      by_contra hawaits
      exact hnot ((hwaits rfl).of_concat (Token.isLiteral_of_ofSymbol? hc) (by simpa using hawaits))
    obtain ⟨text, htext⟩ := hspells false nofun
    exact ⟨_, (htext.symbol hc hminus).sign (by simpa using hawaits)⟩

/-- Every scannable list can be spelled, with a sign waiting at its end wherever one may. -/
theorem exists_spells (h : Scannable tokens) (waiting : Bool)
    (hwaits : waiting = true → SignMayWait tokens) : ∃ text, Spells text tokens waiting := by
  induction tokens using List.reverseRecOn generalizing waiting with
  | nil =>
      cases waiting with
      | false => exact ⟨_, spells_nil⟩
      | true => exact ⟨_, spells_nil.sign rfl⟩
  | append_singleton tokens token ih =>
      obtain ⟨hbefore, hfits⟩ := h.of_concat
      cases hliteral : token.isLiteral with
      | true =>
          -- A literal takes the sign, so that none is waiting after it.
          obtain rfl : waiting = false := by
            by_contra hwaiting
            exact Token.not_signMayWait_concat hliteral (hwaits (by simpa using hwaiting))
          obtain ⟨negative, run, hne, hall, rfl, hsigned⟩ := hfits.exists_run hliteral
          obtain ⟨text, htext⟩ := ih hbefore negative hsigned
          exact ⟨_, htext.literal hne hall⟩
      | false =>
          obtain ⟨c, hc, -, hminus⟩ := hfits.exists_symbol hliteral
          exact exists_spells_symbol hc hminus (ih hbefore) hwaits

end Scanner

/-! ### The image of the scan -/

/-- The tokens of every text are scannable. -/
theorem scannable_scan (text : String) : Token.Scannable (Token.scan text).value :=
  (Scanner.sound_init.foldl text.toList).flush.scannable

/-- Every scannable list is the scan of a text. -/
theorem exists_scan_of_scannable {tokens : List Token} (h : Token.Scannable tokens) :
    ∃ text, (Token.scan text).value = tokens := by
  obtain ⟨text, htext⟩ := Scanner.exists_spells h false nofun
  refine ⟨String.ofList text, ?_⟩
  rw [Token.scan, String.toList_ofList, Scanner.read, Scanner.flush_of_run_nil htext.run_nil,
    htext.tokens_eq]

/-- **What a scan can find.** A list of tokens is the scan of some text exactly if every token in it
fits its place. -/
theorem exists_scan_iff (tokens : List Token) :
    (∃ text, (Token.scan text).value = tokens) ↔ Token.Scannable tokens := by
  constructor
  · rintro ⟨text, rfl⟩
    exact scannable_scan text
  · exact exists_scan_of_scannable

end PocketCalculator
