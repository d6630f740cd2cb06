import PocketCalculator.Evaluation
import PocketCalculator.Proofs.Postfix.Members
import PocketCalculator.Proofs.Token.Scan

/-!
# Reading shown tokens back

Lists of tokens are shown as words with single spaces between them, and the words can be read back:
a symbol on its own is its token, any other word a literal (`Token.ofWord`). A list is read back as
it was if each of its tokens is the token of its own text and the text is one word (`Token.Plain`).
Every token of a scan is plain, because runs consist of digits and points and are not empty; the
postfix order has no other tokens.

* **`shown_tokens_read_back`**: the tokens and the postfix order of every text are read back from
  what is shown of them, and with them the value of the text.
-/

namespace PocketCalculator

open Binary
open Scanner (isLiteralChar)

/-! ### Words -/

/-- The words of a text: what stands between single spaces; the empty text has none. -/
def words (text : String) : List (List Char) :=
  if text = "" then [] else text.toList.splitOn ' '

namespace Token

/-- The token of a word. -/
def ofWord (word : List Char) : Token :=
  match word with
  | [c] => (ofSymbol? c).getD (ofLiteral [c])
  | _ => ofLiteral word

/-- The tokens of a text of words. -/
def ofWords (text : String) : List Token := (words text).map ofWord

/-- What a word is as a token: a symbol on its own, or a literal. -/
inductive Worded : List Char → Token → Prop where
  | symbol {c : Char} {token : Token} (h : ofSymbol? c = some token) : Worded [c] token
  | literal {word : List Char} {token : Token} (other : ∀ c, word = [c] → ofSymbol? c = none)
      (literally : Literally word token) : Worded word token

/-- Words are read so. -/
theorem worded_ofWord (word : List Char) : Worded word (ofWord word) := by
  unfold ofWord
  split
  case h_1 c =>
    cases hsymbol : ofSymbol? c with
    | some token => exact .symbol hsymbol
    | none =>
        refine .literal (fun d hd => ?_) (literally_ofLiteral _)
        rw [← List.head_eq_of_cons_eq hd, hsymbol]
  case h_2 hother =>
    exact .literal (fun c hc => absurd hc (hother c)) (literally_ofLiteral word)

/-- A word that is no symbol is read as a literal. -/
theorem ofWord_eq_ofLiteral {word : List Char} (h : ∀ c, word = [c] → ofSymbol? c = none) :
    ofWord word = ofLiteral word := by
  unfold ofWord
  split
  case h_1 c => rw [h c rfl, Option.getD_none]
  case h_2 => rfl

/-! ### Tokens that are read back -/

/-- The text of the token is one word, which is read as the token. -/
structure Plain (token : Token) : Prop where
  text_ne_nil : token.text.toList ≠ []
  space_not_mem : ' ' ∉ token.text.toList
  ofWord_text : ofWord token.text.toList = token

/-- The text of a literal token is the literal. -/
theorem text_ofLiteral (text : List Char) : (ofLiteral text).text = String.ofList text := by
  unfold ofLiteral
  cases Numeral.read? text <;> rfl

/-- Shown tokens, as characters. -/
theorem toList_joined (tokens : List Token) :
    (joined tokens).toList = [' '].intercalate (tokens.map fun token => token.text.toList) := by
  induction tokens with
  | nil => rfl
  | cons token tokens ih =>
      cases tokens with
      | nil => rw [joined_singleton, List.map_singleton, List.intercalate_singleton]
      | cons next tokens =>
          rw [joined_cons_cons, String.toList_append, String.toList_append, ih, List.map_cons,
            List.map_cons, List.map_cons, List.intercalate_cons_cons]
          rfl

/-- Shown tokens are an empty text only if there are none. -/
theorem joined_ne_empty {token : Token} (h : token.Plain) (tokens : List Token) :
    joined (token :: tokens) ≠ "" := by
  intro hempty
  refine h.text_ne_nil ?_
  have hchars : (joined (token :: tokens)).toList = [] := by rw [hempty]; rfl
  cases tokens with
  | nil => exact hchars
  | cons next tokens =>
      rw [joined_cons_cons, String.toList_append, String.toList_append] at hchars
      exact (List.append_eq_nil_iff.mp (List.append_eq_nil_iff.mp hchars).1).1

/-- Plain tokens are read back from what is shown of them. -/
theorem ofWords_joined {tokens : List Token} (h : ∀ token ∈ tokens, Plain token) :
    ofWords (joined tokens) = tokens := by
  cases tokens with
  | nil => rfl
  | cons token tokens =>
      have hspaces : ∀ word ∈ (token :: tokens).map fun t => t.text.toList, ' ' ∉ word := by
        intro word hword
        obtain ⟨t, ht, rfl⟩ := List.mem_map.mp hword
        exact (h t ht).space_not_mem
      have hwords : words (joined (token :: tokens)) =
          (token :: tokens).map fun t => t.text.toList := by
        rw [words, if_neg (joined_ne_empty (h token List.mem_cons_self) tokens), toList_joined,
          List.splitOn_intercalate _ hspaces (by simp)]
      rw [ofWords, hwords, List.map_map]
      exact (List.map_congr_left fun t ht => (h t ht).ofWord_text).trans (List.map_id _)

end Token

/-! ### The tokens of a scan -/

/-- What the lexemes of a text are: runs are not empty and have only digits and points. -/
def Lexeme.Sound : Lexeme → Prop
  | .run chars => chars ≠ [] ∧ ∀ c ∈ chars, isLiteralChar c = true
  | .symbol c => c ∈ Lexeme.symbols

/-- The lexemes of a text are of this form. -/
theorem sound_of_mem_lexemes {text : List Char} {l : Lexeme} (h : l ∈ lexemes text) : l.Sound := by
  fun_induction lexemes text with
  | case1 => cases h
  | case2 c text hc ih =>
      rcases List.mem_cons.mp h with rfl | hrest
      · refine ⟨List.cons_ne_nil _ _, fun d hd => ?_⟩
        rcases List.mem_cons.mp hd with rfl | hd
        · exact hc
        · exact List.mem_takeWhile_imp hd
      · exact ih hrest
  | case3 c text hc hsymbol ih =>
      rcases List.mem_cons.mp h with rfl | hrest
      · exact hsymbol
      · exact ih hrest
  | case4 c text hc hsymbol ih => exact ih h

namespace Token

/-- The token of a symbol is plain. -/
theorem plain_of_ofSymbol? {c : Char} {token : Token} (h : ofSymbol? c = some token) :
    token.Plain := by
  cases ofSymbol?_eq_some_iff.mp h with
  | operation op => cases op <;> exact ⟨by decide, by decide, rfl⟩
  | openBracket => exact ⟨by decide, by decide, rfl⟩
  | closeBracket => exact ⟨by decide, by decide, rfl⟩

/-- The token of a run is plain, with or without a sign. -/
theorem plain_ofLiteral {run : List Char} (h : (Lexeme.run run).Sound) (signed : Prop)
    [Decidable signed] : (ofLiteral (if signed then '-' :: run else run)).Plain := by
  obtain ⟨hne, hall⟩ := h
  have hspace : ' ' ∉ run := fun hmem => absurd (hall ' ' hmem) (by decide)
  have hsymbol : ∀ c, run = [c] → ofSymbol? c = none := by
    rintro c rfl
    refine Option.eq_none_iff_forall_ne_some.mpr fun token htoken => ?_
    have hc : isLiteralChar c = true := hall c List.mem_cons_self
    rw [(Scanner.isLiteralChar_of_ofSymbol? htoken).1] at hc
    cases hc
  split
  case isTrue =>
    constructor
    · rw [text_ofLiteral, String.toList_ofList]
      exact List.cons_ne_nil _ _
    · rw [text_ofLiteral, String.toList_ofList, List.mem_cons, not_or]
      exact ⟨by decide, hspace⟩
    · rw [text_ofLiteral, String.toList_ofList]
      exact ofWord_eq_ofLiteral fun c hc => absurd (List.cons.inj hc).2 hne
  case isFalse =>
    constructor
    · rwa [text_ofLiteral, String.toList_ofList]
    · rwa [text_ofLiteral, String.toList_ofList]
    · rw [text_ofLiteral, String.toList_ofList]
      exact ofWord_eq_ofLiteral hsymbol

end Token

/-- The tokens of lexemes are plain. -/
theorem plain_of_mem_tokens {before lexemes : List Lexeme} (h : ∀ l ∈ lexemes, l.Sound)
    {token : Token} (hmem : token ∈ Lexeme.tokens before lexemes) : token.Plain := by
  induction lexemes generalizing before with
  | nil => cases hmem
  | cons l lexemes ih =>
      rw [Lexeme.tokens, List.mem_append, Option.mem_toList] at hmem
      rcases hmem with hfirst | hrest
      · have hl := h l List.mem_cons_self
        cases l with
        | run chars =>
            obtain rfl := Option.some.inj hfirst
            exact Token.plain_ofLiteral hl _
        | symbol c =>
            rw [Lexeme.token?_symbol] at hfirst
            split at hfirst
            case isTrue => cases hfirst
            case isFalse => exact Token.plain_of_ofSymbol? hfirst
      · exact ih (fun m hm => h m (List.mem_cons_of_mem l hm)) hrest

/-- The tokens of every text are plain. -/
theorem plain_of_mem_scan {text : String} {token : Token} (h : token ∈ (Token.scan text).value) :
    token.Plain := by
  rw [value_scan] at h
  exact plain_of_mem_tokens (fun _ hl => sound_of_mem_lexemes hl) h

/-! ### Reading back -/

/-- What is shown of the postfix order of a text gives the postfix order back. -/
theorem ofWords_toRpn (text : String) :
    Token.ofWords (toRpn text).value = (Postfix.ofTokens (Token.scan text).value).value := by
  rw [toRpn, Logged.value_bind, Logged.value_bind, Logged.value_pure]
  exact Token.ofWords_joined fun _ h => plain_of_mem_scan (mem_of_mem_ofTokens h)

/-- The postfix order that is shown of a text has its value. -/
theorem value_ofWords_toRpn (text : String) :
    (Postfix.value (Token.ofWords (toRpn text).value)).value = (evaluate text).value := by
  rw [ofWords_toRpn, evaluate, Logged.value_bind, Logged.value_bind]

/-- **Shown tokens read back.** Read word by word, what is shown of the tokens of a text gives its
tokens back, and what is shown of its postfix order gives that back, and so the value of the text;
texts that are shown with the same postfix order have the same value. -/
theorem shown_tokens_read_back (text : String) :
    Token.ofWords (Token.joined (Token.scan text).value) = (Token.scan text).value ∧
      Token.ofWords (toRpn text).value = (Postfix.ofTokens (Token.scan text).value).value ∧
      (Postfix.value (Token.ofWords (toRpn text).value)).value = (evaluate text).value ∧
      (∀ other, (toRpn text).value = (toRpn other).value →
        (evaluate text).value = (evaluate other).value) ∧
      ∀ word, Token.Worded word (Token.ofWord word) := by
  refine ⟨Token.ofWords_joined fun _ h => plain_of_mem_scan h, ofWords_toRpn text,
    value_ofWords_toRpn text, fun other h => ?_, Token.worded_ofWord⟩
  rw [← value_ofWords_toRpn, h, value_ofWords_toRpn]

/-- Brackets that the postfix order does not need do not change the value. -/
theorem shown_tokens_read_back_bracketed_sum :
    (toRpn "1+2").value = (toRpn "(1+2)").value ∧
      (evaluate "1+2").value = (evaluate "(1+2)").value :=
  have hshown : (toRpn "1+2").value = (toRpn "(1+2)").value := by decide +kernel
  ⟨hshown, (shown_tokens_read_back "1+2").2.2.2.1 "(1+2)" hshown⟩

end PocketCalculator
