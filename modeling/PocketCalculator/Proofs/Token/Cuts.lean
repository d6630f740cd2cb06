import PocketCalculator.Proofs.Token.Words

/-!
# Cutting a text in two

A text that is typed on does not change the tokens that are finished. Finished are the tokens of the
text so far, unless it ends in the middle of a run and what is typed goes on with the run
(`InsideRun`). Everywhere else the end of the run is only a matter of when: whether the run is ended
before the second part or by its first character, the state is the same (`Scanner.read_append`). So
a text of ignored characters at such a place has no effect, and a place inside a run becomes such a
place by it.

Tokens that have been found stay (`Scanner.tokens_suffix_foldl`), which makes the tokens of the
first part the beginning of the tokens of the whole.

* **`scan_append`**: the tokens of a text and of a text that goes on, with ignored characters in
  between or without; and that inside a run the last token of the first part is not among the
  tokens of the whole.
-/

namespace PocketCalculator

open Scanner (isLiteralChar)

/-- Between the two texts is the middle of a run: the first one ends with a digit or a point, and
the second one begins with one. -/
def InsideRun (first second : List Char) : Prop :=
  first.getLast?.any isLiteralChar = true ∧ second.head?.any isLiteralChar = true

instance (first second : List Char) : Decidable (InsideRun first second) :=
  inferInstanceAs (Decidable (_ ∧ _))

namespace Scanner

variable (s : Scanner)

/-! ### Tokens that have been found stay -/

/-- The end of a run adds to the tokens, -/
theorem tokens_suffix_flush : s.tokens <:+ s.flush.tokens := by
  by_cases h : s.run = []
  · rw [flush_of_run_nil h]
  · rw [(flush_of_run h).1]
    exact List.suffix_cons _ _

/-- and so does a separator, -/
theorem tokens_suffix_separate (c : Char) : s.tokens <:+ (s.separate c).tokens := by
  unfold separate
  split
  · exact List.suffix_refl _
  · split
    · exact List.suffix_cons _ _
    · exact List.suffix_refl _

/-- any character, -/
theorem tokens_suffix_step (c : Char) : s.tokens <:+ (s.step c).tokens := by
  unfold step
  split
  · exact List.suffix_refl _
  · exact s.tokens_suffix_flush.trans (s.flush.tokens_suffix_separate c)

/-- and any text. -/
theorem tokens_suffix_foldl (text : List Char) : s.tokens <:+ (text.foldl step s).tokens := by
  induction text generalizing s with
  | nil => exact List.suffix_refl _
  | cons c text ih => exact (s.tokens_suffix_step c).trans (ih (s.step c))

/-! ### The end of a run -/

/-- A separator does not go on with a run. -/
theorem run_separate (c : Char) : (s.separate c).run = s.run := by
  unfold separate
  split
  · rfl
  · split <;> rfl

/-- After a character that is not part of a literal no run has begun. -/
theorem run_step {c : Char} (h : isLiteralChar c = false) : (s.step c).run = [] := by
  simp [step, h, run_separate]

/-- A text that does not end inside a run ends with no run begun. -/
theorem run_foldl {text : List Char} (h : text.getLast?.any isLiteralChar = false) :
    (text.foldl step {}).run = [] := by
  induction text using List.reverseRecOn with
  | nil => rfl
  | append_singleton text c =>
      rw [List.foldl_concat]
      exact run_step _ (by simpa using h)

/-- A gap that is not empty ends the run. -/
theorem foldl_gap_of_ne_nil {u : List Char} (hne : u ≠ []) (hu : Gap u) :
    u.foldl step s = s.flush := by
  cases u with
  | nil => exact absurd rfl hne
  | cons c u =>
      rw [List.foldl_cons, step_of_ignored s (hu c List.mem_cons_self)]
      exact foldl_gap (fun d hd => hu d (List.mem_cons_of_mem c hd)) s.run_flush

variable {first second : List Char}

/-- Outside a run it does not matter whether the run is ended before the second text. -/
theorem read_append (h : ¬ InsideRun first second) :
    read (first ++ second) = (second.foldl step (read first)).flush := by
  rw [read, read, List.foldl_append]
  by_cases hend : first.getLast?.any isLiteralChar = true
  · have hbegin : ∀ c ∈ second.head?, isLiteralChar c = false := by
      intro c hc
      by_contra hliteral
      exact h ⟨hend, by simpa [Option.mem_def.mp hc] using hliteral⟩
    exact flush_foldl_flush hbegin _
  · rw [flush_of_run_nil (run_foldl (by simpa using hend))]

/-- A gap ends the run before the second text. -/
theorem read_append_gap {u : List Char} (hne : u ≠ []) (hu : Gap u) :
    read (first ++ u ++ second) = (second.foldl step (read first)).flush := by
  rw [read, read, List.foldl_append, List.foldl_append, foldl_gap_of_ne_nil _ hne hu]

/-- What is read after a text adds to its tokens. -/
theorem tokens_prefix_foldl (text : List Char) :
    s.tokens.reverse <+: (text.foldl step s).flush.tokens.reverse :=
  List.reverse_prefix.mpr ((s.tokens_suffix_foldl text).trans (tokens_suffix_flush _))

/-! ### A run that goes on -/

/-- A text that ends inside a run ends with a run begun. -/
theorem run_foldl_ne_nil {text : List Char} (h : text.getLast?.any isLiteralChar = true) :
    (text.foldl step s).run ≠ [] := by
  rcases List.eq_nil_or_concat' text with rfl | ⟨earlier, c, rfl⟩
  · cases h
  · rw [List.foldl_concat, step_of_isLiteralChar _ (by simpa using h)]
    exact List.cons_ne_nil _ _

/-- A run that goes on becomes one literal with what it goes on with. -/
theorem tokens_suffix_of_run {s : Scanner} (h : s.run ≠ []) (text : List Char) :
    (Token.ofLiteral (s.literal ++ text.takeWhile isLiteralChar) :: s.tokens) <:+
      (text.foldl step s).flush.tokens := by
  let t : Scanner := { s with run := (text.takeWhile isLiteralChar).reverse ++ s.run }
  have hrun : t.run ≠ [] := List.append_ne_nil_of_right_ne_nil _ h
  have hliteral : t.literal = s.literal ++ text.takeWhile isLiteralChar := by
    unfold literal
    split <;> simp [t]
  rw [flush_foldl_eq, ← hliteral, ← (flush_of_run hrun).1]
  exact (tokens_suffix_foldl _ _).trans (tokens_suffix_flush _)

/-- Inside a run the last token of the first text is not a token of the whole. -/
theorem not_tokens_prefix (h : InsideRun first second) :
    ¬ (read first).tokens.reverse <+: (read (first ++ second)).tokens.reverse := by
  obtain ⟨hend, hbegin⟩ := h
  have hrun := run_foldl_ne_nil {} hend
  have hmore : second.takeWhile isLiteralChar ≠ [] := by
    cases second with
    | nil => cases hbegin
    | cons c later =>
        rw [List.takeWhile_cons_of_pos (by simpa using hbegin)]
        exact List.cons_ne_nil _ _
  have hwhole := tokens_suffix_of_run hrun second
  rw [← List.foldl_append] at hwhole
  rw [List.reverse_prefix, read, (flush_of_run hrun).1]
  intro hpart
  -- Two ends of the same list and of the same length are equal, and then so are the literals.
  have hsame := List.suffix_of_suffix_length_le hpart hwhole (Nat.le_refl _)
  have hliteral := List.head_eq_of_cons_eq (hsame.eq_of_length rfl)
  have htexts := congrArg (fun token => token.text.toList) hliteral
  simp only [Token.text_ofLiteral, String.toList_ofList, List.self_eq_append_right] at htexts
  exact hmore htexts

end Scanner

open Scanner (read)

/-- The scan of a text is decided by the state at its end. -/
theorem scan_congr {first second : String} (h : read first.toList = read second.toList) :
    Token.scan first = Token.scan second := by
  rw [Token.scan, h]
  rfl

/-- **Cutting a text.** Outside a run, the tokens of a text are the beginning of the tokens of a
text that goes on, and characters that mean nothing may stand in between: the tokens are the same,
and so are the postfix order and the value, with their records. Inside a run the last token of the
first text is lost in the longer literal; but if characters that mean nothing stand in between, the
tokens of the first text are again the beginning of the tokens. -/
theorem scan_append (a b : String) :
    (¬ InsideRun a.toList b.toList →
      (Token.scan a).value <+: (Token.scan (a ++ b)).value ∧
        ∀ w : String, Gap w.toList →
          Token.scan (a ++ w ++ b) = Token.scan (a ++ b) ∧
            toRpn (a ++ w ++ b) = toRpn (a ++ b) ∧ evaluate (a ++ w ++ b) = evaluate (a ++ b)) ∧
      (InsideRun a.toList b.toList →
        ¬ (Token.scan a).value <+: (Token.scan (a ++ b)).value ∧
          ∀ w : String, Gap w.toList → w ≠ "" →
            (Token.scan a).value <+: (Token.scan (a ++ w ++ b)).value) := by
  constructor
  · intro hcut
    have happend := Scanner.read_append hcut
    refine ⟨?_, fun w hw => ?_⟩
    · simp only [Token.scan, String.toList_append, happend]
      exact Scanner.tokens_prefix_foldl _ _
    · have hscan : Token.scan (a ++ w ++ b) = Token.scan (a ++ b) := by
        by_cases hempty : w.toList = []
        · rw [String.toList_eq_nil_iff.mp hempty, String.append_empty]
        · apply scan_congr
          simp only [String.toList_append, Scanner.read_append_gap hempty hw, happend]
      exact ⟨hscan, by rw [toRpn, hscan, toRpn], by rw [evaluate, hscan, evaluate]⟩
  · intro hrun
    refine ⟨?_, fun w hw hne => ?_⟩
    · simp only [Token.scan, String.toList_append]
      exact Scanner.not_tokens_prefix hrun
    · have hne' : w.toList ≠ [] := fun hempty => hne (String.toList_eq_nil_iff.mp hempty)
      simp only [Token.scan, String.toList_append, Scanner.read_append_gap hne' hw]
      exact Scanner.tokens_prefix_foldl _ _

/-- A cut behind a sign that waits for its literal, and a cut inside a literal. -/
theorem scan_append_sign :
    ¬ InsideRun "2*-".toList "3".toList ∧ Gap " e".toList ∧
      (Token.scan "2*-").value <+: (Token.scan ("2*-" ++ "3")).value ∧
      Token.scan ("2*-" ++ " e" ++ "3") = Token.scan ("2*-" ++ "3") ∧
      InsideRun "-2".toList ".5".toList ∧
      ¬ (Token.scan "-2").value <+: (Token.scan ("-2" ++ ".5")).value ∧
      (Token.scan "-2").value <+: (Token.scan ("-2" ++ " e" ++ ".5")).value := by
  have hcut : ¬ InsideRun "2*-".toList "3".toList := by decide
  have hrun : InsideRun "-2".toList ".5".toList := by decide
  have hgap : Gap " e".toList := by
    intro c hc
    obtain rfl | rfl : c = ' ' ∨ c = 'e' := by simpa using hc
    · decide
    · decide
  have houtside := (scan_append "2*-" "3").1 hcut
  have hinside := (scan_append "-2" ".5").2 hrun
  exact ⟨hcut, hgap, houtside.1, (houtside.2 " e" hgap).1, hrun, hinside.1,
    hinside.2 " e" hgap (by decide)⟩

end PocketCalculator
