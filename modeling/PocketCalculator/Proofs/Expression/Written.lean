import PocketCalculator.Evaluation
import PocketCalculator.Proofs.Binary.Arithmetic
import PocketCalculator.Proofs.Decimal.Value
import PocketCalculator.Proofs.Expression.Grammar
import PocketCalculator.Proofs.Token.Characters

/-!
# Written expressions

How a tree of literals may be written as a text. `Writes` follows the levels of the grammar on
characters: brackets stand wherever an operand would otherwise be torn apart and anywhere else one
likes, a minus sign stands before the digits of its literal, and between any two lexemes there may
be a `Gap`, which is any text of characters that mean nothing.

The scanner reads a written tree into the tokens of a phrase with the same tree
(`exists_phrase_of_writes`). It is a statement about every state in which an operand is due
(`Scanner.Ready`), because a part of an expression is read in the middle of the whole; the last
literal of the part may still be a run of digits, so the statement is about the state after `flush`.

What a written tree is worth is said by exact arithmetic (`Tree.HasValue`): a literal is the number
it writes, correctly rounded, and so is the result of each operation on the values of its parts.

* **`evaluate_written`**: the value of a written tree is the value of the tree.
-/

namespace PocketCalculator

open Binary

/-! ### Ways to write a tree -/

/-- `Writes category tree text`: the text is a way to write the tree where a phrase of this level
may stand. -/
inductive Writes : Category → Tree Literal → List Char → Prop where
  /-- A sum and a product joined by an additive operator. -/
  | sum {op : Operator} {left right : Tree Literal} {a u v b : List Char}
      (additive : op = .plus ∨ op = .minus) (first : Writes .sum left a)
      (before : Gap u) (after : Gap v) (second : Writes .product right b) :
      Writes .sum (.node op left right) (a ++ (u ++ op.symbol :: (v ++ b)))
  /-- A product alone. -/
  | term {tree : Tree Literal} {a : List Char} (only : Writes .product tree a) :
      Writes .sum tree a
  /-- A product and a factor joined by a multiplicative operator. -/
  | product {op : Operator} {left right : Tree Literal} {a u v b : List Char}
      (multiplicative : op = .times ∨ op = .divide) (first : Writes .product left a)
      (before : Gap u) (after : Gap v) (second : Writes .factor right b) :
      Writes .product (.node op left right) (a ++ (u ++ op.symbol :: (v ++ b)))
  /-- A factor alone. -/
  | single {tree : Tree Literal} {a : List Char} (only : Writes .factor tree a) :
      Writes .product tree a
  /-- A literal. -/
  | literal (l : Literal) {u : List Char} (inside : Gap u) : Writes .factor (.leaf l) (l.spaced u)
  /-- A sum in brackets. -/
  | bracket {tree : Tree Literal} {u a v : List Char} (before : Gap u) (inner : Writes .sum tree a)
      (after : Gap v) : Writes .factor tree ('(' :: (u ++ (a ++ (v ++ [')']))))

/-- `Written tree text`: the text is a way to write the whole tree, with gaps around it. -/
def Written (tree : Tree Literal) (text : String) : Prop :=
  ∃ u a v, Gap u ∧ Writes .sum tree a ∧ Gap v ∧ text.toList = u ++ (a ++ v)

/-- The text of a tree with every node in brackets. -/
def Tree.bracketed : Tree Literal → List Char
  | .leaf l => l.spaced []
  | .node op left right => '(' :: (left.bracketed ++ op.symbol :: right.bracketed ++ [')'])

/-- Every tree can be written, even where a factor must stand. -/
theorem writes_bracketed (tree : Tree Literal) : Writes .factor tree tree.bracketed := by
  induction tree with
  | leaf l => exact .literal l gap_nil
  | node op left right ihl ihr =>
      have hnode : Writes .sum (.node op left right)
          (left.bracketed ++ ([] ++ op.symbol :: ([] ++ right.bracketed))) := by
        cases op with
        | plus => exact .sum (.inl rfl) (.term (.single ihl)) gap_nil gap_nil (.single ihr)
        | minus => exact .sum (.inr rfl) (.term (.single ihl)) gap_nil gap_nil (.single ihr)
        | times => exact .term (.product (.inl rfl) (.single ihl) gap_nil gap_nil ihr)
        | divide => exact .term (.product (.inr rfl) (.single ihl) gap_nil gap_nil ihr)
      simpa [Tree.bracketed] using Writes.bracket gap_nil hnode gap_nil

/-! ### The value of a tree -/

namespace Tree

open Number (IsRounded IsSum IsDifference IsProduct IsQuotient)

/-- `tree.HasValue x`: every literal and the result of every operation being rounded once, the tree
is worth `x`. -/
inductive HasValue : Tree Literal → Binary64 → Prop where
  | literal {l : Literal} {x : Binary64} (rounded : IsRounded l.negative l.toRat x) :
      HasValue (.leaf l) x
  | sum {left right : Tree Literal} {x y z : Binary64} (first : HasValue left x)
      (second : HasValue right y) (rounded : IsSum x y z) : HasValue (.node .plus left right) z
  | difference {left right : Tree Literal} {x y z : Binary64} (first : HasValue left x)
      (second : HasValue right y) (rounded : IsDifference x y z) :
      HasValue (.node .minus left right) z
  | product {left right : Tree Literal} {x y z : Binary64} (first : HasValue left x)
      (second : HasValue right y) (rounded : IsProduct x y z) :
      HasValue (.node .times left right) z
  | quotient {left right : Tree Literal} {x y z : Binary64} (first : HasValue left x)
      (second : HasValue right y) (rounded : IsQuotient x y z) :
      HasValue (.node .divide left right) z

/-- Evaluating a tree gives a value of it. -/
theorem hasValue_eval (tree : Tree Literal) : tree.HasValue (tree.eval fun l => l.value) := by
  induction tree with
  | leaf l => exact .literal l.isRounded_value
  | node op left right ihl ihr =>
      cases op with
      | plus => exact .sum ihl ihr (Number.isSum_iff.mpr rfl)
      | minus => exact .difference ihl ihr (Number.isDifference_iff.mpr rfl)
      | times => exact .product ihl ihr (Number.isProduct_iff.mpr rfl)
      | divide => exact .quotient ihl ihr (Number.isQuotient_iff.mpr rfl)

/-- There is no other. -/
theorem HasValue.eq_eval {tree : Tree Literal} {x : Binary64} (h : tree.HasValue x) :
    tree.eval (fun l => l.value) = x := by
  induction h with
  | @literal l x rounded => exact l.isRounded_value.unique l.toRat_nonneg rounded
  | sum _ _ rounded ihl ihr => rw [eval, ihl, ihr, Number.isSum_iff.mp rounded]
  | difference _ _ rounded ihl ihr => rw [eval, ihl, ihr, Number.isDifference_iff.mp rounded]
  | product _ _ rounded ihl ihr => rw [eval, ihl, ihr, Number.isProduct_iff.mp rounded]
  | quotient _ _ rounded ihl ihr => rw [eval, ihl, ihr, Number.isQuotient_iff.mp rounded]

/-- The value of a tree is what evaluating it gives. -/
theorem hasValue_iff {tree : Tree Literal} {x : Binary64} :
    tree.HasValue x ↔ tree.eval (fun l => l.value) = x :=
  ⟨HasValue.eq_eval, fun h => h ▸ tree.hasValue_eval⟩

end Tree

/-! ### Reading a written tree -/

/-- A phrase ends in a number or a closing bracket. -/
theorem Phrase.exists_last {category : Category} {tokens : List Token} {tree : Tree Operand}
    (h : Phrase category tokens tree) :
    ∃ front last, tokens = front ++ [last] ∧ last.awaitsOperand = false := by
  induction h with
  | @sum op a b left right additive first second ihl ihr =>
      obtain ⟨front, last, rfl, hlast⟩ := ihr
      exact ⟨a ++ .operation op :: front, last, by simp, hlast⟩
  | term only ih => exact ih
  | @product op a b left right multiplicative first second ihl ihr =>
      obtain ⟨front, last, rfl, hlast⟩ := ihr
      exact ⟨a ++ .operation op :: front, last, by simp, hlast⟩
  | single only ih => exact ih
  | number operand => exact ⟨[], operand.token, rfl, rfl⟩
  | @bracket a tree inner ih => exact ⟨.openBracket :: a, .closeBracket, rfl, rfl⟩

namespace Scanner

/-- The text is read as these tokens wherever an operand is due. -/
def Reads (text : List Char) (tokens : List Token) : Prop :=
  ∀ s : Scanner, s.Ready →
    (text.foldl step s).flush = { s with tokens := tokens.reverse ++ s.tokens }

/-- Two texts around an operator, the first one read as the tokens of a phrase. -/
theorem Reads.operation {category : Category} {op : Operator} {a u v b : List Char}
    {first second : List Token} {tree : Tree Operand} (hphrase : Phrase category first tree)
    (ha : Reads a first) (hu : Gap u) (hv : Gap v) (hb : Reads b second) :
    Reads (a ++ (u ++ op.symbol :: (v ++ b))) (first ++ .operation op :: second) := by
  intro s hs
  have hflush : (u.foldl step (a.foldl step s)).flush =
      { s with tokens := first.reverse ++ s.tokens } := by
    rw [flush_foldl_gap _ hu, ha s hs]
  -- The first phrase has ended, so that even a minus sign is an operator here.
  have hawaits : (u.foldl step (a.foldl step s)).flush.awaitsOperand = false := by
    obtain ⟨front, last, rfl, hlast⟩ := hphrase.exists_last
    rw [hflush]
    simpa [awaitsOperand] using hlast
  have hstep := step_of_symbol _ (Token.ofSymbol?_symbol op) fun _ => hawaits
  rw [hflush] at hstep
  have hready : Ready { s with tokens := .operation op :: (first.reverse ++ s.tokens) } :=
    hs.push rfl _
  rw [List.foldl_append, List.foldl_append, List.foldl_cons, List.foldl_append, hstep,
    foldl_gap hv hready.run_nil, hb _ hready]
  simp

/-- A text in brackets. -/
theorem Reads.bracket {u a v : List Char} {tokens : List Token} (hu : Gap u)
    (ha : Reads a tokens) (hv : Gap v) :
    Reads ('(' :: (u ++ (a ++ (v ++ [')'])))) (.openBracket :: (tokens ++ [.closeBracket])) := by
  intro s hs
  have hopen := s.step_of_symbol (c := '(') rfl fun h => absurd h (by decide)
  rw [flush_of_run_nil hs.run_nil] at hopen
  have hready : Ready { s with tokens := .openBracket :: s.tokens } := hs.push rfl _
  have hflush : (v.foldl step (a.foldl step { s with tokens := .openBracket :: s.tokens })).flush =
      { s with tokens := tokens.reverse ++ .openBracket :: s.tokens } := by
    rw [flush_foldl_gap _ hv, ha _ hready]
  have hclose := step_of_symbol
    (v.foldl step (a.foldl step { s with tokens := .openBracket :: s.tokens })) (c := ')') rfl
    fun h => absurd h (by decide)
  rw [hflush] at hclose
  rw [List.foldl_cons, hopen, List.foldl_append, foldl_gap hu hready.run_nil, List.foldl_append,
    List.foldl_append, List.foldl_cons, List.foldl_nil, hclose]
  have hend : ∀ ts, flush { s with tokens := ts } = { s with tokens := ts } :=
    fun _ => flush_of_run_nil hs.run_nil
  rw [hend]
  simp

/-- A written tree is read as the tokens of a phrase with the same tree. -/
theorem exists_phrase_of_writes {category : Category} {tree : Tree Literal} {text : List Char}
    (h : Writes category tree text) :
    ∃ tokens, Phrase category tokens (tree.map Literal.operand) ∧ Reads text tokens := by
  induction h with
  | @sum op left right a u v b additive first before after second ihl ihr =>
      obtain ⟨first, hfirst, ha⟩ := ihl
      obtain ⟨second, hsecond, hb⟩ := ihr
      exact ⟨_, .sum additive hfirst hsecond, ha.operation hfirst before after hb⟩
  | term only ih =>
      obtain ⟨tokens, hphrase, hreads⟩ := ih
      exact ⟨tokens, .term hphrase, hreads⟩
  | @product op left right a u v b multiplicative first before after second ihl ihr =>
      obtain ⟨first, hfirst, ha⟩ := ihl
      obtain ⟨second, hsecond, hb⟩ := ihr
      exact ⟨_, .product multiplicative hfirst hsecond, ha.operation hfirst before after hb⟩
  | single only ih =>
      obtain ⟨tokens, hphrase, hreads⟩ := ih
      exact ⟨tokens, .single hphrase, hreads⟩
  | @literal l u inside =>
      exact ⟨[l.operand.token], .number l.operand, fun s hs => flush_foldl_spaced hs l inside⟩
  | @bracket tree u a v before inner after ih =>
      obtain ⟨tokens, hphrase, hreads⟩ := ih
      exact ⟨_, .bracket hphrase, hreads.bracket before after⟩

end Scanner

/-- The tokens of a text that writes a tree form a sum with that tree. -/
theorem phrase_scan_of_written {tree : Tree Literal} {text : String} (h : Written tree text) :
    Phrase .sum (Token.scan text).value (tree.map Literal.operand) := by
  obtain ⟨u, a, v, hu, hwrites, hv, htext⟩ := h
  obtain ⟨tokens, hphrase, hreads⟩ := Scanner.exists_phrase_of_writes hwrites
  have hread : (Scanner.read text.toList).tokens = tokens.reverse := by
    rw [Scanner.read, htext, List.foldl_append, Scanner.foldl_gap hu rfl, List.foldl_append,
      Scanner.flush_foldl_gap _ hv, hreads _ Scanner.ready_init]
    simp
  have hscan : (Token.scan text).value = tokens := by
    rw [Token.scan, hread, List.reverse_reverse]
  rwa [hscan]

/-- The value of a text whose tokens form a sum is the value of the tree of the sum. -/
theorem value_evaluate_of_phrase {tree : Tree Literal} {text : String}
    (h : Phrase .sum (Token.scan text).value (tree.map Literal.operand)) :
    (evaluate text).value = tree.eval fun l => l.value := by
  have hpostfix := value_ofTokens_of_phrase h
  have hleaf : Operand.value ∘ Literal.operand = fun l : Literal => l.value := by
    funext l
    rw [Function.comp_apply, Literal.operand]
  rw [evaluate, Logged.value_bind, Logged.value_bind, hpostfix, Tree.value_postorder,
    Tree.eval_map, hleaf]

/-- **The value of a written expression is the value of its tree**: the one number that comes of
rounding every literal and the exact result of every operation once. -/
theorem evaluate_written {tree : Tree Literal} {text : String} (h : Written tree text)
    (x : Binary64) : (evaluate text).value = x ↔ tree.HasValue x := by
  have hphrase := phrase_scan_of_written h
  rw [value_evaluate_of_phrase hphrase, Tree.hasValue_iff]

/-- A signed literal with a gap after its sign, times a sum that needs its brackets and has a
redundant pair inside. -/
theorem evaluate_written_signed_product :
    let two : Literal := ⟨⟨true, ['2'], []⟩, nofun, List.forall_mem_singleton.mpr rfl, nofun⟩
    let three : Literal := ⟨⟨false, ['3'], []⟩, nofun, List.forall_mem_singleton.mpr rfl, nofun⟩
    let half : Literal :=
      ⟨⟨false, ['4'], ['5']⟩, nofun, List.forall_mem_singleton.mpr rfl,
        List.forall_mem_singleton.mpr rfl⟩
    let tree : Tree Literal := .node .times (.leaf two) (.node .plus (.leaf three) (.leaf half))
    Written tree "- 2*( (3)+4.5)" ∧ ((evaluate "- 2*( (3)+4.5)").value == -15) = true ∧
      tree.HasValue (evaluate "- 2*( (3)+4.5)").value := by
  intro two three half tree
  have hspace : Gap [' '] := by
    intro c hc
    rw [List.mem_singleton.mp hc]
    unfold Ignored
    decide
  have hthree : Writes .sum (.leaf three) ['(', '3', ')'] :=
    .term (.single (.bracket gap_nil (.term (.single (.literal three gap_nil))) gap_nil))
  have hsum : Writes .sum (.node .plus (.leaf three) (.leaf half)) "(3)+4.5".toList :=
    .sum (.inl rfl) hthree gap_nil gap_nil (.single (.literal half gap_nil))
  have hproduct : Writes .product tree "- 2*( (3)+4.5)".toList :=
    .product (.inl rfl) (.single (.literal two hspace)) gap_nil gap_nil
      (.bracket hspace hsum gap_nil)
  have h : Written tree "- 2*( (3)+4.5)" := ⟨[], _, [], gap_nil, .term hproduct, gap_nil, rfl⟩
  exact ⟨h, by decide +kernel, (evaluate_written h _).mp rfl⟩

end PocketCalculator
