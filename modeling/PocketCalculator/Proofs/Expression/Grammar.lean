import PocketCalculator.Postfix.Conversion
import PocketCalculator.Proofs.Expression.Tree

/-!
# The grammar of expressions

The usual grammar of arithmetic, in three levels: a sum is a sum, an additive operator and a
product, or a product alone; a product is a product, a multiplicative operator and a factor, or a
factor alone; a factor is a number or a bracketed sum. `Phrase` relates a list of tokens to the tree
that the grammar gives it; brackets leave no trace in the tree, and operators of equal priority
associate to the left because the left part alone may have the level of the whole.

The conversion to postfix order puts such a list in the postfix order of its tree
(`value_ofTokens_of_phrase`). Between two tokens the tree is cut open: what has been put out and
what waits on the stack together are the postfix order of the part that has been read.
`Converter.Grows` says so, `grows_foldl_of_phrase` carries it through a phrase, and
`Converter.Clear` is what a phrase needs of the stack below it: no operator on top that its own
operators would push out.

* **`ofTokens_phrase`**: the conversion of a sum is the postfix order of its tree, and two sums have
  the same conversion exactly if they have the same tree.
-/

namespace PocketCalculator

/-- The levels of the grammar. -/
inductive Category where
  | sum
  | product
  | factor
deriving DecidableEq, Repr

/-- The priority of the operators of a level; a factor has none of its own. -/
def Category.priority : Category → Nat
  | .sum => 1
  | .product => 2
  | .factor => 3

/-- `Phrase category tokens tree`: the grammar derives the tokens at this level, with this tree. -/
inductive Phrase : Category → List Token → Tree Operand → Prop where
  /-- A sum and a product joined by an additive operator. -/
  | sum {op : Operator} {a b : List Token} {left right : Tree Operand}
      (additive : op = .plus ∨ op = .minus)
      (first : Phrase .sum a left) (second : Phrase .product b right) :
      Phrase .sum (a ++ .operation op :: b) (.node op left right)
  /-- A product alone. -/
  | term {a : List Token} {tree : Tree Operand} (only : Phrase .product a tree) :
      Phrase .sum a tree
  /-- A product and a factor joined by a multiplicative operator. -/
  | product {op : Operator} {a b : List Token} {left right : Tree Operand}
      (multiplicative : op = .times ∨ op = .divide)
      (first : Phrase .product a left) (second : Phrase .factor b right) :
      Phrase .product (a ++ .operation op :: b) (.node op left right)
  /-- A factor alone. -/
  | single {a : List Token} {tree : Tree Operand} (only : Phrase .factor a tree) :
      Phrase .product a tree
  /-- A number, with any text and any value. -/
  | number (operand : Operand) : Phrase .factor [operand.token] (.leaf operand)
  /-- A bracketed sum. -/
  | bracket {a : List Token} {tree : Tree Operand} (inner : Phrase .sum a tree) :
      Phrase .factor (.openBracket :: (a ++ [.closeBracket])) tree

/-! ### What the stack looks like around a phrase -/

namespace Converter

/-- No operator of this priority or above is on top of the stack. -/
def Clear (priority : Nat) (stack : List Pending) : Prop :=
  ∀ op, stack.head? = some (.operation op) → op.priority < priority

/-- Between the states `c` and `d` a phrase of the given tree has been read: the stack has grown by
operators of this priority or above, and the tokens put out since, followed by these operators, are
the postfix order of the tree. -/
def Grows (c d : Converter) (priority : Nat) (tree : Tree Operand) : Prop :=
  ∃ (out : List Token) (waiting : List Operator),
    d = { c with
      output := out.reverse ++ c.output
      stack := waiting.map Pending.operation ++ c.stack } ∧
    out ++ waiting.map Token.operation = tree.postorder ∧
    ∀ op ∈ waiting, priority ≤ op.priority

/-- An empty stack is clear, -/
theorem clear_nil (priority : Nat) : Clear priority [] := by
  intro op h
  cases h

/-- and so is one with a bracket on top. -/
theorem clear_bracket (priority : Nat) (stack : List Pending) :
    Clear priority (.bracket :: stack) := by
  intro op h
  cases h

/-- A stack that is clear is so for higher priorities. -/
theorem Clear.mono {p q : Nat} {stack : List Pending} (h : Clear p stack) (hpq : p ≤ q) :
    Clear q stack :=
  fun op hop => Nat.lt_of_lt_of_le (h op hop) hpq

/-- An operator of a lower priority leaves it clear. -/
theorem clear_operation {priority : Nat} {op : Operator} (h : op.priority < priority)
    (stack : List Pending) : Clear priority (.operation op :: stack) := by
  intro top htop
  cases htop
  exact h

/-- On a clear stack no entry leaves for an operator of the priority. -/
theorem takeWhile_of_clear {op : Operator} {stack : List Pending} (h : Clear op.priority stack) :
    stack.takeWhile (Pending.yieldsTo op) = [] := by
  cases stack with
  | nil => rfl
  | cons top rest =>
      cases top with
      | operation top =>
          have hstays : Pending.yieldsTo op (.operation top) = false := by
            simpa [Pending.yieldsTo] using h top rfl
          exact List.takeWhile_cons_of_neg (by simp [hstays])
      | bracket => rfl

/-- Operators that may leave are put out, the top first, down to an entry that may not. -/
theorem unwind_operations {leaves : Pending → Bool} {waiting : List Operator}
    {stack : List Pending} (hw : ∀ op ∈ waiting, leaves (.operation op) = true)
    (hs : stack.takeWhile leaves = []) (output : List Token) (journal : List Event) :
    (⟨output, waiting.map Pending.operation ++ stack, journal⟩ : Converter).unwind leaves =
      ⟨(waiting.map Token.operation).reverse ++ output, stack, journal⟩ := by
  have hall : ∀ entry ∈ waiting.map Pending.operation, leaves entry = true := by
    intro entry hentry
    obtain ⟨op, hop, rfl⟩ := List.mem_map.mp hentry
    exact hw op hop
  have hdrop : stack.dropWhile leaves = stack := by
    have := List.takeWhile_append_dropWhile (p := leaves) (l := stack)
    rwa [hs] at this
  simp only [unwind, List.takeWhile_append_of_pos hall, List.dropWhile_append_of_pos hall, hs,
    hdrop, List.append_nil, List.map_map]
  rfl

/-! ### Reading a phrase -/

/-- After its left part, an operator puts out all that the left part has left waiting, and waits on
the stack that was there before. -/
theorem Grows.step_operation {c d : Converter} {op : Operator} {left : Tree Operand}
    (h : Grows c d op.priority left) (hc : Clear op.priority c.stack) :
    d.step (.operation op) =
      { c with
        output := left.postorder.reverse ++ c.output
        stack := .operation op :: c.stack } := by
  obtain ⟨out, waiting, rfl, hpost, hwaiting⟩ := h
  have hleave : ∀ top ∈ waiting, Pending.yieldsTo op (.operation top) = true :=
    fun top htop => by simpa [Pending.yieldsTo] using hwaiting top htop
  simp only [step, unwind_operations hleave (takeWhile_of_clear hc), push, ← hpost,
    List.reverse_append, List.append_assoc]

/-- A left part, an operator and a right part that binds tighter make one tree. -/
theorem Grows.node {c d e : Converter} {op : Operator} {left right : Tree Operand}
    (hc : Clear op.priority c.stack) (hleft : Grows c d op.priority left)
    (hright : Grows (d.step (.operation op)) e (op.priority + 1) right) :
    Grows c e op.priority (.node op left right) := by
  rw [hleft.step_operation hc] at hright
  obtain ⟨out, waiting, rfl, hpost, hwaiting⟩ := hright
  refine ⟨left.postorder ++ out, waiting ++ [op], by simp, ?_, ?_⟩
  · simp [Tree.postorder, ← hpost]
  · intro top htop
    rcases List.mem_append.mp htop with htop | htop
    · exact Nat.le_of_succ_le (hwaiting top htop)
    · obtain rfl := List.mem_singleton.mp htop
      exact Nat.le_refl _

/-- What waits at a priority waits at lower ones. -/
theorem Grows.mono {c d : Converter} {p q : Nat} {tree : Tree Operand} (h : Grows c d q tree)
    (hpq : p ≤ q) : Grows c d p tree := by
  obtain ⟨out, waiting, hd, hpost, hwaiting⟩ := h
  exact ⟨out, waiting, hd, hpost, fun op hop => Nat.le_trans hpq (hwaiting op hop)⟩

/-- Reading two phrases around an operator, given what reading each of them does. -/
theorem grows_foldl_operation {op : Operator} {priority : Nat} (hop : op.priority = priority)
    {a b : List Token} {left right : Tree Operand}
    (first : ∀ c : Converter, Clear priority c.stack → Grows c (a.foldl step c) priority left)
    (second : ∀ c : Converter, Clear (priority + 1) c.stack →
      Grows c (b.foldl step c) (priority + 1) right)
    (c : Converter) (hc : Clear priority c.stack) :
    Grows c ((a ++ .operation op :: b).foldl step c) priority (.node op left right) := by
  subst hop
  rw [List.foldl_append, List.foldl_cons]
  refine Grows.node hc (first c hc) (second _ ?_)
  rw [(first c hc).step_operation hc]
  exact clear_operation (Nat.lt_succ_self _) _

/-- Reading a phrase on a clear stack: the stack grows by the open part of its tree. -/
theorem grows_foldl_of_phrase {category : Category} {tokens : List Token} {tree : Tree Operand}
    (h : Phrase category tokens tree) (c : Converter) (hc : Clear category.priority c.stack) :
    Grows c (tokens.foldl step c) category.priority tree := by
  induction h generalizing c with
  | sum additive first second ihl ihr =>
      exact grows_foldl_operation (by rcases additive with rfl | rfl <;> rfl) ihl ihr c hc
  | term only ih => exact (ih c (hc.mono (by decide))).mono (by decide)
  | product multiplicative first second ihl ihr =>
      exact grows_foldl_operation (by rcases multiplicative with rfl | rfl <;> rfl) ihl ihr c hc
  | single only ih => exact (ih c (hc.mono (by decide))).mono (by decide)
  | number operand => exact ⟨[operand.token], [], rfl, rfl, by simp⟩
  | @bracket a tree inner ih =>
      -- The opening bracket clears the stack for the sum inside; the closing one puts out what the
      -- sum has left waiting.
      obtain ⟨out, waiting, hd, hpost, -⟩ := ih (c.push .bracket) (clear_bracket _ _)
      refine ⟨tree.postorder, [], ?_, by simp, by simp⟩
      have hclose : ∀ output journal,
          (⟨output, waiting.map Pending.operation ++ .bracket :: c.stack, journal⟩ :
              Converter).unwind (· != .bracket) =
            ⟨(waiting.map Token.operation).reverse ++ output, .bracket :: c.stack, journal⟩ :=
        unwind_operations (fun _ _ => rfl) rfl
      have hopen : c.step .openBracket = c.push .bracket := rfl
      rw [List.foldl_cons, List.foldl_append, hopen, hd]
      simp [step, push, hclose, drop, ← hpost]

/-- A phrase read from the beginning: at the end the output is the postfix order of its tree. -/
theorem output_read_of_phrase {category : Category} {tokens : List Token} {tree : Tree Operand}
    (h : Phrase category tokens tree) : (read tokens).output.reverse = tree.postorder := by
  obtain ⟨out, waiting, hd, hpost, -⟩ := grows_foldl_of_phrase h {} (clear_nil _)
  rw [read, hd, unwind_operations (fun _ _ => rfl) rfl, ← hpost]
  simp

end Converter

/-- The conversion of a phrase is the postfix order of its tree. -/
theorem value_ofTokens_of_phrase {category : Category} {tokens : List Token}
    {tree : Tree Operand} (h : Phrase category tokens tree) :
    (Postfix.ofTokens tokens).value = tree.postorder :=
  Converter.output_read_of_phrase h

/-- **The conversion is faithful to the grammar**: on every sum it gives the postfix order of the
tree, and two sums have the same conversion exactly if they have the same tree. -/
theorem ofTokens_phrase {a b : List Token} {s t : Tree Operand}
    (ha : Phrase .sum a s) (hb : Phrase .sum b t) :
    (Postfix.ofTokens a).value = s.postorder ∧
      ((Postfix.ofTokens a).value = (Postfix.ofTokens b).value ↔ s = t) := by
  rw [value_ofTokens_of_phrase ha, value_ofTokens_of_phrase hb]
  exact ⟨rfl, Tree.postorder_injective.eq_iff⟩

/-- Two differences in a row, without brackets and with brackets around the first: the same tree,
so the same conversion. -/
theorem ofTokens_phrase_two_differences :
    let one : Operand := ⟨"1", 1⟩
    let two : Operand := ⟨"2", 2⟩
    let three : Operand := ⟨"3", 3⟩
    let first := [one.token, .operation .minus, two.token]
    let a := first ++ [.operation .minus, three.token]
    let b := .openBracket :: (first ++ [.closeBracket]) ++ [.operation .minus, three.token]
    let tree : Tree Operand := .node .minus (.node .minus (.leaf one) (.leaf two)) (.leaf three)
    Phrase .sum a tree ∧ Phrase .sum b tree ∧ (Postfix.ofTokens a).value = tree.postorder ∧
      (Postfix.ofTokens a).value = (Postfix.ofTokens b).value := by
  intro one two three first a b tree
  have hfirst : Phrase .sum first (.node .minus (.leaf one) (.leaf two)) :=
    .sum (.inr rfl) (.term (.single (.number one))) (.single (.number two))
  have ha : Phrase .sum a tree := .sum (.inr rfl) hfirst (.single (.number three))
  have hb : Phrase .sum b tree :=
    .sum (.inr rfl) (.term (.single (.bracket hfirst))) (.single (.number three))
  have h := ofTokens_phrase ha hb
  exact ⟨ha, hb, h.1, h.2.mpr rfl⟩

end PocketCalculator
