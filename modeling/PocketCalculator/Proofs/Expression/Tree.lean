import PocketCalculator.Postfix.Value

/-!
# Expression trees

An expression as a tree: operands at the leaves, operators at the nodes, and no brackets. Two things
can be read off a tree, its value and its postfix order, and the main statements say how they are
related.

* **`value_postorder`**: the stack of numbers, run on the postfix order of a tree, ends with the
  value of the tree.
* **`postorder_injective`**: the postfix order determines the tree. `rebuild` reads it back on a
  stack of trees (`foldl_rebuild_postorder`), which is the run of the numbers with trees in place of
  their values.
-/

namespace PocketCalculator

open Binary

/-- An expression: operands joined by operators. -/
inductive Tree (α : Type) where
  | leaf (operand : α)
  | node (op : Operator) (left right : Tree α)
deriving DecidableEq, Repr

/-- An operand: the text of a numeral and its value. -/
structure Operand where
  text : String
  value : Binary64

/-- The token of an operand. -/
def Operand.token (operand : Operand) : Token := .number operand.text operand.value

namespace Tree

variable {α β : Type}

/-- The tree with other operands. -/
def map (f : α → β) : Tree α → Tree β
  | leaf operand => leaf (f operand)
  | node op left right => node op (left.map f) (right.map f)

/-! ### The value of a tree -/

/-- The value of a tree: the sum, difference, product or quotient of the values of its two parts,
the left one first. -/
def eval (value : α → Binary64) : Tree α → Binary64
  | leaf operand => value operand
  | node .plus left right => left.eval value + right.eval value
  | node .minus left right => left.eval value - right.eval value
  | node .times left right => left.eval value * right.eval value
  | node .divide left right => left.eval value / right.eval value

/-- The operator of a node is applied to the values of its parts. -/
theorem eval_node (value : α → Binary64) (op : Operator) (left right : Tree α) :
    (node op left right).eval value = op.apply (left.eval value) (right.eval value) := by
  cases op <;> rfl

/-- Evaluating after a change of operands. -/
theorem eval_map (f : α → β) (value : β → Binary64) (tree : Tree α) :
    (tree.map f).eval value = tree.eval (value ∘ f) := by
  induction tree with
  | leaf operand => rfl
  | node op left right ihl ihr => rw [map, eval_node, eval_node, ihl, ihr]

/-! ### The postfix order of a tree -/

/-- The tokens of a tree in postfix order: the left part, the right part, the operator. -/
def postorder : Tree Operand → List Token
  | leaf operand => [operand.token]
  | node op left right => left.postorder ++ right.postorder ++ [.operation op]

/-- The stack of numbers runs through the postfix order of a tree by pushing its value, whatever
stands below. -/
theorem foldl_step_postorder (tree : Tree Operand) (s : ValueStack) :
    tree.postorder.foldl ValueStack.step s = s.push (tree.eval Operand.value) := by
  induction tree generalizing s with
  | leaf operand => rfl
  | node op left right ihl ihr =>
      simp only [postorder, List.foldl_append, List.foldl_cons, List.foldl_nil, ihl, ihr, eval_node]
      rfl

/-- The value of the postfix order of a tree is the value of the tree. -/
theorem value_postorder (tree : Tree Operand) :
    (Postfix.value tree.postorder).value = tree.eval Operand.value := by
  simp only [Postfix.value, foldl_step_postorder]
  rfl

/-! ### Reading the postfix order back -/

/-- Reads one token on a stack of trees: a numeral becomes a leaf, an operator joins the two trees
on top. -/
def rebuild : List (Tree Operand) → Token → List (Tree Operand)
  | stack, .number text value => leaf ⟨text, value⟩ :: stack
  | right :: left :: stack, .operation op => node op left right :: stack
  | stack, _ => stack

/-- The postfix order of a tree is read back as the tree, whatever stands below. -/
theorem foldl_rebuild_postorder (tree : Tree Operand) (stack : List (Tree Operand)) :
    tree.postorder.foldl rebuild stack = tree :: stack := by
  induction tree generalizing stack with
  | leaf operand => rfl
  | node op left right ihl ihr =>
      simp only [postorder, List.foldl_append, List.foldl_cons, List.foldl_nil, ihl, ihr]
      rfl

/-- Two trees with the same postfix order are the same. -/
theorem postorder_injective : Function.Injective postorder := by
  intro s t h
  have hs := foldl_rebuild_postorder s []
  rw [h, foldl_rebuild_postorder t []] at hs
  exact (List.head_eq_of_cons_eq hs).symm

end Tree

end PocketCalculator
