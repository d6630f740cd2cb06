/-!
# Patterns

A regular expression with boundaries, and whether a text contains a match of it. Only the existence
of a match is asked for, so a pattern acts on **sets of places** in a text: `Pattern.reach` takes
the places where a match may begin to the places where it may end, and a text contains a match if
anything can be reached from all places together. The main objects:

* `Pattern`;
* `Marks`: a set of places in a text, one mark for the place before each character and one for the
  end;
* `Pattern.reach` and `Pattern.occursIn`.
-/

namespace PocketCalculator

/-- A regular expression. -/
inductive Pattern where
  /-- Nothing is asked for. -/
  | empty
  /-- One character of a set. -/
  | one (set : Char → Bool)
  /-- A place between two characters; at either end of the text one of them is missing. -/
  | boundary (holds : Option Char → Option Char → Bool)
  | seq (first second : Pattern)
  | either (left right : Pattern)
  /-- The item several times: at least `least` and at most `most` times, if there is a most. -/
  | repeated (item : Pattern) (least : Nat) (most : Option Nat)

namespace Pattern

/-! ## Sets of places -/

/-- A set of places in a text. -/
abbrev Marks := List Bool

/-- All places of a text. -/
def everywhere (text : List Char) : Marks := List.replicate (text.length + 1) true

/-- The places of either set. -/
def joined (marks more : Marks) : Marks := List.zipWith (· || ·) marks more

/-- The places after a character of the set that follows a marked place. -/
def stepped (text : List Char) (set : Char → Bool) (marks : Marks) : Marks :=
  false :: List.zipWith (fun mark c => mark && set c) marks text

/-- The places of a text that lie between two characters as asked for. -/
def boundaries (text : List Char) (holds : Option Char → Option Char → Bool) : Marks :=
  List.zipWith holds (none :: text.map some) (text.map some ++ [none])

/-- The marks together with all that is reached from them in at most `rounds` rounds. It stops as
soon as a round adds nothing. -/
def spread (next : Marks → Marks) : Nat → Marks → Marks
  | 0, marks => marks
  | rounds + 1, marks =>
      let more := joined marks (next marks)
      if more = marks then marks else spread next rounds more

/-! ## Matching -/

/-- The places where a match may end that begins at a marked place. A repetition needs no more
rounds beyond the least number than the text has characters, since a round that takes no character
adds nothing. -/
def reach (text : List Char) : Pattern → Marks → Marks
  | .empty => fun marks => marks
  | .one set => stepped text set
  | .boundary holds => fun marks => List.zipWith (· && ·) marks (boundaries text holds)
  | .seq first second => fun marks => second.reach text (first.reach text marks)
  | .either left right => fun marks => joined (left.reach text marks) (right.reach text marks)
  | .repeated item least most => fun marks =>
      let rounds :=
        match most with
        | some most => min (most - least) text.length
        | none => text.length
      spread (item.reach text) rounds (Nat.repeat (item.reach text) least marks)

/-- Whether a text contains a match. -/
def occursIn (p : Pattern) (text : List Char) : Bool :=
  (p.reach text (everywhere text)).any id

/-! ## Size -/

/-- The number of places and characters that a pattern asks for when its repetitions are written
out. -/
def size : Pattern → Nat
  | .empty => 1
  | .one _ => 1
  | .boundary _ => 1
  | .seq first second => first.size + second.size
  | .either left right => left.size + right.size
  | .repeated item least most => item.size * max 1 (most.getD least)

end Pattern

end PocketCalculator
