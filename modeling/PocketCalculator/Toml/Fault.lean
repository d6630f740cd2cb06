import PocketCalculator.Decimal.Layout
import PocketCalculator.Text.Quoted
import PocketCalculator.Toml.Value

/-!
# Faults of a document

A value of a document can be of the wrong kind for the field that it is meant for. The report of
such a fault names the place, shows the line with the value underlined, and says what was found and
what was expected.
-/

namespace PocketCalculator.Toml

open Binary

/-! ## What is found and expected -/

/-- What a field expects. -/
inductive Expected where
  /-- An unsigned integer of 32 bits. -/
  | word
  | boolean
  /-- A number in single precision. -/
  | single
deriving DecidableEq, Repr

/-- The name of what is expected. -/
def Expected.name : Expected → String
  | .word => "u32"
  | .boolean => "a boolean"
  | .single => "f32"

/-- The name of a value in a report. Dates and times count as maps. -/
def Value.describe : Value → String
  | .string text => "string " ++ Text.quoted text
  | .integer i => "integer `" ++ toString i ++ "`"
  | .float x => "floating point `" ++ Layout.message.text x ++ "`"
  | .boolean true => "boolean `true`"
  | .boolean false => "boolean `false`"
  | .array _ | .tables _ _ => "sequence"
  | .moment | .table _ => "map"

/-- A value that does not fit its field. -/
structure Fault where
  span : Span
  found : Value
  expected : Expected

/-- What is wrong: the kind of the value, or the range of an integer where an integer is due. -/
def Fault.reason (fault : Fault) : String :=
  match fault.found, fault.expected with
  | .integer i, .word => "invalid value: integer `" ++ toString i ++ "`, expected u32"
  | found, expected => "invalid type: " ++ found.describe ++ ", expected " ++ expected.name

/-! ## The place -/

/-- The number of bytes of some characters. -/
def byteCount (chars : List Char) : Nat := (String.ofList chars).utf8ByteSize

/-- A place in a text, with the line around it. -/
structure Place where
  /-- The number of the line, from one. -/
  line : Nat
  /-- The line before the place. -/
  before : List Char
  /-- The line from the place on. -/
  after : List Char

/-- The place that the given number of characters follow. -/
def Place.ofLeft (text : List Char) (left : Nat) : Place :=
  let (head, tail) := text.splitAt (text.length - left)
  { line := head.count '\n' + 1
    before := (head.reverse.takeWhile (· != '\n')).reverse
    after := tail.takeWhile (· != '\n') }

/-- The number of the column, from one. -/
def Place.column (place : Place) : Nat := place.before.length + 1

/-- The number of marks under a value: one for each of its bytes, but at least one, and none beyond
the end of the line when the line is counted in bytes and the column in characters. -/
def markCount (text : List Char) (span : Span) : Nat :=
  let place := Place.ofLeft text span.start
  let value := (text.drop (text.length - span.start)).take (span.start - span.stop)
  max 1 (min (byteCount value) (byteCount (place.before ++ place.after) - place.before.length))

/-- The report of a fault in a text. -/
def Fault.report (fault : Fault) (text : String) : String :=
  let chars := text.toList
  let place := Place.ofLeft chars fault.span.start
  let number := toString place.line
  let margin := "".pushn ' ' (number.length + 1)
  "TOML parse error at line " ++ number ++ ", column " ++ toString place.column ++ "\n"
    ++ margin ++ "|\n"
    ++ number ++ " | " ++ String.ofList (place.before ++ place.after) ++ "\n"
    ++ margin ++ "|" ++ "".pushn ' ' place.column
    ++ "".pushn '^' (markCount chars fault.span) ++ "\n"
    ++ fault.reason ++ "\n"

end PocketCalculator.Toml
