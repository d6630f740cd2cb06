import PocketCalculator.Settings.Basic
import PocketCalculator.Toml.Document
import PocketCalculator.Toml.Fault

/-!
# Settings in a document

The settings are read from the four top-level keys `decimales`, `demarche`, `hauteur` and `largeur`
of a TOML document, in this order; other keys do not matter. A missing key has its default, the
decimal places are capped, and a value that does not fit its field refuses the whole document.
-/

namespace PocketCalculator

open Binary

/-! ## Fields -/

/-- The value as an unsigned integer of 32 bits. -/
def Toml.Value.word? : Toml.Value → Option UInt32
  | .integer i => if FitsUnsigned 32 i then some (UInt32.ofNat i.toNat) else none
  | _ => none

/-- The value as a Boolean. -/
def Toml.Value.boolean? : Toml.Value → Option Bool
  | .boolean b => some b
  | _ => none

/-- The value as a number in single precision. A float is rounded a second time from double
precision; an integer is taken if it has 64 bits, with a sign or without. -/
def Toml.Value.single? : Toml.Value → Option Binary32
  | .integer i => if FitsWord 64 i then some (Number.ofInt i) else none
  | .float x => some (x.convert .binary32)
  | _ => none

/-- The field of a name: its default if the key is absent, and a fault if the value does not fit. -/
def Toml.Table.field {α : Type} (t : Toml.Table) (name : String) (expected : Toml.Expected)
    (read : Toml.Value → Option α) (default : α) : Except Toml.Fault α :=
  match t.find? name with
  | none => .ok default
  | some entry =>
      match read entry.value with
      | some a => .ok a
      | none => .error ⟨entry.span, entry.value, expected⟩

/-- The parser of documents, as far as it is not modelled: what it says of a text that it does not
take for one. Its wording begins with the words that stand here for all of it, and only the warning
that carries the wording depends on it. -/
structure Toml.Parser where
  report : String → String := fun _ => "TOML parse error"

namespace Settings

/-- The settings in a table. -/
def ofTable (t : Toml.Table) : Except Toml.Fault Settings := do
  let default : Settings := {}
  let places ← t.field "decimales" .word Toml.Value.word? default.places
  let showWorking ← t.field "demarche" .boolean Toml.Value.boolean? default.showWorking
  let height ← t.field "hauteur" .single Toml.Value.single? default.height
  let width ← t.field "largeur" .single Toml.Value.single? default.width
  return { places := min places mostPlaces, showWorking, width, height }

/-! ## Documents -/

/-- Why a document is refused. -/
inductive DocumentError where
  /-- The text is not a document, or it holds an integer wider than 64 bits and a fault. The report
  is the parser's. -/
  | notToml {report : String}
  /-- A value of the text does not fit its field. -/
  | misfit (text : String) (fault : Toml.Fault)

/-- The report of a refusal. -/
def DocumentError.report : DocumentError → String
  | @notToml report => report
  | misfit text fault => fault.report text

/-- The settings in a document. -/
def ofToml (text : String) (parser : Toml.Parser := {}) : Except DocumentError Settings :=
  match Toml.Table.ofText? text with
  | none => .error (@DocumentError.notToml (parser.report text))
  | some t =>
      match ofTable t with
      | .ok settings => .ok settings
      | .error fault =>
          .error (if t.allNarrow then .misfit text fault
            else @DocumentError.notToml (parser.report text))

end Settings

end PocketCalculator
