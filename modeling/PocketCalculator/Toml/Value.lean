import PocketCalculator.Binary.Number
import PocketCalculator.Binary.Word

/-!
# TOML values

The values of a TOML document and the rules by which its tables are put together. A table remembers
how it came about, because that decides what may still be added to it. The main objects:

* `Value`, `Table` and `Entry`;
* `Span`: where a value stands in the text;
* `Table.reach`: the table at the end of a dotted path, the missing ones being made on the way;
* `Table.define`: the table with one more pair;
* `Table.addSection`: the table with one more section, that is a header and its pairs.

An operation gives nothing where the document breaks a rule: a key defined twice, a table extended
after it was closed, a path through a value that is not a table.
-/

namespace PocketCalculator.Toml

open Binary

/-! ## Places -/

/-- A stretch of a text. A place in the text is given by the number of characters that follow it. -/
structure Span where
  start : Nat
  stop : Nat
deriving DecidableEq, Repr

/-- A key as written. -/
structure Key where
  name : String
  span : Span
deriving DecidableEq, Repr

/-! ## Values -/

/-- How a table came about. -/
inductive Kind where
  /-- By a header of its own; the whole document counts as such a table. -/
  | explicit
  /-- On the path of a header. -/
  | implied
  /-- On the path of a dotted key. -/
  | dotted
  /-- Between braces. -/
  | braced
deriving DecidableEq, Repr

mutual

/-- A value. -/
inductive Value where
  | string (text : String)
  | integer (value : Int)
  | float (value : Binary64)
  | boolean (value : Bool)
  /-- A date, a time, or both. -/
  | moment
  | array (items : List Value)
  | table (table : Table)
  /-- The tables of repeated headers `[[…]]`. -/
  | tables (latest : Table) (earlier : List Table)

/-- A table: its entries in the order in which they were made. -/
inductive Table where
  | mk (kind : Kind) (entries : List Entry)

/-- An entry of a table: its name, the place of its value, and the value. -/
inductive Entry where
  | mk (name : String) (span : Span) (value : Value)

end

namespace Entry

def name : Entry → String
  | .mk name _ _ => name

def span : Entry → Span
  | .mk _ span _ => span

def value : Entry → Value
  | .mk _ _ value => value

end Entry

/-! ## Tables -/

namespace Table

def kind : Table → Kind
  | .mk kind _ => kind

def entries : Table → List Entry
  | .mk _ entries => entries

/-- The table without entries. -/
def empty (kind : Kind) : Table := .mk kind []

/-- The entry of a name. -/
def find? (t : Table) (name : String) : Option Entry := t.entries.find? (·.name == name)

/-- The table with one more entry. -/
def add (t : Table) (entry : Entry) : Table := .mk t.kind (t.entries ++ [entry])

/-- The table with another entry in place of the one of the same name. -/
def replace (t : Table) (entry : Entry) : Table :=
  .mk t.kind (t.entries.map fun e => if e.name == entry.name then entry else e)

/-- The table in which `change` has been applied to the table at the end of a path. Tables that are
missing on the way are made; on the path of a dotted key only tables without a header are entered,
and braced tables never. Of repeated tables the latest is entered. -/
def reach (dotted : Bool) (change : Table → Option Table) : List Key → Table → Option Table
  | [], t => change t
  | key :: path, t =>
      match t.find? key.name with
      | none => do
          let made ← reach dotted change path (empty (if dotted then .dotted else .implied))
          return t.add (.mk key.name key.span (.table made))
      | some (.mk _ span (.table child)) =>
          if child.kind = .braced ∨ (dotted ∧ child.kind = .explicit) then
            none
          else do
            let changed ← reach dotted change path child
            return t.replace (.mk key.name span (.table changed))
      | some (.mk _ span (.tables latest earlier)) => do
          let changed ← reach dotted change path latest
          return t.replace (.mk key.name span (.tables changed earlier))
      | some _ => none

/-- The table with a pair whose key is not dotted, or the last part of a dotted key. The table must
be open to it: one made by dotted keys takes dotted keys only, every other one plain keys only. -/
def defineHere (dotted : Bool) (key : Key) (span : Span) (value : Value) (t : Table) :
    Option Table :=
  if dotted = decide (t.kind = .dotted) ∧ (t.find? key.name).isNone then
    some (t.add (.mk key.name span value))
  else
    none

end Table

/-- A pair `path.key = value`. -/
structure Pair where
  path : List Key
  key : Key
  span : Span
  value : Value

namespace Table

/-- The table with one more pair. -/
def define (t : Table) (pair : Pair) : Option Table :=
  let dotted := !pair.path.isEmpty
  t.reach dotted (defineHere dotted pair.key pair.span pair.value) pair.path

/-- The table with the given pairs. -/
def defineAll (t : Table) (pairs : List Pair) : Option Table := pairs.foldlM define t

end Table

/-! ## Sections -/

/-- A header `[path.key]`, or `[[path.key]]` if it is repeated. -/
structure Header where
  path : List Key
  key : Key
  repeated : Bool
  span : Span

namespace Table

/-- The table with a section: the header makes a table or takes over one that was only implied, and
a repeated header adds a table to those of the same name. -/
def openHere (header : Header) (pairs : List Pair) (t : Table) : Option Table :=
  let name := header.key.name
  match t.find? name, header.repeated with
  | none, false => do
      let made ← (empty .explicit).defineAll pairs
      return t.add (.mk name header.span (.table made))
  | some (.mk _ _ (.table (.mk .implied entries))), false => do
      let made ← (Table.mk .explicit entries).defineAll pairs
      return t.replace (.mk name header.span (.table made))
  | none, true => do
      let made ← (empty .explicit).defineAll pairs
      return t.add (.mk name header.span (.tables made []))
  | some (.mk _ span (.tables latest earlier)), true => do
      let made ← (empty .explicit).defineAll pairs
      return t.replace (.mk name span (.tables made (latest :: earlier)))
  | _, _ => none

/-- The table with one more section. -/
def addSection (t : Table) (part : Header × List Pair) : Option Table :=
  t.reach false (openHere part.1 part.2) part.1.path

end Table

/-! ## Width of integers -/

mutual

/-- Whether all integers of a value are narrow: they fit a signed word of 64 bits. -/
def Value.allNarrow : Value → Bool
  | .integer i => FitsSigned 64 i
  | .array items => valuesNarrow items
  | .table t => t.allNarrow
  | .tables latest earlier => latest.allNarrow && tablesNarrow earlier
  | _ => true

/-- Whether all integers of a table are narrow. -/
def Table.allNarrow : Table → Bool
  | .mk _ entries => entriesNarrow entries

/-- Whether all integers of some values are narrow. -/
def valuesNarrow : List Value → Bool
  | [] => true
  | value :: values => value.allNarrow && valuesNarrow values

/-- Whether all integers of some tables are narrow. -/
def tablesNarrow : List Table → Bool
  | [] => true
  | t :: ts => t.allNarrow && tablesNarrow ts

/-- Whether all integers of some entries are narrow. -/
def entriesNarrow : List Entry → Bool
  | [] => true
  | .mk _ _ value :: entries => value.allNarrow && entriesNarrow entries

end

end PocketCalculator.Toml
