import PocketCalculator.Journal
import PocketCalculator.Pattern.Reading

/-!
# Log filters

Which records are written is decided by a filter, and a filter is written as a list of directives
with commas between them. A directive is a level, which then holds for all targets, or the beginning
of a target and a level with an equals sign between them; without a level everything passes. Of the
directives that apply to a target, the one with the longest beginning decides, and of these the
latest. After a slash the filter may have a pattern, and then only messages with a match of it pass.
-/

namespace PocketCalculator

/-- The most detailed level that passes; none if nothing does. -/
abbrev Threshold := Option Level

/-- Whether a level passes. -/
def Threshold.passes (threshold : Threshold) (level : Level) : Bool :=
  threshold.any fun t => level.rank ≤ t.rank

/-- The threshold of a name, in any case. -/
def Threshold.ofName? (name : List Char) : Option Threshold :=
  let lower := String.ofList (name.map Char.toLower)
  if lower = "off" then some none
  else [Level.error, .warn, .info, .debug, .trace].find? (·.name == lower) |>.map some

/-- A directive: the beginning of a target, if it does not hold for all, and a threshold. -/
structure Directive where
  target : Option (List Char)
  threshold : Threshold
deriving DecidableEq, Repr

namespace Directive

/-- The directive that a text writes, if it is one. -/
def ofText? (text : List Char) : Option Directive :=
  match text.splitOn '=' with
  | [name] =>
      match Threshold.ofName? name with
      | some threshold => some ⟨none, threshold⟩
      | none => some ⟨some name, some .trace⟩
  | [target, level] =>
      let level := Text.trimmed level
      if level.isEmpty then
        some ⟨some target, some .trace⟩
      else
        (Threshold.ofName? level).map fun threshold => ⟨some target, threshold⟩
  | _ => none

/-- The number of characters of the beginning that a directive asks for. -/
def size (d : Directive) : Nat := (d.target.getD []).length

/-- Whether a directive applies to a target. -/
def appliesTo (d : Directive) (target : List Char) : Bool := (d.target.getD []).isPrefixOf target

end Directive

/-- A filter. -/
structure LogFilter where
  /-- The directives, the earliest first. -/
  directives : List Directive := []
  /-- What a message has to contain, if anything is asked for. -/
  pattern : Option Pattern := none

namespace LogFilter

/-- The directives with one more; one for the same beginning is replaced in its place. -/
def add (directives : List Directive) (d : Directive) : List Directive :=
  if directives.any (·.target == d.target) then
    directives.map fun e => if e.target == d.target then d else e
  else
    directives ++ [d]

/-- The directives that a text writes. What is not a directive is left out, and without any
directive only errors pass. -/
def directivesOf (text : List Char) : List Directive :=
  let parts := (text.splitOn ',').map Text.trimmed
  let directives := (parts.filterMap fun part =>
    if part.isEmpty then none else Directive.ofText? part).foldl add []
  if directives.isEmpty then [⟨none, some .error⟩] else directives

/-- The filter that a text writes. A pattern that is not well formed is left out, and of a text with
two slashes nothing counts. -/
def ofText (text : String) : LogFilter :=
  match text.toList.splitOn '/' with
  | [directives] => { directives := directivesOf directives }
  | [directives, pattern] =>
      { directives := directivesOf directives
        pattern := Pattern.ofText? (String.ofList pattern) }
  | _ => { directives := directivesOf [] }

/-- The filter of a program, given what the environment asks for: by default, warnings pass. -/
def ofRequest (request : Option String) : LogFilter := ofText (request.getD "warn")

/-- The directive that decides about a target: the last of the longest. -/
def decisive? (filter : LogFilter) (target : List Char) : Option Directive :=
  (filter.directives.filter (·.appliesTo target)).foldl
    (fun best d =>
      match best with
      | some b => if b.size ≤ d.size then some d else best
      | none => some d)
    none

/-- Whether a record passes. -/
def passes (filter : LogFilter) (level : Level) (target message : String) : Bool :=
  (filter.decisive? target.toList).any (·.threshold.passes level)
    && filter.pattern.all (·.occursIn message.toList)

end LogFilter

end PocketCalculator
