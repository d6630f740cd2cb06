import PocketCalculator.LogFilter
import PocketCalculator.Settings.Loading

/-!
# Launching the calculator

The launch loads the settings, or falls back on the default ones, and records that the calculator
starts. The records that pass the filter are written as lines.
-/

namespace PocketCalculator

/-- A line of the log. -/
structure LogLine where
  level : Level
  target : String
  message : String
deriving DecidableEq, Repr

/-- A message on the log: every line of it but the first is indented by four blanks. -/
def indented (message : String) : String :=
  String.ofList (message.toList.flatMap fun c =>
    if c = '\n' then ['\n', ' ', ' ', ' ', ' '] else [c])

/-- The line of a record. -/
def LaunchEvent.line (event : LaunchEvent) : LogLine :=
  ⟨event.level, event.target, indented event.message⟩

/-- The settings with which the calculator starts, given the path of the settings file and what came
of reading it. -/
def launch (path : String) (result : ReadResult) (parser : Toml.Parser := {}) :
    Logged LaunchEvent Settings := do
  let settings ← Settings.loadOrDefault path result parser
  Logged.emit (.started settings)
  return settings

/-- The records that pass a filter, as lines. -/
def LogFilter.lines (filter : LogFilter) (journal : List LaunchEvent) : List LogLine :=
  (journal.filter fun event => filter.passes event.level event.target event.message).map
    LaunchEvent.line

end PocketCalculator
