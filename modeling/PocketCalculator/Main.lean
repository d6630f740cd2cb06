import PocketCalculator.Launch

/-!
# Command line

Launches the calculator up to the point where its window opens: loads the settings file that
`CALCULATRICE_CONFIG` names, filters the records by `RUST_LOG`, and writes them to standard error.
-/

namespace PocketCalculator

/-- Reads a file as text. -/
def readText (path : String) : IO ReadResult := do
  try
    return .ofBytes (← IO.FS.readBinFile path)
  catch
    | .noFileOrDirectory _ _ _ => return .absent
    | .inappropriateType _ code _ =>
        return .failed (if code = 21 then .isDirectory else .notDirectory)
    | error => return .failed (.other error.toString)

/-- A line of the log as text. -/
def LogLine.text (line : LogLine) : String :=
  "[" ++ line.level.name.toUpper ++ " " ++ line.target ++ "] " ++ line.message

/-- Launches the calculator and writes its log. -/
def runLaunch : IO Unit := do
  let path := Settings.path (← IO.getEnv "CALCULATRICE_CONFIG")
  let filter := LogFilter.ofRequest (← IO.getEnv "RUST_LOG")
  let run := launch path (← readText path)
  for line in filter.lines run.journal do
    IO.eprintln line.text

end PocketCalculator

def main : IO Unit := PocketCalculator.runLaunch
