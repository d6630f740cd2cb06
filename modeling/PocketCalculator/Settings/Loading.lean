import PocketCalculator.Files
import PocketCalculator.Journal
import PocketCalculator.Settings.Document

/-!
# Loading the settings

The settings file is the one that the environment names, or `calculatrice.toml`. An absent file
means the default settings. A file that cannot be read or whose document is refused is an error, and
`Settings.loadOrDefault` turns it into a warning and the default settings: a broken file is never
fatal. Every outcome leaves exactly one record.
-/

namespace PocketCalculator

/-! ## Outcomes -/

/-- Why the settings cannot be loaded. -/
inductive LoadError where
  | unreadable (path : String) (failure : ReadFailure)
  | refused (error : Settings.DocumentError)

/-- The wording of an error. -/
def LoadError.message : LoadError → String
  | .unreadable path failure => "lecture de " ++ path ++ " impossible: " ++ failure.reason
  | .refused error => "réglages invalides: " ++ error.report

/-- The settings as a record shows them. -/
def Settings.detailed (s : Settings) : String :=
  "Reglages \x7b decimales: " ++ toString s.places.toNat
    ++ ", demarche: " ++ (if s.showWorking then "true" else "false")
    ++ ", largeur: " ++ Layout.detailed.text s.width
    ++ ", hauteur: " ++ Layout.detailed.text s.height ++ " \x7d"

/-- A record of the launch of the calculator. -/
inductive LaunchEvent where
  /-- There is no settings file. -/
  | noFile (path : String)
  | loaded (path : String) (settings : Settings)
  /-- The default settings stand in for those that cannot be loaded. -/
  | fellBack (error : LoadError)
  /-- The calculator starts with the given settings. -/
  | started (settings : Settings)

namespace LaunchEvent

/-- The level of a record. -/
def level : LaunchEvent → Level
  | .noFile _ => .debug
  | .loaded _ _ | .started _ => .info
  | .fellBack _ => .warn

/-- The part of the program that a record comes from. -/
def target : LaunchEvent → String
  | .started _ => "calculatrice_rpn"
  | _ => "calculatrice_rpn::reglages"

/-- The wording of a record. -/
def message : LaunchEvent → String
  | .noFile path => "pas de fichier " ++ path ++ ", réglages par défaut"
  | .loaded path settings => "réglages chargés depuis " ++ path ++ ": " ++ settings.detailed
  | .fellBack error => error.message ++ " ; réglages par défaut"
  | .started settings =>
      "démarrage natif (" ++ Layout.plain.text settings.width ++ "×"
        ++ Layout.plain.text settings.height ++ ")"

end LaunchEvent

/-! ## Loading -/

namespace Settings

/-- The path of the settings file, given what the environment names. -/
def path (named : Option String) : String := named.getD "calculatrice.toml"

/-- The settings in a file, given its path and what came of reading it. -/
def load (path : String) (result : ReadResult) (parser : Toml.Parser := {}) :
    Logged LaunchEvent (Except LoadError Settings) :=
  match result with
  | .absent => ⟨.ok {}, [.noFile path]⟩
  | .failed failure => pure (.error (.unreadable path failure))
  | .found text =>
      match ofToml text parser with
      | .ok settings => ⟨.ok settings, [.loaded path settings]⟩
      | .error error => pure (.error (.refused error))

/-- The settings in a file, or the default settings if they cannot be loaded. -/
def loadOrDefault (path : String) (result : ReadResult) (parser : Toml.Parser := {}) :
    Logged LaunchEvent Settings := do
  match ← load path result parser with
  | .ok settings => return settings
  | .error error =>
      Logged.emit (.fellBack error)
      return {}

end Settings

end PocketCalculator
