import PocketCalculator.Binary.Number

/-!
# Settings

What the user can choose: how many decimal places a result keeps, whether the working is shown, and
the size of the window. The default values of the fields are the settings without a settings file.
-/

namespace PocketCalculator

open Binary

/-- The settings of the calculator. -/
structure Settings where
  /-- The decimal places that a result keeps. -/
  places : UInt32 := 2
  /-- Whether the panel with the working is offered. -/
  showWorking : Bool := true
  /-- The width of the window. -/
  width : Binary32 := 360
  /-- The height of the window. -/
  height : Binary32 := 520

/-- The most decimal places that a settings file can ask for. -/
def Settings.mostPlaces : UInt32 := 10

end PocketCalculator
