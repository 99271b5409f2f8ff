/-!
# Printer states and paper orientations
-/

namespace PrintProxy

/-- A value of the `printer-state` attribute. -/
inductive PrinterState where
  | idle
  | processing
  | stopped
deriving DecidableEq, Repr

namespace PrinterState

def number : PrinterState → Int32
  | idle => 3
  | processing => 4
  | stopped => 5

def all : List PrinterState := [idle, processing, stopped]

def ofNumber? (number : Int32) : Option PrinterState := all.find? (·.number == number)

end PrinterState

/-- A value of the `orientation-requested` attribute. -/
inductive Orientation where
  | portrait
  | landscape
  | reverseLandscape
  | reversePortrait
deriving DecidableEq, Repr

namespace Orientation

def number : Orientation → Int32
  | portrait => 3
  | landscape => 4
  | reverseLandscape => 5
  | reversePortrait => 6

def all : List Orientation := [portrait, landscape, reverseLandscape, reversePortrait]

def ofNumber? (number : Int32) : Option Orientation := all.find? (·.number == number)

end Orientation

end PrintProxy
