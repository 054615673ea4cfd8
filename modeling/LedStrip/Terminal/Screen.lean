import LedStrip.Color

/-!
# Drawing on a terminal

A drawing is a list of steps.  `Draw.sequence` gives the control sequence of a step; a styled text sets its colors, the
background first, and resets what it has set.
-/

namespace LedStrip

/-- A color of the terminal. -/
inductive Ink where
  | rgb (c : Rgb)
  | black
  | darkRed
  | grey
  | darkGrey
  | green
  | yellow
  | white
deriving DecidableEq, Repr

namespace Ink

/-- The parameters that choose the color. -/
def code : Ink → String
  | rgb c => s!"2;{c.r};{c.g};{c.b}"
  | black => "5;0"
  | darkRed => "5;1"
  | grey => "5;7"
  | darkGrey => "5;8"
  | green => "5;10"
  | yellow => "5;11"
  | white => "5;15"

end Ink

/-- One step of a drawing; columns and rows count from zero. -/
inductive Draw where
  | moveTo (column row : Nat)
  | text (s : String)
  | styled (s : String) (foreground background : Option Ink)
  | clearToLineEnd
  | clearBelow
  | clearAll
  | hideCursor
  | showCursor
  | enterAlternate
  | leaveAlternate
deriving DecidableEq, Repr

namespace Draw

/-- A control sequence. -/
def csi (s : String) : String := "\x1b[" ++ s

def sequence : Draw → String
  | moveTo column row => csi s!"{row + 1};{column + 1}H"
  | text s => s
  | styled s foreground background =>
    ((background.map fun c => csi s!"48;{c.code}m").getD "") ++
      ((foreground.map fun c => csi s!"38;{c.code}m").getD "") ++ s ++
      (if background.isSome then csi "49m" else "") ++ (if foreground.isSome then csi "39m" else "")
  | clearToLineEnd => csi "K"
  | clearBelow => csi "J"
  | clearAll => csi "2J"
  | hideCursor => csi "?25l"
  | showCursor => csi "?25h"
  | enterAlternate => csi "?1049h"
  | leaveAlternate => csi "?1049l"

/-- What a terminal is sent for a drawing. -/
def sequences (steps : List Draw) : String := String.join (steps.map sequence)

end Draw
end LedStrip
