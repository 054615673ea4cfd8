/-!
# Keys

The key presses that a preview reacts to and what each of them asks for.  Releases and repeats ask for nothing.
-/

namespace LedStrip

inductive KeyCode where
  | char (c : Char)
  | up
  | down
  | left
  | right
  | escape
  | enter
deriving DecidableEq, Repr

/-- A key by its name, or by the character it types. -/
def KeyCode.ofName? : String → Option KeyCode
  | "up" => some up
  | "down" => some down
  | "left" => some left
  | "right" => some right
  | "esc" => some escape
  | "enter" => some enter
  | s =>
    match s.toList with
    | [c] => some (char c)
    | _ => none

inductive KeyKind where
  | press
  | hold
  | release
deriving DecidableEq, Repr

structure Key where
  code : KeyCode
  control : Bool := false
  shift : Bool := false
  alt : Bool := false
  kind : KeyKind := .press
deriving DecidableEq, Repr

inductive Action where
  | quit
  | toggleRun
  | togglePause
  /-- Change the interval by some milliseconds. -/
  | speed (ms : Int)
  /-- Move the selection. -/
  | select (places : Int)
  /-- Move the selected control by some steps. -/
  | adjust (steps : Int)
deriving DecidableEq, Repr

namespace Action

/-- Change of the interval for one press, in milliseconds. -/
def speedStep : Int := 10

def describe : Action → String
  | quit => "Quit"
  | toggleRun => "ToggleRun"
  | togglePause => "TogglePause"
  | speed ms => s!"Speed({ms})"
  | select places => s!"Select({places})"
  | adjust steps => s!"Adjust({steps})"

end Action

namespace Key

/-- What a key asks for; faster means a shorter interval. -/
def action? (k : Key) : Option Action :=
  if k.kind ≠ .press then none
  else
    match k.code with
    | .char 'q' => some .quit
    | .escape => some .quit
    | .char 'c' => if k.control then some .quit else none
    | .char ' ' => some .toggleRun
    | .char 'p' => some .togglePause
    | .char '+' => some (.speed (-Action.speedStep))
    | .char '=' => some (.speed (-Action.speedStep))
    | .char '-' => some (.speed Action.speedStep)
    | .up => some (.select (-1))
    | .down => some (.select 1)
    | .left => some (.adjust (-1))
    | .right => some (.adjust 1)
    | _ => none

/-- Reading keys from the characters that a terminal sends.  A lone escape character is the escape key. -/
def ofChars : List Char → List Key
  | [] => []
  | '\x1b' :: '[' :: 'A' :: rest => { code := .up } :: ofChars rest
  | '\x1b' :: '[' :: 'B' :: rest => { code := .down } :: ofChars rest
  | '\x1b' :: '[' :: 'C' :: rest => { code := .right } :: ofChars rest
  | '\x1b' :: '[' :: 'D' :: rest => { code := .left } :: ofChars rest
  | c :: rest =>
    (if c = '\x1b' then { code := .escape }
      else if c = '\r' then { code := .enter }
      else if c.toNat < 27 then { code := .char (Char.ofNat (c.toNat + 96)), control := true }
      else { code := .char c }) :: ofChars rest

end Key
end LedStrip
