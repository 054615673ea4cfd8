import LedStrip.Json.Basic

/-!
# JSON text

The compact form: no blanks, members in the order of the value, strings escaped only where they have to be, floats in
`NumberStyle.json`.
-/

namespace LedStrip
namespace Json

variable {R : Type} [Scalar R]

/-- How a character stands inside a string. -/
def escapedChar (c : Char) : String :=
  match c with
  | '"' => "\\\""
  | '\\' => "\\\\"
  | '\x08' => "\\b"
  | '\x0c' => "\\f"
  | '\n' => "\\n"
  | '\r' => "\\r"
  | '\t' => "\\t"
  | c => if c.toNat < 32 then "\\u00" ++ Text.hex 2 c.toNat else String.ofList [c]

def quoted (s : String) : String :=
  "\"" ++ s.foldl (fun out c => out ++ escapedChar c) "" ++ "\""

mutual

/-- Append the text of a value. -/
def write (out : String) : Json R → String
  | null => out ++ "null"
  | bool b => out ++ (if b then "true" else "false")
  | int n => out ++ toString n
  | float x => out ++ Scalar.text .json x
  | str s => out ++ quoted s
  | arr [] => out ++ "[]"
  | arr (v :: rest) => writeItems (write (out ++ "[") v) rest ++ "]"
  | obj [] => out ++ "\x7b\x7d"
  | obj ((k, v) :: rest) => writeMembers (write (out ++ "\x7b" ++ quoted k ++ ":") v) rest ++ "\x7d"

def writeItems (out : String) : List (Json R) → String
  | [] => out
  | v :: rest => writeItems (write (out ++ ",") v) rest

def writeMembers (out : String) : List (String × Json R) → String
  | [] => out
  | (k, v) :: rest => writeMembers (write (out ++ "," ++ quoted k ++ ":") v) rest

end

/-- Compact text of a value. -/
def text (v : Json R) : String := write "" v

end Json
end LedStrip
