import LedStrip.Text.Basic

/-!
# Tokens of the script language

A script is cut into lexemes: tokens with the position of their first character.  A template string is cut at its
interpolations, so that the code between them is cut like any other code.
-/

namespace LedStrip
namespace Script

inductive Token where
  | int (n : Int)
  | float (q : Rat)
  | str (s : String)
  | char (c : Char)
  | name (s : String)
  | keyword (s : String)
  /-- A word that is kept for the language; some of them can be called. -/
  | reserved (s : String)
  | symbol (s : String)
  /-- Text of a template before an interpolation. -/
  | template (s : String)
  /-- Text of a template after its last interpolation. -/
  | templateEnd (s : String)
  /-- What is no token at all. -/
  | bad
  | eof
deriving DecidableEq, Repr, Inhabited

structure Lexeme where
  token : Token
  position : Position
deriving DecidableEq, Repr, Inhabited

/-! ### Words and symbols -/

def keywords : List String :=
  ["true", "false", "let", "const", "if", "else", "switch", "do", "while", "until", "loop", "for", "in", "continue",
   "break", "return", "throw", "try", "catch", "import", "export", "as", "private", "fn"]

/-- Reserved words that are called like functions. -/
def callableWords : List String := ["print", "debug", "type_of", "Fn", "call", "curry", "is_shared", "is_def_fn",
  "is_def_var"]

def reservedWords : List String :=
  callableWords ++
  ["eval", "this", "var", "static", "shared", "with", "is", "goto", "exit", "match", "case", "default", "public",
   "protected", "new", "use", "module", "package", "super", "thread", "spawn", "go", "sync", "async", "await", "yield",
   "void", "null", "nil"]

/-- A word as a token; a word without a letter is none. -/
def wordToken (s : String) : Token :=
  if s ∈ keywords then .keyword s
  else if s ∈ reservedWords then .reserved s
  else if s.toList.any Char.isAlpha then .name s
  else if s = "_" then .symbol s
  else .bad

/-- Symbols with a meaning, longer ones before their beginnings. -/
def symbols : List String :=
  ["..=", "<<=", ">>=", "**=", "::", "..", "==", "=>", "!=", "<=", ">=", "<<", ">>", "&&", "||", "&=", "|=", "^=",
   "+=", "-=", "*=", "/=", "%=", "**", "??", "?.", "?[", "=", "!", "<", ">", "&", "|", "^", "+", "-", "*", "/", "%",
   ":", ";", ",", ".", "(", ")", "[", "]", "\x7b", "\x7d"]

/-- Sequences that are kept for the language and mean nothing yet. -/
def reservedSymbols : List String :=
  ["...", "===", "!==", "::<", "->", "<-", ":=", ":;", "!.", "(*", "*)", "++", "--", "<|", "|>", "~", "#!", "#", "@",
   "$", "?"]

/-- Whether a minus after this token belongs to the number behind it. -/
def Token.startsOperand : Token → Bool
  | .symbol s => s ∉ [")", "]", "\x7d", ".", "?."]
  | .keyword s => s ∉ ["true", "false"]
  | .template _ => true
  | _ => false

end Script
end LedStrip
