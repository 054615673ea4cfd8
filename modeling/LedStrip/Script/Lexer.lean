import LedStrip.Number.Rounding
import LedStrip.Script.Token

/-!
# Cutting a script into lexemes

`lexemes` cuts a whole text; the last lexeme is always the end of the text.  What cannot be cut becomes a bad token at its
place, and whoever reads the lexemes decides what that means.
-/

namespace LedStrip
namespace Script

/-- A character with its place. -/
abbrev Glyph := Char × Position

/-- Characters with their places, from a given line and column on, and the place after the last one. -/
def glyphsFrom : List Char → Nat → Nat → List Glyph × Position
  | [], line, column => ([], ⟨line, column⟩)
  | c :: rest, line, column =>
    let (more, last) := if c = '\n' then glyphsFrom rest (line + 1) 0 else glyphsFrom rest line (column + 1)
    ((c, ⟨line, column + 1⟩) :: more, last)

def glyphs (text : String) : List Glyph × Position := glyphsFrom text.toList 1 0

def textOf (gs : List Glyph) : String := String.ofList (gs.map (·.1))

def startsWithChars : List Char → List Glyph → Bool
  | [], _ => true
  | _ :: _, [] => false
  | c :: cs, g :: gs => c == g.1 && startsWithChars cs gs

/-- Whether the glyphs begin with a text. -/
def beginsWith (s : String) (gs : List Glyph) : Bool := startsWithChars s.toList gs

def isBlank (c : Char) : Bool :=
  c == ' ' || (9 ≤ c.toNat && c.toNat ≤ 13) || c.toNat == 0x85 || c.toNat == 0xA0 || c.toNat == 0x1680 ||
    (0x2000 ≤ c.toNat && c.toNat ≤ 0x200A) || c.toNat == 0x2028 || c.toNat == 0x2029 || c.toNat == 0x202F ||
    c.toNat == 0x205F || c.toNat == 0x3000

def isWordStart (c : Char) : Bool := c.isAlpha || c == '_'

def isWordChar (c : Char) : Bool := c.isAlphanum || c == '_'

/-! ### Comments -/

/-- The glyphs after a block comment; such comments nest. -/
def afterBlockComment : Nat → List Glyph → List Glyph
  | _, [] => []
  | _, [_] => []
  | depth, (a, _) :: (b, p) :: rest =>
    if a = '*' && b = '/' then if depth ≤ 1 then rest else afterBlockComment (depth - 1) rest
    else if a = '/' && b = '*' then afterBlockComment (depth + 1) rest
    else afterBlockComment depth ((b, p) :: rest)

/-! ### Numbers -/

def isDigitChar (c : Char) : Bool := c.isDigit || c == '_'

/-- Value of decimal digits; separators do not count. -/
def decimalValue (gs : List Glyph) : Nat :=
  gs.foldl (fun n g => if g.1 == '_' then n else n * 10 + (g.1.toNat - 48)) 0

def digitCount (gs : List Glyph) : Nat := gs.countP fun g => g.1 != '_'

/-- A decimal literal as a fraction. -/
def decimalFraction (negative : Bool) (digits : Nat) (exponent : Int) : Token :=
  let e := max (-5000) (min 5000 exponent)
  let q : Rat := if 0 ≤ e then (digits * 10 ^ e.toNat : Nat) else mkRat digits (10 ^ (-e).toNat)
  .float (if negative then -q else q)

/-- An integer literal; one beyond 64 bits is a float. -/
def integerToken (negative : Bool) (n : Nat) : Token :=
  if negative && n ≤ 2 ^ 63 then .int (-(n : Int))
  else if !negative && n < 2 ^ 63 then .int n
  else decimalFraction negative n 0

/-- Digits after the point, if a fraction follows. -/
def fractionPart : List Glyph → Option (List Glyph × List Glyph)
  | ('.', _) :: (c, p) :: rest =>
    if c.isDigit then some (((c, p) :: rest).span fun g => isDigitChar g.1)
    else if c == '_' || c == '.' || c.isAlpha then none
    else some ([], (c, p) :: rest)
  | _ => none

/-- The exponent, if one follows; one without digits is malformed. -/
def exponentPart : List Glyph → Option (Option Int × List Glyph)
  | ('e', _) :: (c, p) :: rest =>
    if c.isDigit then
      let (ds, rest) := ((c, p) :: rest).span fun g => isDigitChar g.1
      some (some (decimalValue ds : Int), rest)
    else if c == '+' || c == '-' then
      let (ds, rest) := rest.span fun g => isDigitChar g.1
      let n : Int := decimalValue ds
      some (if digitCount ds = 0 then none else some (if c == '-' then -n else n), rest)
    else none
  | _ => none

/-- Base of a literal with a marked base. -/
def markedBase? : Char → Option Nat
  | 'x' => some 16
  | 'X' => some 16
  | 'o' => some 8
  | 'O' => some 8
  | 'b' => some 2
  | 'B' => some 2
  | _ => none

/-- A number at the start of the glyphs. -/
def decimalToken (negative : Bool) (gs : List Glyph) : Token × List Glyph :=
  let (whole, rest) := gs.span fun g => isDigitChar g.1
  let (fraction?, rest) :=
    match fractionPart rest with
    | some (ds, rest) => (some ds, rest)
    | none => (none, rest)
  let fraction := fraction?.getD []
  let digits := decimalValue (whole ++ fraction)
  let places : Int := digitCount fraction
  match exponentPart rest with
  | some (some e, rest) => (decimalFraction negative digits (e - places), rest)
  | some (none, rest) => (.bad, rest)
  | none =>
    if fraction?.isSome then (decimalFraction negative digits (-places), rest)
    else (integerToken negative digits, rest)

def numberToken (negative : Bool) (gs : List Glyph) : Token × List Glyph :=
  match gs with
  | ('0', _) :: (m, _) :: rest =>
    match markedBase? m with
    | none => decimalToken negative gs
    | some base =>
      let (ds, rest) := rest.span fun g => (Text.digitValue? base g.1).isSome || g.1 == '_'
      match Text.natOf? base ((ds.map (·.1)).filter (· != '_')) with
      | none => (.bad, rest)
      | some n =>
        let n : Int := if n < 2 ^ 63 then n else (n : Int) - 2 ^ 64
        (if n < -(2 ^ 63) then .bad else .int (if negative then -n else n), rest)
  | _ => decimalToken negative gs

/-! ### Strings -/

/-- How a piece of quoted text ends. -/
inductive TextEnd where
  /-- At its closing quote. -/
  | closed
  /-- Before an interpolation. -/
  | interpolation
  /-- Not at all, or with an escape that means nothing. -/
  | malformed
deriving DecidableEq

/-- The escape after a backslash: a character and the glyphs behind it.  Of the quotes only the closing one can be
escaped. -/
def escape? (quote : Char) : List Glyph → Option (Char × List Glyph)
  | (c, _) :: rest =>
    let code (width : Nat) : Option (Char × List Glyph) :=
      let ds := (rest.take width).map (·.1)
      if ds.length < width then none
      else
        (Text.natOf? 16 ds).bind fun n =>
          if n.isValidChar then some (Char.ofNat n, rest.drop width) else none
    match c with
    | '\\' => some ('\\', rest)
    | 't' => some ('\t', rest)
    | 'n' => some ('\n', rest)
    | 'r' => some ('\r', rest)
    | 'x' => code 2
    | 'u' => code 4
    | 'U' => code 8
    | c => if c = quote then some (c, rest) else none
  | [] => none

/-- Text up to a closing quote, which stands for itself where it is doubled. -/
def quotedText (quote : Char) : Nat → List Glyph → List Char → List Char × TextEnd × List Glyph
  | 0, gs, out => (out.reverse, .malformed, gs)
  | _ + 1, [], out => (out.reverse, .malformed, [])
  | fuel + 1, (c, p) :: rest, out =>
    if c = quote then
      match rest with
      | (d, _) :: rest' => if d = quote then quotedText quote fuel rest' (quote :: out) else (out.reverse, .closed, rest)
      | [] => (out.reverse, .closed, [])
    else if c = '\\' then
      match rest with
      | ('\n', _) :: rest' => quotedText quote fuel (rest'.dropWhile fun g => g.1 == ' ' || g.1 == '\t') out
      | _ =>
        match escape? quote rest with
        | some (e, rest) => quotedText quote fuel rest (e :: out)
        | none => (out.reverse, .malformed, (c, p) :: rest)
    else if c = '\n' then (out.reverse, .malformed, (c, p) :: rest)
    else quotedText quote fuel rest (c :: out)

/-- Text of a template up to its end or to an interpolation. -/
def templateText : Nat → List Glyph → List Char → List Char × TextEnd × List Glyph
  | 0, gs, out => (out.reverse, .malformed, gs)
  | _ + 1, [], out => (out.reverse, .malformed, [])
  | fuel + 1, (c, _) :: rest, out =>
    if c = '`' then
      match rest with
      | ('`', _) :: rest => templateText fuel rest ('`' :: out)
      | _ => (out.reverse, .closed, rest)
    else if c = '$' && rest.head?.map (·.1) == some '\x7b' then (out.reverse, .interpolation, rest)
    else templateText fuel rest (c :: out)

/-! ### One lexeme -/

/-- Where the cutting stands: the last token, and for each open interpolation the braces that are open inside it. -/
structure LexerState where
  last : Token := .symbol ";"
  braces : List Nat := []

/-- One more brace inside the innermost interpolation. -/
def opened : List Nat → List Nat
  | [] => []
  | n :: more => (n + 1) :: more

/-- A piece of a template as lexemes; an interpolation opens with its brace. -/
def templateLexemes (start : Position) (gs : List Glyph) (st : LexerState) (isFirst : Bool) :
    List Lexeme × List Glyph × LexerState :=
  let (cs, ending, rest) := templateText (gs.length + 1) gs []
  let s := String.ofList cs
  match ending with
  | .closed =>
    let t := if isFirst then Token.str s else .templateEnd s
    ([⟨t, start⟩], rest, { st with last := t })
  | .interpolation =>
    match rest with
    | (_, p) :: rest =>
      ([⟨.template s, start⟩, ⟨.symbol "\x7b", p⟩], rest, { last := .symbol "\x7b", braces := 0 :: st.braces })
    | [] => ([⟨.bad, start⟩], [], st)
  | .malformed => ([⟨.bad, start⟩], [], { st with last := .bad })

/-- A character between single quotes. -/
def charToken (gs : List Glyph) : Token × List Glyph :=
  let (cs, ending, rest) := quotedText '\'' (gs.length + 1) gs []
  match ending, cs with
  | .closed, [c] => (.char c, rest)
  | _, _ => (.bad, [])

/-- The first symbol of a list that the glyphs begin with. -/
def firstSymbol? (candidates : List String) (gs : List Glyph) : Option String :=
  candidates.find? fun s => beginsWith s gs

/-- The lexemes that begin at a glyph that is neither blank nor part of a comment: one, or two where a template opens. -/
def nextLexemes (c : Char) (p : Position) (rest : List Glyph) (st : LexerState) :
    List Lexeme × List Glyph × LexerState :=
  let gs := (c, p) :: rest
  let one (t : Token) (rest : List Glyph) : List Lexeme × List Glyph × LexerState :=
    ([⟨t, p⟩], rest, { st with last := t })
  let digitAhead := (rest.head?.map fun g => g.1.isDigit).getD false
  if isWordStart c then
    let (ws, rest) := gs.span fun g => isWordChar g.1
    one (wordToken (textOf ws)) rest
  else if c.isDigit then
    let (t, rest) := numberToken false gs
    one t rest
  else if c = '-' && digitAhead && st.last.startsOperand then
    let (t, rest) := numberToken true rest
    one t rest
  else if c = '"' then
    let (cs, ending, rest) := quotedText '"' (rest.length + 1) rest []
    if ending = .closed then one (.str (String.ofList cs)) rest else one .bad []
  else if c = '\'' then
    let (t, rest) := charToken rest
    one t rest
  else if c = '`' then
    let rest := if rest.head?.map (·.1) == some '\n' then rest.tail else rest
    templateLexemes p rest st true
  else if beginsWith "#\x7b" gs then
    ([⟨.symbol "#\x7b", p⟩], gs.drop 2, { last := .symbol "#\x7b", braces := opened st.braces })
  else
    match firstSymbol? reservedSymbols gs, firstSymbol? symbols gs with
    | some r, some s =>
      if r.length ≤ s.length then one (.symbol s) (gs.drop s.length) else one (.reserved r) (gs.drop r.length)
    | some r, none => one (.reserved r) (gs.drop r.length)
    | none, none => one .bad rest
    | none, some s =>
      let after := gs.drop s.length
      match s, st.braces with
      | "\x7b", bs => ([⟨.symbol s, p⟩], after, { last := .symbol s, braces := opened bs })
      | "\x7d", 0 :: more =>
        let (ls, after, st) := templateLexemes p after { st with braces := more } false
        (⟨.symbol s, p⟩ :: ls, after, st)
      | "\x7d", (n + 1) :: more => ([⟨.symbol s, p⟩], after, { last := .symbol s, braces := n :: more })
      | "!", _ =>
        let isNotIn := beginsWith "!in" gs && !((gs.drop 3).head?.map fun g => isWordChar g.1).getD false
        if isNotIn then one (.symbol "!in") (gs.drop 3) else one (.symbol s) after
      | _, _ => one (.symbol s) after

/-! ### A whole text -/

/-- Lexemes of the glyphs; every round takes at least one glyph. -/
def lexemesFrom (last : Position) : Nat → List Glyph → LexerState → List Lexeme
  | 0, _, _ => [⟨.eof, last⟩]
  | _ + 1, [], st => if st.braces.isEmpty then [⟨.eof, last⟩] else [⟨.bad, last⟩, ⟨.eof, last⟩]
  | fuel + 1, (c, p) :: rest, st =>
    if isBlank c then lexemesFrom last fuel rest st
    else if beginsWith "//" ((c, p) :: rest) then
      lexemesFrom last fuel (rest.dropWhile fun g => g.1 != '\n') st
    else if beginsWith "/*" ((c, p) :: rest) then
      lexemesFrom last fuel (afterBlockComment 1 rest.tail) st
    else
      let (ls, rest, st) := nextLexemes c p rest st
      ls ++ lexemesFrom last fuel rest st

/-- The lexemes of a text, the last of them its end. -/
def lexemes (text : String) : List Lexeme :=
  let (gs, last) := glyphs text
  lexemesFrom last (gs.length + 1) gs {}

end Script
end LedStrip
