import LedStrip.Script.Lexer
import LedStrip.Script.Syntax

/-!
# Reading a script

`parse` reads a whole text or says where and why it cannot.  The reader knows which variables are visible at each point:
in strict mode a variable that is not is refused, and a constant cannot be assigned to in either mode.

Every function of the reader takes a fuel that bounds how deep calls nest; the amount that `parse` gives grows with the
number of lexemes and is never used up.
-/

namespace LedStrip
namespace Script

inductive SyntaxFault where
  | undefinedVariable (name : String)
  | unexpected
  | tooDeep
  | duplicateFunction (name : String)
  | constantAssigned (name : String)
deriving DecidableEq, Repr

structure SyntaxError where
  position : Position
  fault : SyntaxFault
deriving DecidableEq, Repr

def SyntaxFault.message : SyntaxFault → String
  | undefinedVariable name => s!"Undefined variable: {name}"
  | unexpected => "Unexpected input"
  | tooDeep => "Expression exceeds maximum complexity"
  | duplicateFunction name => s!"Function {name} already exists"
  | constantAssigned name => s!"Cannot assign to constant {name}"

/-- Deepest nesting of expressions. -/
def maxDepth : Nat := 64

/-- A visible variable. -/
structure Visible where
  name : String
  constant : Bool

structure ParserState where
  rest : List Lexeme
  visible : List Visible
  modules : List String
  /-- Names that are known everywhere, inside functions too. -/
  outside : List String := []
  functions : List Function := []

/-- Where the reader is. -/
structure Place where
  strict : Bool
  isGlobal : Bool := false
  inFunction : Bool := false
  inLoop : Bool := false
  depth : Nat := 0

namespace Place

/-- Inside a block. -/
def inner (p : Place) : Place := { p with isGlobal := false }

end Place

abbrev Reader := StateT ParserState (Except SyntaxError)

namespace Reader

/-! ### Lexemes -/

def peek : Reader Lexeme := do return (← get).rest.headD ⟨.eof, ⟨0, 0⟩⟩

/-- The next lexeme; the end of the text is never passed. -/
def next : Reader Lexeme := do
  let l ← peek
  if l.token ≠ .eof then modify fun s => { s with rest := s.rest.tail }
  return l

def failAt {α : Type} (position : Position) (fault : SyntaxFault) : Reader α := throw ⟨position, fault⟩

/-- Fail at the next lexeme. -/
def unexpected {α : Type} : Reader α := do failAt (← peek).position .unexpected

/-- Take a token if it is next. -/
def accept (t : Token) : Reader Bool := do
  if (← peek).token = t then
    let _ ← next
    return true
  else return false

def expect (t : Token) : Reader Unit := do
  if !(← accept t) then unexpected

def expectName : Reader String := do
  match (← peek).token with
  | .name s =>
    let _ ← next
    return s
  | _ => unexpected

/-! ### Visible variables -/

def declare (name : String) (constant : Bool) : Reader Unit :=
  modify fun s => { s with visible := ⟨name, constant⟩ :: s.visible }

def visible? (name : String) : Reader (Option Visible) := do return (← get).visible.find? (·.name == name)

/-- What is declared inside is not visible afterwards. -/
def locally {α : Type} (r : Reader α) : Reader α := do
  let before := (← get).visible
  let a ← r
  modify fun s => { s with visible := before }
  return a

/-- A name that can stand as a variable: one that is visible, known from outside, or the name of a function. -/
def known (name : String) : Reader Bool := do
  let s ← get
  return s.visible.any (·.name == name) || s.outside.contains name || s.functions.any (·.name == name)

/-- A variable at a position, which has to be known in strict mode. -/
def variableAt (place : Place) (position : Position) (name : String) : Reader Expr := do
  if place.strict && !(← known name) then failAt position (.undefinedVariable name)
  else return .var name

/-- One level further down, if there is one. -/
def descend (place : Place) : Reader Place := do
  if maxDepth ≤ place.depth then failAt (← peek).position .tooDeep
  else return { place with depth := place.depth + 1 }

end Reader

open Reader

/-! ### Operators -/

/-- How tightly a binary operator binds. -/
def precedence : Token → Nat
  | .symbol s =>
    if s ∈ ["||", "|", "^"] then 30
    else if s ∈ ["&&", "&"] then 60
    else if s ∈ ["==", "!="] then 90
    else if s = "!in" then 110
    else if s ∈ ["<", "<=", ">", ">="] then 130
    else if s = "??" then 135
    else if s ∈ ["..", "..="] then 140
    else if s ∈ ["+", "-"] then 150
    else if s ∈ ["*", "/", "%"] then 180
    else if s = "**" then 190
    else if s ∈ ["<<", ">>"] then 210
    else 0
  | .keyword "in" => 110
  | _ => 0

def bindsRight (t : Token) : Bool := t = .symbol "**"

def binaryOpOf : String → BinaryOp
  | "+" => .add
  | "-" => .sub
  | "*" => .mul
  | "/" => .div
  | "%" => .rem
  | "==" => .eq
  | "!=" => .ne
  | "<" => .lt
  | "<=" => .le
  | ">" => .gt
  | ">=" => .ge
  | ".." => .range
  | "..=" => .closedRange
  | _ => .other

/-- The expression of an operator and its two sides. -/
def combine (op : Token) (left right : Expr) : Expr :=
  match op with
  | .symbol "&&" => .and left right
  | .symbol "||" => .or left right
  | .symbol "??" => .orElse left right
  | .symbol "!in" => .not (.member left right)
  | .symbol s => .binary (binaryOpOf s) left right
  | _ => .member left right

/-- The operator of an assignment; `none` is plain. -/
def assignment? : Token → Option (Option BinaryOp)
  | .symbol "=" => some none
  | .symbol s => if s ∈ ["+=", "-=", "*=", "/=", "%="] then some (some (binaryOpOf (String.ofList (s.toList.take 1))))
    else if s ∈ ["**=", "<<=", ">>=", "&=", "|=", "^="] then some (some .other) else none
  | _ => none

/-- A constant that a case may be. -/
def patternOf? : Expr → Option Pattern
  | .unit => some .unit
  | .bool b => some (.bool b)
  | .int n => some (.int n)
  | .float q => some (.float q)
  | .char c => some (.char c)
  | .str s => some (.str s)
  | .binary .range (.int a) (.int b) => some (.range a b false)
  | .binary .closedRange (.int a) (.int b) => some (.range a b true)
  | _ => none

/-- Constants that can be no index. -/
def isNoIndex : Expr → Bool
  | .unit => true
  | .bool _ => true
  | .float _ => true
  | .char _ => true
  | _ => false

/-- A link behind an expression. -/
def extend (e : Expr) (l : Link) : Expr :=
  match e with
  | .chain root links => .chain root (links ++ [l])
  | e => .chain e [l]

/-- Whether a chain ends in a call. -/
def endsInCall (links : List Link) : Bool :=
  match links.getLast? with
  | some (.method ..) => true
  | _ => false

/-- A variable that is set to itself combined with something is changed by the operator. -/
def assignVariable (name : String) (op : Option BinaryOp) (value : Expr) : Expr :=
  match op, value with
  | none, .binary inner (.var old) v =>
    if old = name && inner ∈ [.add, .sub, .mul, .div, .rem] then .assign (.var name) [] (some inner) v
    else .assign (.var name) [] none value
  | op, value => .assign (.var name) [] op value

/-- An assignment to what an expression names. -/
def assignTo (target : Expr) (position : Position) (op : Option BinaryOp) (value : Expr) : Reader Expr := do
  let checked (name : String) : Reader Unit := do
    if ((← visible? name).map (·.constant)).getD false then failAt position (.constantAssigned name)
  match target with
  | .var name => do
    checked name
    return assignVariable name op value
  | .this => return .assign target [] op value
  | .chain (.var name) links => do
    checked name
    if endsInCall links then failAt position .unexpected else return .assign (.var name) links op value
  | .chain .this links =>
    if endsInCall links then failAt position .unexpected else return .assign .this links op value
  | _ => failAt position .unexpected

/-- The name behind a point: any name, or a word that can be called. -/
def memberName : Reader String := do
  match (← peek).token with
  | .name s => do
    let _ ← next
    return s
  | .reserved s =>
    if s ∈ callableWords then do
      let _ ← next
      return s
    else unexpected
  | _ => unexpected

/-- Parameters of a closure up to the closing bar. -/
def closureParams : Nat → Reader (List String)
  | 0 => unexpected
  | fuel + 1 => do
    if ← accept (.symbol "|") then return []
    let name ← expectName
    if ← accept (.symbol ",") then return name :: (← closureParams fuel)
    expect (.symbol "|")
    return [name]

/-- Parameters up to the closing parenthesis; no name stands twice. -/
def parameters : Nat → List String → Reader (List String)
  | 0, _ => unexpected
  | fuel + 1, seen => do
    if ← accept (.symbol ")") then return []
    let l ← peek
    let name ← expectName
    if name ∈ seen then failAt l.position .unexpected
    if ← accept (.symbol ",") then return name :: (← parameters fuel (name :: seen))
    expect (.symbol ")")
    return [name]

/-! ### Expressions and statements -/

mutual

def expression : Nat → Place → Reader Expr
  | 0, _ => unexpected
  | fuel + 1, place => do
    let place ← descend place
    let left ← unary fuel place
    operators fuel place 1 left

/-- The operators behind an expression that bind tighter than `parent`. -/
def operators : Nat → Place → Nat → Expr → Reader Expr
  | 0, _, _, _ => unexpected
  | fuel + 1, place, parent, left => do
    let op := (← peek).token
    let p := precedence op
    if p < parent || (p = parent && !bindsRight op) then return left
    let _ ← next
    let right ← unary fuel place
    let following := precedence (← peek).token
    let right ←
      if p < following || (p = following && bindsRight op) then operators fuel place p right else pure right
    operators fuel (← descend place) parent (combine op left right)

def unary : Nat → Place → Reader Expr
  | 0, _ => unexpected
  | fuel + 1, place => do
    match (← peek).token with
    | .symbol "-" => do
      let _ ← next
      return .negate (← unary fuel (← descend place))
    | .symbol "+" => do
      let _ ← next
      unary fuel (← descend place)
    | .symbol "!" => do
      let _ ← next
      return .not (← unary fuel (← descend place))
    | _ => do
      let e ← primary fuel place
      links fuel place e

/-- Properties, indices and method calls behind an expression. -/
def links : Nat → Place → Expr → Reader Expr
  | 0, _, _ => unexpected
  | fuel + 1, place, e => do
    match (← peek).token with
    | .symbol "." => do
      let _ ← next
      let name ← memberName
      if ← accept (.symbol "(") then
        let args ← listUntil fuel (← descend place) ")"
        links fuel place (extend e (.method name args))
      else links fuel place (extend e (.prop name))
    | .symbol "[" => do
      let _ ← next
      let position := (← peek).position
      let i ← expression fuel (← descend place.inner)
      if isNoIndex i then failAt position .unexpected
      expect (.symbol "]")
      links fuel place (extend e (.index i))
    | _ => return e

/-- Expressions between commas up to a closing symbol, which may follow a comma. -/
def listUntil : Nat → Place → String → Reader (List Expr)
  | 0, _, _ => unexpected
  | fuel + 1, place, close => do
    if ← accept (.symbol close) then return []
    let e ← expression fuel place.inner
    if ← accept (.symbol ",") then
      let es ← listUntil fuel place close
      return e :: es
    expect (.symbol close)
    return [e]

/-- Members of a map up to its closing brace; no key stands twice. -/
def members : Nat → Place → List String → Reader (List (String × Expr))
  | 0, _, _ => unexpected
  | fuel + 1, place, seen => do
    if ← accept (.symbol "\x7d") then return []
    let l ← peek
    let key ←
      match l.token with
      | .name s => pure s
      | .str s => pure s
      | _ => unexpected
    if key ∈ seen then failAt l.position .unexpected
    let _ ← next
    expect (.symbol ":")
    let v ← expression fuel place.inner
    if ← accept (.symbol ",") then
      let more ← members fuel place (key :: seen)
      return (key, v) :: more
    expect (.symbol "\x7d")
    return [(key, v)]

/-- The pieces of a template after its first text. -/
def templateParts : Nat → Place → Reader (List Expr)
  | 0, _ => unexpected
  | fuel + 1, place => do
    let code ← block fuel place.inner
    match (← peek).token with
    | .template s => do
      let _ ← next
      let more ← templateParts fuel place
      return code :: .str s :: more
    | .templateEnd s => do
      let _ ← next
      return [code, .str s]
    | _ => unexpected

/-- An expression without operators or links around it. -/
def primary : Nat → Place → Reader Expr
  | 0, _ => unexpected
  | fuel + 1, place => do
    let l ← peek
    match l.token with
    | .int n => do
      let _ ← next
      return .int n
    | .float q => do
      let _ ← next
      return .float q
    | .str s => do
      let _ ← next
      return .str s
    | .char c => do
      let _ ← next
      return .char c
    | .template s => do
      let _ ← next
      return .template (.str s :: (← templateParts fuel place))
    | .keyword "true" => do
      let _ ← next
      return .bool true
    | .keyword "false" => do
      let _ ← next
      return .bool false
    | .keyword "if" => do conditional fuel (← descend place.inner)
    | .keyword "switch" => do switchCases fuel (← descend place.inner)
    | .keyword "while" => do loopWhile fuel (← descend place.inner)
    | .keyword "loop" => do loopForever fuel (← descend place.inner)
    | .keyword "for" => do loopFor fuel (← descend place.inner)
    | .symbol "(" => do
      let _ ← next
      if ← accept (.symbol ")") then return .unit
      let e ← expression fuel (← descend place.inner)
      expect (.symbol ")")
      return e
    | .symbol "\x7b" => block fuel place.inner
    | .symbol "[" => do
      let _ ← next
      return .array (← listUntil fuel (← descend place) "]")
    | .symbol "#\x7b" => do
      let _ ← next
      let ms ← members fuel (← descend place) []
      return .map (ms.map (·.1)) (ms.map (·.2))
    | .symbol "|" => do
      let _ ← next
      closureTail fuel place (← closureParams fuel)
    | .symbol "||" => do
      let _ ← next
      closureTail fuel place []
    | .name s => do
      let _ ← next
      named fuel place l.position s
    | .reserved s => do
      if s = "this" then
        if place.inFunction then
          let _ ← next
          return .this
        else unexpected
      else if s ∈ callableWords then do
        let _ ← next
        if ← accept (.symbol "(") then return .call s (← listUntil fuel (← descend place) ")")
        else failAt l.position .unexpected
      else unexpected
    | _ => unexpected

/-- A name that was read: a call, a path into a module, or a variable. -/
def named : Nat → Place → Position → String → Reader Expr
  | 0, _, _, _ => unexpected
  | fuel + 1, place, position, s => do
    match (← peek).token with
    | .symbol "(" => do
      let _ ← next
      return .call s (← listUntil fuel (← descend place) ")")
    | .symbol "::" => do
      if place.strict && s ∉ (← get).modules then failAt position .unexpected
      let _ ← next
      let name ← memberName
      if ← accept (.symbol "(") then return .moduleCall s name (← listUntil fuel (← descend place) ")")
      else if (← peek).token = .symbol "::" then named fuel { place with strict := false } position (s ++ "::" ++ name)
      else return .moduleVar s name
    | _ => variableAt place position s

def closureTail : Nat → Place → List String → Reader Expr
  | 0, _, _ => unexpected
  | fuel + 1, place, params =>
    locally do
      for p in params do declare p false
      let body ← statement fuel { place.inner with inLoop := false }
      return .closure params body

def block : Nat → Place → Reader Expr
  | 0, _ => unexpected
  | fuel + 1, place => do
    expect (.symbol "\x7b")
    locally do
      let body ← statements fuel (← descend place.inner)
      expect (.symbol "\x7d")
      return .block body

/-- Statements up to the end of a block or of the text; a variable whose value nobody takes is left out. -/
def statements : Nat → Place → Reader (List Expr)
  | 0, _ => unexpected
  | fuel + 1, place => do
    match (← peek).token with
    | .symbol "\x7d" => if place.isGlobal then unexpected else return []
    | .eof => return []
    | .symbol ";" => do
      let _ ← next
      statements fuel place
    | .keyword "fn" => functionThen fuel place
    | .keyword "private" => functionThen fuel place
    | _ => do
      let e ← statement fuel place
      let l ← peek
      if l.token = .eof || (l.token = .symbol "\x7d" && !place.isGlobal) then return [e]
      if !(← accept (.symbol ";")) && !e.isSelfTerminated then unexpected
      let more ← statements fuel place
      return if e.isVariable && !more.isEmpty then more else e :: more

/-- A function, and the statements behind it. -/
def functionThen : Nat → Place → Reader (List Expr)
  | 0, _ => unexpected
  | fuel + 1, place => do
    if place.isGlobal then
      function fuel place
      statements fuel place
    else unexpected

/-- A definition of a function. -/
def function : Nat → Place → Reader Unit
  | 0, _ => unexpected
  | fuel + 1, place => do
    let start := (← peek).position
    let _ ← accept (.keyword "private")
    expect (.keyword "fn")
    let name ← expectName
    expect (.symbol "(")
    let params ← parameters fuel []
    if (← peek).token ≠ .symbol "\x7b" then unexpected
    let visible := (← get).visible
    modify fun s => { s with visible := params.map fun p => ⟨p, false⟩ }
    let body ← block fuel { strict := place.strict, inFunction := true, depth := 1 }
    modify fun s => { s with visible := visible }
    if (← get).functions.any fun f => f.name == name && f.params.length == params.length then
      failAt start (.duplicateFunction name)
    modify fun s => { s with functions := s.functions ++ [⟨name, params, body⟩] }

def statement : Nat → Place → Reader Expr
  | 0, _ => unexpected
  | fuel + 1, place => do
    let place ← descend place
    let l ← peek
    match l.token with
    | .keyword "let" => declaration fuel place false
    | .keyword "const" => declaration fuel place true
    | .keyword "if" => conditional fuel place.inner
    | .keyword "switch" => switchCases fuel place.inner
    | .keyword "while" => loopWhile fuel place.inner
    | .keyword "loop" => loopForever fuel place.inner
    | .keyword "for" => loopFor fuel place.inner
    | .keyword "return" => do
      let _ ← next
      return .returnValue (← operand fuel place)
    | .keyword "throw" => do
      let _ ← next
      return .throwValue (← operand fuel place)
    | .keyword "break" =>
      if place.inLoop then do
        let _ ← next
        return .breakLoop (← operand fuel place)
      else unexpected
    | .keyword "continue" =>
      if place.inLoop then do
        let _ ← next
        return .continueLoop
      else unexpected
    | .keyword "import" => do
      let _ ← next
      let name ← expression fuel place
      if ← accept (.keyword "as") then
        let short ← expectName
        modify fun s => { s with modules := short :: s.modules }
      return .importModule name
    | .symbol "\x7b" => block fuel place.inner
    | _ => do
      let e ← expression fuel place
      let l ← peek
      match assignment? l.token with
      | none => return e
      | some op => do
        let _ ← next
        let v ← expression fuel place
        assignTo e l.position op v

/-- The value of a `return`, `throw` or `break`, if there is one. -/
def operand : Nat → Place → Reader Expr
  | 0, _ => unexpected
  | fuel + 1, place => do
    match (← peek).token with
    | .eof => return .unit
    | .symbol ";" => return .unit
    | .symbol "\x7d" => if place.isGlobal then unexpected else return .unit
    | _ => expression fuel place

def declaration : Nat → Place → Bool → Reader Expr
  | 0, _, _ => unexpected
  | fuel + 1, place, constant => do
    let _ ← next
    let name ← expectName
    let v ← if ← accept (.symbol "=") then expression fuel place else pure .unit
    declare name constant
    return .declare name constant v

def conditional : Nat → Place → Reader Expr
  | 0, _ => unexpected
  | fuel + 1, place => do
    expect (.keyword "if")
    let c ← expression fuel place
    let yes ← block fuel place
    if ← accept (.keyword "else") then
      let no ← if (← peek).token = .keyword "if" then conditional fuel place else block fuel place
      return .ifElse c yes no
    else return .ifElse c yes .unit

def loopWhile : Nat → Place → Reader Expr
  | 0, _ => unexpected
  | fuel + 1, place => do
    expect (.keyword "while")
    let c ← expression fuel place
    let body ← block fuel { place with inLoop := true }
    return .whileLoop c body

def loopForever : Nat → Place → Reader Expr
  | 0, _ => unexpected
  | fuel + 1, place => do
    expect (.keyword "loop")
    let body ← block fuel { place with inLoop := true }
    return .whileLoop (.bool true) body

def loopFor : Nat → Place → Reader Expr
  | 0, _ => unexpected
  | fuel + 1, place => do
    expect (.keyword "for")
    let name ← expectName
    expect (.keyword "in")
    let items ← expression fuel place
    locally do
      declare name false
      let body ← block fuel { place with inLoop := true }
      return .forLoop name items body

def switchCases : Nat → Place → Reader Expr
  | 0, _ => unexpected
  | fuel + 1, place => do
    expect (.keyword "switch")
    let subject ← expression fuel place
    expect (.symbol "\x7b")
    return .switch subject (← arms fuel place)

/-- The cases of a `switch` up to its closing brace; the one that accepts anything has no guard and is the last. -/
def arms : Nat → Place → Reader (List Arm)
  | 0, _ => unexpected
  | fuel + 1, place => do
    if ← accept (.symbol "\x7d") then return []
    let isLast ← accept (.symbol "_")
    let patterns ← if isLast then pure [.any] else casePatterns fuel place
    let guard ← if !isLast && (← accept (.keyword "if")) then expression fuel place else pure (.bool true)
    expect (.symbol "=>")
    let body ← statement fuel place
    let arm := Arm.mk patterns guard body
    if (← peek).token = .symbol "\x7d" then
      let _ ← next
      return [arm]
    if !(← accept (.symbol ",")) && !body.isSelfTerminated then unexpected
    if isLast then
      expect (.symbol "\x7d")
      return [arm]
    let more ← arms fuel place
    return arm :: more

/-- Constants between bars. -/
def casePatterns : Nat → Place → Reader (List Pattern)
  | 0, _ => unexpected
  | fuel + 1, place => do
    let l ← peek
    let first ← unary fuel place
    let e ← operators fuel place 30 first
    match patternOf? e with
    | none => failAt l.position .unexpected
    | some p =>
      if ← accept (.symbol "|") then return p :: (← casePatterns fuel place)
      else return [p]

end

/-! ### A whole script -/

/-- Modules that are always there. -/
def knownModules : List String := ["ui", "global"]

/-- Read a script in which some variables are visible from outside. -/
def parse (strict : Bool) (outside : List String) (text : String) : Except SyntaxError Program :=
  let ls := lexemes text
  let state : ParserState :=
    { rest := ls, visible := [], modules := knownModules, outside := outside }
  match (statements (16 * ls.length + 64) { strict := strict, isGlobal := true }).run state with
  | .error e => .error e
  | .ok (body, s) => .ok { functions := s.functions, body := body }

end Script
end LedStrip
