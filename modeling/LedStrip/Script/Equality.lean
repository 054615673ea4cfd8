import LedStrip.Script.Syntax

/-!
# Equality of syntax

Whether two constructs are the same can be computed: `Expr.same` compares them part by part, and
`Expr.same_iff` says that it decides equality.
-/

namespace LedStrip
namespace Script

mutual

/-- Whether two expressions are the same. -/
def Expr.same : Expr → Expr → Bool
  | .unit, e => (e matches .unit)
  | .bool b, e => match e with | .bool b' => b == b' | _ => false
  | .int n, e => match e with | .int n' => n == n' | _ => false
  | .float q, e => match e with | .float q' => decide (q = q') | _ => false
  | .char c, e => match e with | .char c' => c == c' | _ => false
  | .str s, e => match e with | .str s' => s == s' | _ => false
  | .template parts, e => match e with | .template parts' => Expr.sameAll parts parts' | _ => false
  | .array items, e => match e with | .array items' => Expr.sameAll items items' | _ => false
  | .map keys vs, e =>
    match e with | .map keys' vs' => keys == keys' && Expr.sameAll vs vs' | _ => false
  | .var name, e => match e with | .var name' => name == name' | _ => false
  | .this, e => (e matches .this)
  | .call name args, e =>
    match e with | .call name' args' => name == name' && Expr.sameAll args args' | _ => false
  | .moduleCall path name args, e =>
    match e with
    | .moduleCall path' name' args' => path == path' && name == name' && Expr.sameAll args args'
    | _ => false
  | .moduleVar path name, e =>
    match e with | .moduleVar path' name' => path == path' && name == name' | _ => false
  | .closure params body, e =>
    match e with | .closure params' body' => params == params' && body.same body' | _ => false
  | .chain root links, e =>
    match e with | .chain root' links' => root.same root' && Link.sameAll links links' | _ => false
  | .negate x, e => match e with | .negate x' => x.same x' | _ => false
  | .not x, e => match e with | .not x' => x.same x' | _ => false
  | .binary op x y, e =>
    match e with | .binary op' x' y' => op == op' && x.same x' && y.same y' | _ => false
  | .and x y, e => match e with | .and x' y' => x.same x' && y.same y' | _ => false
  | .or x y, e => match e with | .or x' y' => x.same x' && y.same y' | _ => false
  | .orElse x y, e => match e with | .orElse x' y' => x.same x' && y.same y' | _ => false
  | .member x y, e => match e with | .member x' y' => x.same x' && y.same y' | _ => false
  | .block body, e => match e with | .block body' => Expr.sameAll body body' | _ => false
  | .ifElse x y z, e =>
    match e with | .ifElse x' y' z' => x.same x' && y.same y' && z.same z' | _ => false
  | .switch x arms, e =>
    match e with | .switch x' arms' => x.same x' && Arm.sameAll arms arms' | _ => false
  | .whileLoop x y, e => match e with | .whileLoop x' y' => x.same x' && y.same y' | _ => false
  | .forLoop name x y, e =>
    match e with | .forLoop name' x' y' => name == name' && x.same x' && y.same y' | _ => false
  | .declare name c x, e =>
    match e with | .declare name' c' x' => name == name' && c == c' && x.same x' | _ => false
  | .assign root links op x, e =>
    match e with
    | .assign root' links' op' x' =>
      root.same root' && Link.sameAll links links' && op == op' && x.same x'
    | _ => false
  | .returnValue x, e => match e with | .returnValue x' => x.same x' | _ => false
  | .throwValue x, e => match e with | .throwValue x' => x.same x' | _ => false
  | .breakLoop x, e => match e with | .breakLoop x' => x.same x' | _ => false
  | .continueLoop, e => (e matches .continueLoop)
  | .importModule x, e => match e with | .importModule x' => x.same x' | _ => false

def Expr.sameAll : List Expr → List Expr → Bool
  | [], xs => xs.isEmpty
  | x :: xs, ys => match ys with | y :: ys => x.same y && Expr.sameAll xs ys | [] => false

def Link.same : Link → Link → Bool
  | .prop name, l => match l with | .prop name' => name == name' | _ => false
  | .index x, l => match l with | .index x' => x.same x' | _ => false
  | .method name args, l =>
    match l with | .method name' args' => name == name' && Expr.sameAll args args' | _ => false

def Link.sameAll : List Link → List Link → Bool
  | [], xs => xs.isEmpty
  | x :: xs, ys => match ys with | y :: ys => x.same y && Link.sameAll xs ys | [] => false

def Arm.same : Arm → Arm → Bool
  | .mk ps guard body, .mk ps' guard' body' => ps == ps' && guard.same guard' && body.same body'

def Arm.sameAll : List Arm → List Arm → Bool
  | [], xs => xs.isEmpty
  | x :: xs, ys => match ys with | y :: ys => x.same y && Arm.sameAll xs ys | [] => false

end

/-- A computed answer that says whether two things are equal. -/
def Decides {α : Type} (a b : α) (answer : Bool) : Prop := answer = true ↔ a = b

/-- The comparison decides equality; of the cases of its recursion, those where both sides have the
same form compare the parts. -/
theorem Expr.same_iff (a b : Expr) : a.same b = true ↔ a = b := by
  apply Expr.same.induct_unfolding Decides Decides Decides Decides Decides Decides
  all_goals grind [Decides]

instance : DecidableEq Expr := fun a b => decidable_of_iff _ (Expr.same_iff a b)

deriving instance DecidableEq for Function, Program

end Script
end LedStrip
