import LedStrip.Script.Eval

/-!
# Running scripts by rewriting

The evaluator as rules for `simp`, which carries a script out step by step from a given environment.
Calls are the borders: `Holds.caller_eq` goes into a function of the program, `caller_undefined`
leaves a name to the library, and what is proved of a function is an equation for its calls.  A loop
is one rule too (`eval_forLoop`), for which one has to say the environment before every round.

The continuation of a step holds all the steps to come, so `simp` must not look into it before its
turn: that is what `next_congr` is for.  It needs a proof of every step, also of those that are true
by definition, so scripts are run with `simp -implicitDefEqProofs`.
-/

namespace LedStrip
namespace Script

open Program

/-! ### Steps -/

section Steps

variable {R α β : Type}

namespace Eval

/-- Go on from how something ended. -/
def next (x : Outcome R α × Env R) (f : α → Eval R β) : Outcome R β × Env R :=
  andThen (fun _ => x) f x.2

@[congr] theorem next_congr {x y : Outcome R α × Env R} (h : x = y) (f : α → Eval R β) :
    next x f = next y f := by
  rw [h]

@[simp ↓] theorem bind_apply (m : Eval R α) (f : α → Eval R β) (env : Env R) :
    (m >>= f) env = next (m env) f := rfl

@[simp ↓] theorem pure_apply (a : α) (env : Env R) : (pure a : Eval R α) env = (.ok a, env) := rfl

@[simp ↓] theorem next_ok (a : α) (env : Env R) (f : α → Eval R β) :
    next (.ok a, env) f = f a env := rfl

@[simp ↓] theorem next_fault (e : Fault R) (env : Env R) (f : α → Eval R β) :
    next (.fault e, env) f = (.fault e, env) := rfl

@[simp ↓] theorem next_returned (v : Value R) (env : Env R) (f : α → Eval R β) :
    next (.returned v, env) f = (.returned v, env) := rfl

@[simp ↓] theorem ite_apply (c : Prop) [Decidable c] (m m' : Eval R α) (env : Env R) :
    (if c then m else m') env = if c then m env else m' env := by
  split <;> rfl

@[simp] theorem ofExcept_apply (x : Except (Fault R) α) (env : Env R) :
    ofExcept x env = (outcomeOf x, env) := by
  cases x <;> rfl

end Eval

/-- Forget variables until so many are left. -/
def leave (n : Nat) (x : Outcome R α × Env R) : Outcome R α × Env R :=
  (x.1, { x.2 with vars := x.2.vars.drop (x.2.vars.length - n) })

@[simp ↓] theorem inScope_apply (m : Eval R α) (env : Env R) :
    inScope m env = leave env.vars.length (m env) := rfl

@[simp ↓] theorem leave_mk (n : Nat) (o : Outcome R α) (env : Env R) :
    leave n (o, env) = (o, { env with vars := env.vars.drop (env.vars.length - n) }) := rfl

@[simp] theorem ok_bind (a : α) (f : α → Except (Fault R) β) : (Except.ok a >>= f) = f a := rfl

@[simp ↓] theorem error_bind (e : Fault R) (f : α → Except (Fault R) β) :
    ((Except.error e : Except (Fault R) α) >>= f) = .error e := rfl

@[simp ↓] theorem readVar_apply (name : String) (env : Env R) :
    readVar name env = (match lookup? name env.vars with
      | none => .fault (.variableNotFound name)
      | some x => .ok x.value, env) := by
  unfold readVar
  cases lookup? name env.vars <;> rfl

@[simp ↓] theorem ends_apply (o : Outcome R α) (env : Env R) : Eval.ends o env = (o, env) := rfl

@[simp ↓] theorem fail_apply (f : Fault R) (env : Env R) :
    (Eval.fail f : Eval R α) env = (.fault f, env) := rfl

@[simp ↓] theorem declare_apply (name : String) (constant : Bool) (v : Value R) (env : Env R) :
    declare name constant v env =
      (.ok .unit, { env with vars := ⟨name, v, constant⟩ :: env.vars }) := rfl

@[simp ↓] theorem truth_bool (b : Bool) : truth (.bool b : Value R) = pure b := rfl

@[simp ↓] theorem readThis_apply (env : Env R) :
    readThis env = (match env.this? with
      | none => .fault .unboundThis
      | some v => .ok v, env) := by
  unfold readThis
  cases env.this? <;> rfl

@[simp] theorem outcomeOf_ok (a : α) : outcomeOf (.ok a : Except (Fault R) α) = .ok a := rfl

@[simp] theorem outcomeOf_error (f : Fault R) :
    outcomeOf (.error f : Except (Fault R) α) = .fault f := rfl

end Steps

variable {R : Type} [Scalar R] {p : Program}

attribute [simp ↓] eval evalAll evalLinks evalBody

attribute [simp] lookup? setVar changeVar changeThis
  checkWritable assignSteps attempt callFunction callMethod bindings answer follow
  Link.isMethod read property

/-! ### Values -/

attribute [simp] binary arithmetic comparison intArithmetic floatArithmetic ordering item fitting
  isNumber Value.typeName

/-- Only `()` is equal to `()`. -/
@[simp] theorem same_unit (v : Value R) : v.same .unit = (v matches .unit) := by
  cases v <;> rfl

@[simp] theorem unit_same (v : Value R) : Value.unit.same v = (v matches .unit) := by
  cases v <;> rfl

@[simp] theorem contains_map (members : Entries (Value R)) (key : String) :
    contains (.map members) (.str key) = .ok (.bool (Entries.contains key members)) := rfl

@[simp] theorem store_member (x : Value R) (name : String) (members : Entries (Value R)) :
    store (assigned none x) [.prop name] (.map members) =
      .ok (.map (Entries.insert name x members)) := rfl

@[simp] theorem library_type_of (v : Value R) :
    libraryFunction "type_of" [v] = .ok (.str v.typeName) := rfl

@[simp] theorem library_to_int_float (x : R) :
    libraryFunction "to_int" [.float x] = wholePart x := rfl

@[simp] theorem library_to_float_int (n : Int) :
    libraryFunction "to_float" [.int n] = .ok (.float (Scalar.ofInt n) : Value R) := rfl

@[simp] theorem library_round (x : R) :
    libraryFunction "round" [.float x] = .ok (.float (Scalar.round x)) := rfl

@[simp] theorem library_abs (x : R) :
    libraryFunction "abs" [.float x] = .ok (.float (Scalar.abs x)) := rfl

@[simp] theorem library_blob (n b : Int) :
    libraryFunction "blob" [.int n, .int b] =
      .ok (.blob (Array.replicate n.toNat (UInt8.ofInt b)) : Value R) := rfl

omit [Scalar R] in
/-- Only three functions change what they are called on. -/
@[simp] theorem changingFunction?_eq_none {name : String} (h : name ∉ ["push", "pop", "clear"])
    (self : Value R) (args : List (Value R)) : changingFunction? name self args = none := by
  simp only [List.mem_cons, List.not_mem_nil, or_false, not_or] at h
  unfold changingFunction?
  split <;> simp_all

/-! ### Calls -/

omit [Scalar R] in
theorem function?_of_undefined {name : String} (h : p.definesName name = false) (arity : Nat) :
    p.function? name arity = none := by
  simp only [definesName, List.any_eq_false, beq_iff_eq] at h
  simp only [function?, List.find?_eq_none, Bool.and_eq_true, beq_iff_eq]
  rintro f hf ⟨hname, -⟩
  exact h f hf hname

/-- A name that the program does not define is left to the library. -/
theorem caller_undefined {name : String} (h : p.definesName name = false) (depth : Nat)
    (args : List (Value R)) (this? : Option (Value R)) :
    caller p depth name args this? = none := by
  cases depth <;> simp [caller, function?_of_undefined h]

/-- The program finds these functions under their own names. -/
def Program.Holds (p : Program) (fs : List Function) : Prop :=
  ∀ f ∈ fs, p.function? f.name f.params.length = some f

theorem Program.Holds.mono {fs gs : List Function} (h : p.Holds fs) (hsub : gs ⊆ fs) : p.Holds gs :=
  fun f hf => h f (hsub hf)

/-- A call of a function of the program runs its body. -/
theorem Program.Holds.caller_eq {fs : List Function} (h : p.Holds fs) (f : Function) (hf : f ∈ fs)
    {args : List (Value R)} (hargs : args.length = f.params.length) (depth : Nat)
    (this? : Option (Value R)) :
    caller p (depth + 1) f.name args this? =
      let (o, env) := eval (caller p depth) f.body { vars := bindings f.params args, this? }
      some (answer o, env.this?) := by
  have hfound : p.function? f.name args.length = some f := hargs ▸ h f hf
  simp [caller, hfound]

/-- Only what the program defines can be called in it. -/
theorem defines_of_caller {depth : Nat} {name : String} {args : List (Value R)}
    {this? : Option (Value R)} {x : Outcome R (Value R) × Option (Value R)}
    (h : caller p depth name args this? = some x) : p.defines name args.length = true := by
  cases hf : p.function? name args.length with
  | some f => simp [defines, hf]
  | none => cases depth <;> simp [caller, hf] at h

/-! ### Loops -/

omit [Scalar R] in
/-- A loop without a jump, by the environment before every round. -/
theorem iterate_eq (items : Nat → Value R) (body : Value R → Eval R (Value R)) {count : Nat}
    (envs : Nat → Env R)
    (h : ∀ k < count, ∃ v, body (items k) (envs k) = (.ok v, envs (k + 1))) :
    iterate items body 0 count (envs 0) = (.ok .unit, envs count) := by
  have hfrom : ∀ left k, k + left = count →
      iterate items body k left (envs k) = (.ok .unit, envs count) := by
    intro left
    induction left with
    | zero => rintro k rfl; rfl
    | succ left ih =>
      intro k hk
      obtain ⟨v, hv⟩ := h k (by omega)
      rw [iterate, hv]
      exact ih (k + 1) (by omega)
  exact hfrom count 0 (Nat.zero_add _)

/-- A loop over the naturals below `n`: round `k` runs with its number as the newest variable
and leaves whatever it has in that place. -/
theorem eval_forLoop {call : Caller R} {name : String} {range body : Expr} {env : Env R}
    {n : Nat} (hrange : eval call range env = (.ok (.range 0 n false), env))
    (envs : Nat → Env R) (hstart : envs 0 = env)
    (hbody : ∀ k < n, ∃ v x, eval call body
      { envs k with vars := ⟨name, .int k, false⟩ :: (envs k).vars } =
        (.ok v, { envs (k + 1) with vars := x :: (envs (k + 1)).vars }))
    (hlength : ∀ k, (envs k).vars.length = env.vars.length) :
    eval call (.forLoop name range body) env = (.ok .unit, envs n) := by
  subst hstart
  have hrounds := iterate_eq (fun k => .int (0 + (k : Int)))
    (fun v => inScope do
      let _ ← declare name false v
      eval call body) envs fun k hk => by
    obtain ⟨v, x, hv⟩ := hbody k hk
    exact ⟨v, by simp [hv, hlength]⟩
  simp [hrange, items?, ← hrounds]

end Script
end LedStrip
