import Mathlib.Data.List.Basic
import Mathlib.Data.UInt

/-!
# Fallible programs over a state

A program runs from a state to an outcome and a state.  It may return a value, fail
with an error that its caller can inspect, or halt: by a panic of its own (an index or
a subtraction out of range, an unwrap of nothing) or because the environment ends the
run.  A halt is never caught.  `wp x Q s` says that `Q` holds of the outcome and final
state of `x` from `s`; the rules below take it apart along the program text.
-/

set_option autoImplicit false

universe u

inductive Halt where
  | panic
  | crash
  deriving DecidableEq, Repr

inductive Outcome (ε α : Type) where
  | ok (value : α)
  | err (error : ε)
  | halt (why : Halt)
  deriving DecidableEq, Repr

structure Prog (σ ε α : Type) where
  run : σ → Outcome ε α × σ

namespace Prog

variable {σ ε ε' α β : Type}

protected def pure (value : α) : Prog σ ε α := ⟨fun s => (.ok value, s)⟩

protected def bind (x : Prog σ ε α) (f : α → Prog σ ε β) : Prog σ ε β :=
  ⟨fun s => match x.run s with
    | (.ok value, next) => (f value).run next
    | (.err error, next) => (.err error, next)
    | (.halt why, next) => (.halt why, next)⟩

instance : Monad (Prog σ ε) where
  pure := Prog.pure
  bind := Prog.bind

def fail (error : ε) : Prog σ ε α := ⟨fun s => (.err error, s)⟩

def halt (why : Halt) : Prog σ ε α := ⟨fun s => (.halt why, s)⟩

def get : Prog σ ε σ := ⟨fun s => (.ok s, s)⟩

def modify (f : σ → σ) : Prog σ ε Unit := ⟨fun s => (.ok (), f s)⟩

/-- The result of `x` as a value, so that the caller can branch on it. -/
def attempt (x : Prog σ ε α) : Prog σ ε' (Except ε α) :=
  ⟨fun s => match x.run s with
    | (.ok value, next) => (.ok (.ok value), next)
    | (.err error, next) => (.ok (.error error), next)
    | (.halt why, next) => (.halt why, next)⟩

def ofExcept : Except ε α → Prog σ ε α
  | .ok value => pure value
  | .error error => fail error

def mapErr (f : ε → ε') (x : Prog σ ε α) : Prog σ ε' α :=
  ⟨fun s => match x.run s with
    | (.ok value, next) => (.ok value, next)
    | (.err error, next) => (.err (f error), next)
    | (.halt why, next) => (.halt why, next)⟩

def widen (x : Prog σ Empty α) : Prog σ ε α := mapErr Empty.elim x

def onSnd {τ : Type} (x : Prog σ ε α) : Prog (τ × σ) ε α :=
  ⟨fun s => ((x.run s.2).1, (s.1, (x.run s.2).2))⟩

/-- Runs a program that carries a local state, and returns what that state became. -/
def withState {τ : Type} (start : τ) (x : Prog (τ × σ) ε α) : Prog σ ε (α × τ) :=
  ⟨fun s => match x.run (start, s) with
    | (.ok value, last, next) => (.ok (value, last), next)
    | (.err error, _, next) => (.err error, next)
    | (.halt why, _, next) => (.halt why, next)⟩

/-- Runs `cleanup` after `x`, whether `x` returned or failed. -/
def ensure (cleanup : Prog σ Empty Unit) (x : Prog σ ε α) : Prog σ ε α := do
  let result ← attempt x
  widen cleanup
  ofExcept result

/-! ## Operations that panic out of range -/

def unwrap : Option α → Prog σ ε α
  | some value => pure value
  | none => halt .panic

def checkedSub (a b : Nat) : Prog σ ε Nat := if b ≤ a then pure (a - b) else halt .panic

def checkedDiv (a b : Nat) : Prog σ ε Nat := if b = 0 then halt .panic else pure (a / b)

def checkedRem (a b : Nat) : Prog σ ε Nat := if b = 0 then halt .panic else pure (a % b)

/-- `xs[lo..hi]`. -/
def slice (xs : List α) (lo hi : Nat) : Prog σ ε (List α) :=
  if lo ≤ hi ∧ hi ≤ xs.length then pure ((xs.take hi).drop lo) else halt .panic

/-- `xs[lo..hi].copy_from_slice(part)`. -/
def copyInto (xs : List α) (lo hi : Nat) (part : List α) : Prog σ ε (List α) :=
  if lo ≤ hi ∧ hi ≤ xs.length ∧ part.length = hi - lo then
    pure (xs.take lo ++ part ++ xs.drop hi)
  else halt .panic

/-! ## Running -/

@[simp] theorem pure_run (value : α) (s : σ) :
    (pure value : Prog σ ε α).run s = (.ok value, s) := rfl

@[simp] theorem fail_run (error : ε) (s : σ) :
    (fail error : Prog σ ε α).run s = (.err error, s) := rfl

@[simp] theorem halt_run (why : Halt) (s : σ) :
    (halt why : Prog σ ε α).run s = (.halt why, s) := rfl

@[simp] theorem get_run (s : σ) : (get : Prog σ ε σ).run s = (.ok s, s) := rfl

@[simp] theorem modify_run (f : σ → σ) (s : σ) :
    (modify f : Prog σ ε Unit).run s = (.ok (), f s) := rfl

theorem bind_run (x : Prog σ ε α) (f : α → Prog σ ε β) (s : σ) :
    (x >>= f).run s = match x.run s with
      | (.ok value, next) => (f value).run next
      | (.err error, next) => (.err error, next)
      | (.halt why, next) => (.halt why, next) := rfl

theorem bind_ok {x : Prog σ ε α} {s next : σ} {value : α} (run : x.run s = (.ok value, next))
    (f : α → Prog σ ε β) : (x >>= f).run s = (f value).run next := by
  rw [bind_run, run]

theorem bind_err {x : Prog σ ε α} {s next : σ} {error : ε} (run : x.run s = (.err error, next))
    (f : α → Prog σ ε β) : (x >>= f).run s = (.err error, next) := by
  rw [bind_run, run]

theorem bind_ok_cases {x : Prog σ ε α} {f : α → Prog σ ε β} {s last : σ} {result : β}
    (run : (x >>= f).run s = (.ok result, last)) :
    ∃ value next, x.run s = (.ok value, next) ∧ (f value).run next = (.ok result, last) := by
  rw [bind_run] at run
  rcases first : x.run s with ⟨value | error | why, next⟩
  · rw [first] at run
    exact ⟨value, next, rfl, run⟩
  · rw [first] at run
    exact nomatch congrArg Prod.fst run
  · rw [first] at run
    exact nomatch congrArg Prod.fst run

theorem attempt_ok {x : Prog σ ε α} {s next : σ} {value : α} (run : x.run s = (.ok value, next)) :
    (attempt x : Prog σ ε' _).run s = (.ok (.ok value), next) := by
  unfold attempt
  simp only [run]

theorem attempt_err {x : Prog σ ε α} {s next : σ} {error : ε}
    (run : x.run s = (.err error, next)) :
    (attempt x : Prog σ ε' _).run s = (.ok (.error error), next) := by
  unfold attempt
  simp only [run]

theorem mapErr_ok_iff {f : ε → ε'} {x : Prog σ ε α} {s next : σ} {value : α} :
    (mapErr f x).run s = (.ok value, next) ↔ x.run s = (.ok value, next) := by
  unfold mapErr
  simp only
  rcases x.run s with ⟨result | error | why, last⟩ <;> simp

theorem mapErr_err {x : Prog σ ε α} {s next : σ} {error : ε} (run : x.run s = (.err error, next))
    (f : ε → ε') : (mapErr f x).run s = (.err (f error), next) := by
  unfold mapErr
  simp only [run]

theorem widen_ok {x : Prog σ Empty α} {s next : σ} {value : α} (run : x.run s = (.ok value, next)) :
    (widen x : Prog σ ε α).run s = (.ok value, next) := mapErr_ok_iff.mpr run

theorem withState_ok {τ : Type} {x : Prog (τ × σ) ε α} {start last : τ} {s next : σ} {value : α}
    (run : x.run (start, s) = (.ok value, last, next)) :
    (withState start x).run s = (.ok (value, last), next) := by
  unfold withState
  simp only [run]

theorem ensure_ok {cleanup : Prog σ Empty Unit} {x : Prog σ ε α} {s next last : σ} {value : α}
    (run : x.run s = (.ok value, next)) (cleaned : cleanup.run next = (.ok (), last)) :
    (ensure cleanup x).run s = (.ok value, last) := by
  unfold ensure
  rw [bind_ok (attempt_ok run), bind_ok (widen_ok cleaned)]
  rfl

theorem withState_ok_cases {τ : Type} {x : Prog (τ × σ) ε α} {start last : τ} {s next : σ}
    {value : α} (run : (withState start x).run s = (.ok (value, last), next)) :
    x.run (start, s) = (.ok value, last, next) := by
  unfold withState at run
  dsimp only at run
  rcases first : x.run (start, s) with ⟨result | error | why, last', next'⟩
  · rw [first] at run
    obtain ⟨same, rfl⟩ := Prod.mk.inj run
    obtain ⟨rfl, rfl⟩ := Prod.mk.inj (Outcome.ok.inj same)
    rfl
  · rw [first] at run
    exact nomatch congrArg Prod.fst run
  · rw [first] at run
    exact nomatch congrArg Prod.fst run

theorem ensure_ok_cases {cleanup : Prog σ Empty Unit} {x : Prog σ ε α} {s last : σ} {value : α}
    (run : (ensure cleanup x).run s = (.ok value, last)) :
    ∃ next, x.run s = (.ok value, next) := by
  unfold ensure at run
  obtain ⟨result, next, attempted, rest⟩ := bind_ok_cases run
  obtain ⟨_, last', _, ends⟩ := bind_ok_cases rest
  cases result with
  | error error => exact nomatch congrArg Prod.fst ends
  | ok value' =>
      obtain rfl := Outcome.ok.inj (congrArg Prod.fst ends)
      unfold attempt at attempted
      dsimp only at attempted
      rcases first : x.run s with ⟨result | error | why, next'⟩
      · rw [first] at attempted
        obtain ⟨same, rfl⟩ := Prod.mk.inj attempted
        obtain rfl := Except.ok.inj (Outcome.ok.inj same)
        exact ⟨next', rfl⟩
      · rw [first] at attempted
        exact nomatch Outcome.ok.inj (congrArg Prod.fst attempted)
      · rw [first] at attempted
        exact nomatch congrArg Prod.fst attempted

theorem get_bind (f : σ → Prog σ ε β) (s : σ) : (get >>= f).run s = (f s).run s := rfl

theorem modify_bind (g : σ → σ) (f : Unit → Prog σ ε β) (s : σ) :
    (modify g >>= f).run s = (f ()).run (g s) := rfl

@[simp] theorem ofExcept_ok (value : α) :
    (ofExcept (.ok value : Except ε α) : Prog σ ε α) = pure value := rfl

@[simp] theorem ofExcept_error (error : ε) :
    (ofExcept (.error error : Except ε α) : Prog σ ε α) = fail error := rfl

@[simp] theorem unwrap_some (value : α) :
    (unwrap (some value) : Prog σ ε α) = pure value := rfl

theorem checkedSub_of_le {a b : Nat} (h : b ≤ a) :
    (checkedSub a b : Prog σ ε Nat) = pure (a - b) := if_pos h

theorem checkedDiv_of_pos {a b : Nat} (h : 0 < b) :
    (checkedDiv a b : Prog σ ε Nat) = pure (a / b) := if_neg (by omega)

theorem checkedRem_of_pos {a b : Nat} (h : 0 < b) :
    (checkedRem a b : Prog σ ε Nat) = pure (a % b) := if_neg (by omega)

theorem slice_of_le {xs : List α} {lo hi : Nat} (h : lo ≤ hi) (h' : hi ≤ xs.length) :
    (slice xs lo hi : Prog σ ε (List α)) = pure ((xs.take hi).drop lo) := if_pos ⟨h, h'⟩

theorem copyInto_of_le {xs : List α} {lo hi : Nat} {part : List α} (h : lo ≤ hi)
    (h' : hi ≤ xs.length) (whole : part.length = hi - lo) :
    (copyInto xs lo hi part : Prog σ ε (List α)) = pure (xs.take lo ++ part ++ xs.drop hi) :=
  if_pos ⟨h, h', whole⟩

theorem length_of_copyInto {xs part ys : List α} {lo hi : Nat} {s next : σ}
    (run : (copyInto xs lo hi part : Prog σ ε (List α)).run s = (.ok ys, next)) :
    ys.length = xs.length := by
  unfold copyInto at run
  split at run
  · rename_i inside
    obtain rfl : xs.take lo ++ part ++ xs.drop hi = ys := by
      simpa using congrArg Prod.fst run
    simp
    omega
  · exact nomatch congrArg Prod.fst run

@[simp] theorem pure_bind (value : α) (f : α → Prog σ ε β) : (pure value >>= f) = f value := rfl

theorem bind_assoc {γ : Type} (x : Prog σ ε α) (f : α → Prog σ ε β) (g : β → Prog σ ε γ) :
    x >>= f >>= g = x >>= fun value => f value >>= g := by
  apply congrArg Prog.mk
  funext s
  change (match (x >>= f).run s with | _ => _) = _
  rw [bind_run]
  rcases x.run s with ⟨value | error | why, next⟩ <;> rfl

theorem mapErr_bind (h : ε → ε') (x : Prog σ ε α) (f : α → Prog σ ε β) :
    mapErr h (x >>= f) = mapErr h x >>= fun value => mapErr h (f value) := by
  apply congrArg Prog.mk
  funext s
  rw [bind_run]
  unfold mapErr
  dsimp only
  rcases x.run s with ⟨value | error | why, next⟩ <;> rfl

@[simp] theorem fail_bind (error : ε) (f : α → Prog σ ε β) :
    ((fail error : Prog σ ε α) >>= f) = fail error := rfl

/-! ## Weakest preconditions -/

/-- `Q` holds of what `x` does from `s`. -/
def wp (x : Prog σ ε α) (Q : Outcome ε α → σ → Prop) (s : σ) : Prop :=
  Q (x.run s).1 (x.run s).2

def andThen (f : α → Prog σ ε β) (Q : Outcome ε β → σ → Prop) : Outcome ε α → σ → Prop
  | .ok value, s => wp (f value) Q s
  | .err error, s => Q (.err error) s
  | .halt why, s => Q (.halt why) s

@[simp] theorem andThen_ok (f : α → Prog σ ε β) (Q : Outcome ε β → σ → Prop) (value : α) (s : σ) :
    andThen f Q (.ok value) s ↔ wp (f value) Q s := Iff.rfl

@[simp] theorem andThen_err (f : α → Prog σ ε β) (Q : Outcome ε β → σ → Prop) (error : ε) (s : σ) :
    andThen f Q (.err error) s ↔ Q (.err error) s := Iff.rfl

@[simp] theorem andThen_halt (f : α → Prog σ ε β) (Q : Outcome ε β → σ → Prop)
    (why : Halt) (s : σ) :
    andThen f Q (.halt why) s ↔ Q (.halt why) s := Iff.rfl

theorem wp_bind (x : Prog σ ε α) (f : α → Prog σ ε β) (Q : Outcome ε β → σ → Prop) (s : σ) :
    wp (x >>= f) Q s ↔ wp x (andThen f Q) s := by
  unfold wp
  rw [bind_run]
  rcases x.run s with ⟨outcome, next⟩
  cases outcome <;> rfl

theorem wp_mono {x : Prog σ ε α} {Q R : Outcome ε α → σ → Prop} {s : σ} (h : wp x Q s)
    (weaken : ∀ outcome next, Q outcome next → R outcome next) : wp x R s :=
  weaken _ _ h

@[simp] theorem wp_pure (value : α) (Q : Outcome ε α → σ → Prop) (s : σ) :
    wp (pure value : Prog σ ε α) Q s ↔ Q (.ok value) s := Iff.rfl

@[simp] theorem wp_fail (error : ε) (Q : Outcome ε α → σ → Prop) (s : σ) :
    wp (fail error : Prog σ ε α) Q s ↔ Q (.err error) s := Iff.rfl

@[simp] theorem wp_halt (why : Halt) (Q : Outcome ε α → σ → Prop) (s : σ) :
    wp (halt why : Prog σ ε α) Q s ↔ Q (.halt why) s := Iff.rfl

@[simp] theorem wp_get (Q : Outcome ε σ → σ → Prop) (s : σ) :
    wp (get : Prog σ ε σ) Q s ↔ Q (.ok s) s := Iff.rfl

@[simp] theorem wp_modify (f : σ → σ) (Q : Outcome ε Unit → σ → Prop) (s : σ) :
    wp (modify f : Prog σ ε Unit) Q s ↔ Q (.ok ()) (f s) := Iff.rfl

theorem wp_attempt (x : Prog σ ε α) (Q : Outcome ε' (Except ε α) → σ → Prop) (s : σ) :
    wp (attempt x : Prog σ ε' (Except ε α)) Q s ↔
      wp x (fun outcome next => match outcome with
        | .ok value => Q (.ok (.ok value)) next
        | .err error => Q (.ok (.error error)) next
        | .halt why => Q (.halt why) next) s := by
  unfold wp attempt
  simp only
  rcases x.run s with ⟨outcome, next⟩
  cases outcome <;> rfl

theorem wp_mapErr (f : ε → ε') (x : Prog σ ε α) (Q : Outcome ε' α → σ → Prop) (s : σ) :
    wp (mapErr f x) Q s ↔
      wp x (fun outcome next => match outcome with
        | .ok value => Q (.ok value) next
        | .err error => Q (.err (f error)) next
        | .halt why => Q (.halt why) next) s := by
  unfold wp mapErr
  simp only
  rcases x.run s with ⟨outcome, next⟩
  cases outcome <;> rfl

theorem wp_widen (x : Prog σ Empty α) (Q : Outcome ε α → σ → Prop) (s : σ) :
    wp (widen x) Q s ↔
      wp x (fun outcome next => match outcome with
        | .ok value => Q (.ok value) next
        | .err error => error.elim
        | .halt why => Q (.halt why) next) s := by
  unfold widen
  rw [wp_mapErr]
  unfold wp
  rcases x.run s with ⟨value | none | why, next⟩
  · rfl
  · exact none.elim
  · rfl

theorem wp_withState {τ : Type} (start : τ) (x : Prog (τ × σ) ε α)
    (Q : Outcome ε (α × τ) → σ → Prop) (s : σ) :
    wp (withState start x) Q s ↔
      wp x (fun outcome state => match outcome with
        | .ok value => Q (.ok (value, state.1)) state.2
        | .err error => Q (.err error) state.2
        | .halt why => Q (.halt why) state.2) (start, s) := by
  unfold wp withState
  simp only
  rcases x.run (start, s) with ⟨outcome, last, next⟩
  cases outcome <;> rfl

theorem wp_ite {c : Prop} [Decidable c] {x y : Prog σ ε α} {Q : Outcome ε α → σ → Prop} {s : σ}
    (yes : c → wp x Q s) (no : ¬ c → wp y Q s) : wp (if c then x else y) Q s := by
  split
  · exact yes ‹_›
  · exact no ‹_›

end Prog
