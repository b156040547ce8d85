import Mathlib.Tactic.SplitIfs
import Mathlib.Tactic.NormNum.Pow

namespace SnapshotParser

/-! # Rust integers and results

Integers of the Rust code are kept as their values.  Record fields carry the range of
their Rust type, so that no out-of-range field can be built; function arguments are
plain `Nat` and `Int`, and theorems quantify over the bounded types.

Arithmetic follows a release build: the unchecked `-` of `i64`, the unary `-` of `i8`
and `pow` on `u128` wrap.  The checked operations return `Option`, and `unwrap` turns
`None` into a panic.  A computation that may panic or return an `Err` is an
`Except (Fault ε)`.
-/

structure Unsigned (bits : Nat) where
  val : Nat
  lt : val < 2 ^ bits
deriving DecidableEq, Repr

structure Signed (bits : Nat) where
  val : Int
  range : -2 ^ (bits - 1) ≤ val ∧ val < 2 ^ (bits - 1)
deriving DecidableEq, Repr

abbrev U8 := Unsigned 8
abbrev U16 := Unsigned 16
abbrev U64 := Unsigned 64
abbrev I8 := Signed 8
abbrev I64 := Signed 64

/-- How a Rust call ends when it returns no value: it panics, or returns an `Err`. -/
inductive Fault (ε : Type) where
  | panic
  | error (e : ε)
deriving DecidableEq, Repr

variable {ε α β : Type}

/-- `Option::unwrap`: `None` panics. -/
def unwrap : Option α → Except (Fault ε) α
  | some a => .ok a
  | none => .error .panic

/-- `ok_or_else(|| e)?`, and `?` on a conversion error: `None` returns `Err(e)`. -/
def okOr (e : ε) : Option α → Except (Fault ε) α
  | some a => .ok a
  | none => .error (.error e)

def checkedAdd (bits a b : Nat) : Option Nat :=
  if a + b < 2 ^ bits then some (a + b) else none

def checkedMul (bits a b : Nat) : Option Nat :=
  if a * b < 2 ^ bits then some (a * b) else none

def checkedSub (a b : Nat) : Option Nat :=
  if b ≤ a then some (a - b) else none

def checkedDiv (a b : Nat) : Option Nat :=
  if b = 0 then none else some (a / b)

def tryFrom (bits a : Nat) : Option Nat :=
  if a < 2 ^ bits then some a else none

/-- A value wrapped into a `bits`-bit signed integer: unchecked signed arithmetic of a
release build, such as `-x`. -/
def wrapSigned (bits : Nat) (x : Int) : Int :=
  (x + 2 ^ (bits - 1)) % 2 ^ bits - 2 ^ (bits - 1)

def castU32 (x : Int) : Nat :=
  (x % 2 ^ 32).toNat

def Unsigned.saturatingAdd {bits : Nat} (a : Unsigned bits) (b : Nat) : Unsigned bits :=
  ⟨min (a.val + b) (2 ^ bits - 1), by have := Nat.one_le_two_pow (n := bits); omega⟩

/-- `u128::pow` of a release build: the power wrapped to 128 bits. -/
def wrappingPow128 (base exp : Nat) : Nat :=
  base ^ exp % 2 ^ 128

def OkUnlessPanic (r : Except (Fault ε) α) (a : α) : Prop :=
  r = .ok a ∨ r = .error .panic

def NoPanic (r : Except (Fault ε) α) : Prop :=
  r ≠ .error .panic

/-- Every `Err` that `r` returns satisfies `p`. -/
def ErrorsSatisfy (p : ε → Prop) (r : Except (Fault ε) α) : Prop :=
  ∀ e, r = .error (.error e) → p e

section Simp

variable {c : Prop} [Decidable c] {bits a b : Nat}

@[simp] theorem unwrap_checkedAdd :
    (unwrap (checkedAdd bits a b) : Except (Fault ε) Nat) =
      if a + b < 2 ^ bits then .ok (a + b) else .error .panic := by
  unfold checkedAdd; split <;> rfl

@[simp] theorem unwrap_checkedMul :
    (unwrap (checkedMul bits a b) : Except (Fault ε) Nat) =
      if a * b < 2 ^ bits then .ok (a * b) else .error .panic := by
  unfold checkedMul; split <;> rfl

@[simp] theorem unwrap_checkedSub :
    (unwrap (checkedSub a b) : Except (Fault ε) Nat) =
      if b ≤ a then .ok (a - b) else .error .panic := by
  unfold checkedSub; split <;> rfl

@[simp] theorem unwrap_checkedDiv :
    (unwrap (checkedDiv a b) : Except (Fault ε) Nat) =
      if b = 0 then .error .panic else .ok (a / b) := by
  unfold checkedDiv; split <;> rfl

@[simp] theorem okOr_tryFrom (e : ε) :
    okOr e (tryFrom bits a) = if a < 2 ^ bits then .ok a else .error (.error e) := by
  unfold tryFrom; split <;> rfl

@[simp] theorem ok_bind (a : α) (f : α → Except (Fault ε) β) :
    (Except.ok a >>= f) = f a := rfl

@[simp] theorem error_bind (e : Fault ε) (f : α → Except (Fault ε) β) :
    (Except.error e >>= f) = .error e := rfl

@[simp] theorem pure_eq_ok (a : α) : (pure a : Except (Fault ε) α) = .ok a := rfl

@[simp] theorem throw_eq_error (e : Fault ε) : (throw e : Except (Fault ε) α) = .error e := rfl

theorem ite_bind (x y : Except (Fault ε) α) (f : α → Except (Fault ε) β) :
    ((if c then x else y) >>= f) = if c then x >>= f else y >>= f := by
  split <;> rfl

@[simp] theorem okUnlessPanic_ok {a b : α} :
    OkUnlessPanic (.ok a : Except (Fault ε) α) b ↔ a = b := by
  simp [OkUnlessPanic]

@[simp] theorem okUnlessPanic_panic {b : α} :
    OkUnlessPanic (.error .panic : Except (Fault ε) α) b := .inr rfl

theorem okUnlessPanic_ite {r : Except (Fault ε) α} {b : α} :
    OkUnlessPanic (if c then r else .error .panic) b ↔ (c → OkUnlessPanic r b) := by
  split <;> simp_all

theorem okUnlessPanic_ite_not {r : Except (Fault ε) α} {b : α} :
    OkUnlessPanic (if c then .error .panic else r) b ↔ (¬ c → OkUnlessPanic r b) := by
  split <;> simp_all

theorem bind_eq_error {x : Except (Fault ε) α} {f : α → Except (Fault ε) β} {e : Fault ε} :
    (x >>= f) = .error e ↔ x = .error e ∨ ∃ a, x = .ok a ∧ f a = .error e := by
  cases x <;> simp

theorem bind_eq_ok {x : Except (Fault ε) α} {f : α → Except (Fault ε) β} {b : β} :
    (x >>= f) = .ok b ↔ ∃ a, x = .ok a ∧ f a = .ok b := by
  cases x <;> simp

theorem okOr_eq_error {e : ε} {o : Option α} {f : Fault ε} (failed : okOr e o = .error f) :
    f = .error e := by
  cases o <;> simp_all [okOr]

theorem okOr_eq_ok {e : ε} {o : Option α} {a : α} : okOr e o = .ok a ↔ o = some a := by
  cases o <;> simp [okOr]

theorem unwrap_eq_ok {o : Option α} {a : α} :
    (unwrap o : Except (Fault ε) α) = .ok a ↔ o = some a := by
  cases o <;> simp [unwrap]

theorem tryFrom_eq_some {bits a b : Nat} : tryFrom bits a = some b ↔ a < 2 ^ bits ∧ a = b := by
  unfold tryFrom
  split <;> simp_all

theorem OkUnlessPanic.eq_of_ok {r : Except (Fault ε) α} {a b : α} (result : OkUnlessPanic r a)
    (succeeded : r = .ok b) : b = a := by
  rcases result with result | result <;> rw [result] at succeeded <;> cases succeeded
  rfl

/-- Narrowing a checked `u128` product to `u64` is narrowing the exact product: a product
that overflows `u128` does not fit in `u64` either. -/
theorem checkedMul_bind_tryFrom (a b : Nat) :
    (checkedMul 128 a b >>= tryFrom 64) = tryFrom 64 (a * b) := by
  unfold checkedMul
  split
  · rfl
  · rw [tryFrom, if_neg (by omega)]
    rfl

theorem mul_lt_u128 {a b : Nat} (fits : a < 2 ^ 64) (atMost : b ≤ 2 ^ 64) : a * b < 2 ^ 128 :=
  calc a * b ≤ a * 2 ^ 64 := Nat.mul_le_mul_left a atMost
    _ < 2 ^ 64 * 2 ^ 64 := Nat.mul_lt_mul_of_pos_right fits (by norm_num)
    _ = 2 ^ 128 := by norm_num

section Errors

variable {p q : ε → Prop}

@[simp] theorem errorsSatisfy_ok {a : α} : ErrorsSatisfy p (.ok a : Except (Fault ε) α) := by
  simp [ErrorsSatisfy]

@[simp] theorem errorsSatisfy_panic : ErrorsSatisfy p (.error .panic : Except (Fault ε) α) := by
  simp [ErrorsSatisfy]

@[simp] theorem errorsSatisfy_error {e : ε} :
    ErrorsSatisfy p (.error (.error e) : Except (Fault ε) α) ↔ p e := by
  simp [ErrorsSatisfy]

theorem errorsSatisfy_ite {x y : Except (Fault ε) α} :
    ErrorsSatisfy p (if c then x else y) ↔ (c → ErrorsSatisfy p x) ∧ (¬ c → ErrorsSatisfy p y) := by
  split <;> simp_all

theorem ErrorsSatisfy.bind {x : Except (Fault ε) α} {f : α → Except (Fault ε) β}
    (first : ErrorsSatisfy p x) (rest : ∀ a, x = .ok a → ErrorsSatisfy p (f a)) :
    ErrorsSatisfy p (x >>= f) := by
  intro e failed
  rcases bind_eq_error.mp failed with failed | ⟨a, succeeded, failed⟩
  · exact first e failed
  · exact rest a succeeded e failed

theorem ErrorsSatisfy.mono {r : Except (Fault ε) α} (errors : ErrorsSatisfy p r)
    (weaker : ∀ e, p e → q e) : ErrorsSatisfy q r :=
  fun e failed => weaker e (errors e failed)

@[simp] theorem errorsSatisfy_unwrap {o : Option α} :
    ErrorsSatisfy p (unwrap o : Except (Fault ε) α) := by
  cases o <;> simp [unwrap]

theorem errorsSatisfy_okOr {e : ε} {o : Option α} (allowed : p e) : ErrorsSatisfy p (okOr e o) := by
  intro _ failed
  cases okOr_eq_error failed
  exact allowed

end Errors

section NoPanic

@[simp] theorem noPanic_ok {a : α} : NoPanic (.ok a : Except (Fault ε) α) := nofun

@[simp] theorem noPanic_error {e : ε} : NoPanic (.error (.error e) : Except (Fault ε) α) := nofun

@[simp] theorem noPanic_panic : ¬ NoPanic (.error .panic : Except (Fault ε) α) := fun h => h rfl

theorem noPanic_ite {x y : Except (Fault ε) α} :
    NoPanic (if c then x else y) ↔ (c → NoPanic x) ∧ (¬ c → NoPanic y) := by
  split <;> simp_all

end NoPanic

end Simp

end SnapshotParser
