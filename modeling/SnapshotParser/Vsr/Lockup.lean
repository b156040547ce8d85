import SnapshotParser.Vsr.Accounts

namespace SnapshotParser.Vsr

namespace Lockup

/-- `Lockup::seconds_left`.  A `Constant` lockup measures from `start_ts`, so it never
counts down.  `(end_ts - curr_ts) as u64` wraps in `i64` and reinterprets the bits. -/
def secondsLeft (self : Lockup) (currTs : Int) : Nat :=
  let currTs := if self.kind = .constant then self.startTs.val else currTs
  if currTs ≥ self.endTs.val then 0 else ((self.endTs.val - currTs) % 2 ^ 64).toNat

def expired (self : Lockup) (currTs : Int) : Bool :=
  self.secondsLeft currTs == 0

/-- `Lockup::periods_total`: the lockup's whole length in periods, which must divide
evenly.  The divisor is nonzero where `is_multiple_of` is called, so it is `% == 0`. -/
def periodsTotal (self : Lockup) : Except (Fault Error) Nat :=
  let periodSecs := self.kind.periodSecs
  if periodSecs = 0 then .ok 0
  else
    let lockupSecs := self.secondsLeft self.startTs.val
    if lockupSecs % periodSecs ≠ 0 then
      .error (.error (.lockupPeriodMismatch lockupSecs periodSecs))
    else unwrap (checkedDiv lockupSecs periodSecs)

/-- `Lockup::periods_left`: all periods before the start, otherwise the seconds left
rounded up to whole periods. -/
def periodsLeft (self : Lockup) (currTs : Int) : Except (Fault Error) Nat :=
  let periodSecs := self.kind.periodSecs
  if periodSecs = 0 then .ok 0
  else if currTs < self.startTs.val then self.periodsTotal
  else do
    let secs ← unwrap (checkedAdd 64 (self.secondsLeft currTs) (periodSecs - 1))
    unwrap (checkedDiv secs periodSecs)

variable (l : Lockup)

theorem secondsLeft_eq (currTs : I64) :
    l.secondsLeft currTs.val =
      (l.endTs.val - if l.kind = .constant then l.startTs.val else currTs.val).toNat := by
  have := currTs.range; have := l.startTs.range; have := l.endTs.range
  dsimp only [secondsLeft]
  split <;> split <;> omega

theorem secondsLeft_of_ne_constant (notConstant : l.kind ≠ .constant) (currTs : I64) :
    l.secondsLeft currTs.val = (l.endTs.val - currTs.val).toNat := by
  simp [secondsLeft_eq, notConstant]

/-- Later times leave no more seconds; a `Constant` lockup does not count down at all. -/
theorem secondsLeft_antitone {t₁ t₂ : I64} (later : t₁.val ≤ t₂.val) :
    l.secondsLeft t₂.val ≤ l.secondsLeft t₁.val := by
  rw [secondsLeft_eq, secondsLeft_eq]
  split <;> omega

theorem secondsLeft_lt (currTs : Int) : l.secondsLeft currTs < 2 ^ 64 := by
  dsimp only [secondsLeft]
  split <;> split <;> omega

theorem periodsTotal_eq (positive : 0 < l.kind.periodSecs) :
    l.periodsTotal =
      if l.secondsLeft l.startTs.val % l.kind.periodSecs = 0 then
        .ok (l.secondsLeft l.startTs.val / l.kind.periodSecs)
      else .error (.error (.lockupPeriodMismatch (l.secondsLeft l.startTs.val) l.kind.periodSecs)) := by
  simp only [periodsTotal, Nat.pos_iff_ne_zero.mp positive, if_false, ne_eq, unwrap_checkedDiv,
    ite_not]

theorem lockupSecs_eq_of_periodsTotal {T : Nat} (positive : 0 < l.kind.periodSecs)
    (total : l.periodsTotal = .ok T) :
    l.secondsLeft l.startTs.val = T * l.kind.periodSecs := by
  rw [periodsTotal_eq l positive] at total
  split at total
  · cases total
    exact (Nat.div_mul_cancel (Nat.dvd_of_mod_eq_zero ‹_›)).symm
  · cases total

theorem periodsLeft_of_lt_start (positive : 0 < l.kind.periodSecs) {currTs : Int}
    (before : currTs < l.startTs.val) : l.periodsLeft currTs = l.periodsTotal := by
  simp [periodsLeft, Nat.pos_iff_ne_zero.mp positive, before]

theorem periodsLeft_of_start_le (positive : 0 < l.kind.periodSecs) {currTs : Int}
    (started : l.startTs.val ≤ currTs) :
    l.periodsLeft currTs =
      if l.secondsLeft currTs + (l.kind.periodSecs - 1) < 2 ^ 64 then
        .ok ((l.secondsLeft currTs + (l.kind.periodSecs - 1)) / l.kind.periodSecs)
      else .error .panic := by
  have notBefore : ¬ currTs < l.startTs.val := by omega
  have nonzero := Nat.pos_iff_ne_zero.mp positive
  simp only [periodsLeft, nonzero, notBefore, if_false, unwrap_checkedAdd, ite_bind,
    ok_bind, error_bind, unwrap_checkedDiv]

theorem periods_errors (currTs : Int) :
    ErrorsSatisfy (fun e => ∃ a b, e = .lockupPeriodMismatch a b) l.periodsTotal ∧
      ErrorsSatisfy (fun e => ∃ a b, e = .lockupPeriodMismatch a b) (l.periodsLeft currTs) := by
  have total : ErrorsSatisfy (fun e => ∃ a b, e = .lockupPeriodMismatch a b) l.periodsTotal := by
    simp only [periodsTotal, unwrap_checkedDiv, errorsSatisfy_ite, errorsSatisfy_ok,
      errorsSatisfy_panic, errorsSatisfy_error]
    simp
  refine ⟨total, ?_⟩
  simp only [periodsLeft, unwrap_checkedAdd, unwrap_checkedDiv, ite_bind, ok_bind, error_bind,
    errorsSatisfy_ite, errorsSatisfy_ok, errorsSatisfy_panic]
  simp [total]

end Lockup

end SnapshotParser.Vsr
