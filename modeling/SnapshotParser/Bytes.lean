import SnapshotParser.Rust

namespace SnapshotParser

/-! # Byte slices and arrays

Account data is a list of bytes.  Indexing it with a range panics outside its bounds,
and `get` returns `None` there instead.  A `[u8; n]` holds exactly `n` bytes, and
`from_le_bytes` reads them least significant first.  `leBytes`, what `to_le_bytes`
writes, is what the layouts the readers expect are stated with: reading back what it
wrote gives the value written.
-/

variable {ε : Type}

/-- `<[u8]>::get(start..stop)`: the bytes from `start` to `stop`, if that range is inside
the slice. -/
def getRange (data : List UInt8) (start stop : Nat) : Option (List UInt8) :=
  if start ≤ stop ∧ stop ≤ data.length then some ((data.drop start).take (stop - start))
  else none

/-- `data[start..stop]`: outside the slice it panics. -/
def indexRange (data : List UInt8) (start stop : Nat) : Except (Fault ε) (List UInt8) :=
  unwrap (getRange data start stop)

structure U8Array (n : Nat) where
  bytes : List UInt8
  length_eq : bytes.length = n
deriving DecidableEq

namespace U8Array

/-- `<[u8; n]>::try_from(&[u8])`: only a slice of `n` bytes converts. -/
def tryFrom (n : Nat) (slice : List UInt8) : Option (U8Array n) :=
  if h : slice.length = n then some ⟨slice, h⟩ else none

end U8Array

def leValue : List UInt8 → Nat
  | [] => 0
  | b :: bs => b.toNat + 256 * leValue bs

def leBytes : Nat → Nat → List UInt8
  | 0, _ => []
  | n + 1, x => UInt8.ofNat (x % 256) :: leBytes n (x / 256)

theorem leValue_lt (bs : List UInt8) : leValue bs < 2 ^ (8 * bs.length) := by
  induction bs with
  | nil => decide
  | cons b bs ih =>
    have byte : b.toNat < 256 := b.toNat_lt_size
    rw [leValue, List.length_cons, Nat.mul_succ, Nat.pow_add]
    omega

@[simp] theorem length_leBytes (n x : Nat) : (leBytes n x).length = n := by
  induction n generalizing x with
  | zero => rfl
  | succ n ih => rw [leBytes, List.length_cons, ih]

theorem leValue_leBytes (n x : Nat) : leValue (leBytes n x) = x % 2 ^ (8 * n) := by
  induction n generalizing x with
  | zero => simp only [leBytes, leValue, Nat.mul_zero, Nat.pow_zero, Nat.mod_one]
  | succ n ih =>
    have low : (UInt8.ofNat (x % 256)).toNat = x % 256 :=
      UInt8.toNat_ofNat_of_lt (Nat.mod_lt x (by decide))
    have wider : 2 ^ (8 * (n + 1)) = 256 * 2 ^ (8 * n) := by
      rw [Nat.mul_succ, Nat.pow_add, Nat.mul_comm]
    rw [leBytes, leValue, ih, low, wider, Nat.mod_mul]

/-- `u64::from_le_bytes`, `u16::from_le_bytes`: the value of the array, little-endian. -/
def U8Array.fromLeBytes {n : Nat} (a : U8Array n) : Unsigned (8 * n) :=
  ⟨leValue a.bytes, (leValue_lt a.bytes).trans_eq (by rw [a.length_eq])⟩

def Unsigned.toLeBytes (n : Nat) (x : Unsigned (8 * n)) : U8Array n :=
  ⟨leBytes n x.val, length_leBytes n x.val⟩

@[simp] theorem fromLeBytes_toLeBytes {n : Nat} (x : Unsigned (8 * n)) :
    (x.toLeBytes n).fromLeBytes = x := by
  cases x
  simp only [Unsigned.toLeBytes, U8Array.fromLeBytes, leValue_leBytes, Unsigned.mk.injEq]
  exact Nat.mod_eq_of_lt ‹_›

@[simp] theorem U8Array.tryFrom_bytes {n : Nat} (a : U8Array n) : tryFrom n a.bytes = some a :=
  dif_pos a.length_eq

theorem getRange_zero {data : List UInt8} {n : Nat} (long : n ≤ data.length) :
    getRange data 0 n = some (data.take n) := by
  rw [getRange, if_pos ⟨Nat.zero_le n, long⟩, List.drop_zero, Nat.sub_zero]

theorem getRange_of_lt {data : List UInt8} {start stop : Nat} (short : data.length < stop) :
    getRange data start stop = none :=
  if_neg fun inside => Nat.lt_irrefl _ (Nat.lt_of_lt_of_le short inside.2)

theorem length_of_getRange {data xs : List UInt8} {start stop : Nat}
    (read : getRange data start stop = some xs) : xs.length = stop - start := by
  unfold getRange at read
  split at read
  · cases read
    simp only [List.length_take, List.length_drop]
    omega
  · cases read

/-- `T::from_le_bytes(data[start..start + n].try_into()?)`: the conversion of a range of
`n` bytes to `[u8; n]` never fails, so its error is never returned. -/
theorem errorsSatisfy_indexRange_tryFrom {β : Type} {p : ε → Prop} {data : List UInt8}
    {start n : Nat} {e : ε} {k : U8Array n → Except (Fault ε) β}
    (rest : ∀ a, ErrorsSatisfy p (k a)) :
    ErrorsSatisfy p (indexRange data start (start + n) >>= fun s =>
      okOr e (U8Array.tryFrom n s) >>= k) := by
  refine ErrorsSatisfy.bind errorsSatisfy_unwrap fun s read => ?_
  have length : s.length = n := by
    rw [length_of_getRange (unwrap_eq_ok.mp read), Nat.add_sub_cancel_left]
  rw [U8Array.tryFrom, dif_pos length]
  exact rest _

theorem U8Array.tryFrom_eq_some {n : Nat} {s : List UInt8} {a : U8Array n} :
    tryFrom n s = some a ↔ a.bytes = s := by
  unfold tryFrom
  split
  · rw [Option.some.injEq]
    exact ⟨fun same => same ▸ rfl, fun same => by cases a; cases same; rfl⟩
  · exact ⟨nofun, fun same => absurd (same ▸ a.length_eq) ‹_›⟩

/-- A range of `n` bytes converted to `[u8; n]` succeeds exactly when the range is inside
the data, with the array of its bytes. -/
theorem indexRange_tryFrom_eq_ok {β : Type} {data : List UInt8} {start n : Nat} {e : ε}
    {k : U8Array n → Except (Fault ε) β} {b : β} :
    (indexRange data start (start + n) >>= fun s => okOr e (U8Array.tryFrom n s) >>= k) =
        .ok b ↔
      ∃ a : U8Array n, getRange data start (start + n) = some a.bytes ∧ k a = .ok b := by
  simp only [bind_eq_ok, indexRange, unwrap_eq_ok, okOr_eq_ok, U8Array.tryFrom_eq_some]
  constructor
  · rintro ⟨s, read, a, rfl, result⟩
    exact ⟨a, read, result⟩
  · rintro ⟨a, read, result⟩
    exact ⟨a.bytes, read, a, rfl, result⟩

section Layout

variable {data : List UInt8} (pre xs post : List UInt8)

theorem getRange_eq_some {start stop : Nat} (split : data = pre ++ xs ++ post)
    (begins : pre.length = start) (ends : start + xs.length = stop) :
    getRange data start stop = some xs := by
  subst split begins ends
  rw [getRange, if_pos (by simp only [List.length_append]; omega), List.append_assoc,
    List.drop_left, Nat.add_sub_cancel_left, List.take_left]

theorem getElem?_eq_head? {i : Nat} (rest : List UInt8) (split : data = pre ++ rest)
    (begins : pre.length = i) : data[i]? = rest.head? := by
  subst split begins
  rw [List.getElem?_append_right (Nat.le_refl _), Nat.sub_self, List.head?_eq_getElem?]

end Layout

end SnapshotParser
