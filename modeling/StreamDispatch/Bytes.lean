/-!
Byte strings, and the big-endian numbers that stand in them.
-/
namespace StreamDispatch

abbrev Bytes := List UInt8

namespace Bytes

/-- The number whose base-256 digits are `bytes`, the most significant first. -/
def toNat (bytes : Bytes) : Nat :=
  bytes.foldl (fun value byte => value * 256 + byte.toNat) 0

/-- The last `width` base-256 digits of `value`, the most significant first. -/
def ofNat : (width value : Nat) → Bytes
  | 0, _ => []
  | width + 1, value => ofNat width (value / 256) ++ [UInt8.ofNat (value % 256)]

/-- Whether there are `count` bytes; walks no further than it has to. -/
def holds : (count : Nat) → Bytes → Bool
  | 0, _ => true
  | _ + 1, [] => false
  | count + 1, _ :: rest => holds count rest

@[simp] theorem holds_iff {count : Nat} {bytes : Bytes} :
    holds count bytes = true ↔ count ≤ bytes.length := by
  induction bytes generalizing count with
  | nil => cases count <;> simp [holds]
  | cons byte rest ih => cases count <;> simp [holds, ih]

@[simp] theorem length_ofNat (width value : Nat) : (ofNat width value).length = width := by
  induction width generalizing value with
  | zero => rfl
  | succ width ih => simp [ofNat, ih]

theorem toNat_append_singleton (bytes : Bytes) (byte : UInt8) :
    toNat (bytes ++ [byte]) = toNat bytes * 256 + byte.toNat := by
  simp [toNat, List.foldl_append]

/-- How many numbers have at most so many base-256 digits. -/
def bound : (width : Nat) → Nat
  | 0 => 1
  | width + 1 => bound width * 256

/-- Writing a number that fits and reading it back changes nothing. -/
theorem toNat_ofNat {width value : Nat} (fits : value < bound width) :
    toNat (ofNat width value) = value := by
  induction width generalizing value with
  | zero =>
    obtain rfl : value = 0 := Nat.lt_one_iff.mp fits
    rfl
  | succ width ih =>
    have quotient : value / 256 < bound width :=
      Nat.div_lt_of_lt_mul (by rwa [Nat.mul_comm])
    have digit : (UInt8.ofNat (value % 256)).toNat = value % 256 := by
      simp [UInt8.toNat_ofNat']
    rw [ofNat, toNat_append_singleton, ih quotient, digit]
    omega

/-- So many digits never make a number beyond their bound. -/
theorem toNat_lt_bound (bytes : Bytes) : toNat bytes < bound bytes.length := by
  generalize sized : bytes.length = width
  induction width generalizing bytes with
  | zero =>
    obtain rfl := List.length_eq_zero_iff.mp sized
    exact Nat.zero_lt_one
  | succ width ih =>
    rcases List.eq_nil_or_concat bytes with rfl | ⟨front, last, rfl⟩
    · simp at sized
    · have small := ih front (by simpa using sized)
      have digit := last.toNat_lt
      rw [List.concat_eq_append, toNat_append_singleton, bound]
      omega

/-- Reading a number and writing it with as many digits changes nothing. -/
theorem ofNat_toNat (bytes : Bytes) : ofNat bytes.length (toNat bytes) = bytes := by
  generalize sized : bytes.length = width
  induction width generalizing bytes with
  | zero =>
    obtain rfl := List.length_eq_zero_iff.mp sized
    rfl
  | succ width ih =>
    rcases List.eq_nil_or_concat bytes with rfl | ⟨front, last, rfl⟩
    · simp at sized
    · have digit := last.toNat_lt
      have quotient : (toNat front * 256 + last.toNat) / 256 = toNat front := by omega
      have remainder : (toNat front * 256 + last.toNat) % 256 = last.toNat := by omega
      rw [List.concat_eq_append, toNat_append_singleton, ofNat, quotient, remainder,
        ih front (by simpa using sized), UInt8.ofNat_toNat]

end Bytes

end StreamDispatch
