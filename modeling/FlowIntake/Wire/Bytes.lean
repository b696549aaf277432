/-
# Byte strings and big-endian numbers

A byte string is a list of octets.  A field of `n` octets holds one of `Bytes.capacity n` numbers,
most significant octet first; `Bytes.value` reads it and `Bytes.ofNat` writes it.

* `Bytes.atLeast_eq`: the bounded length test is the comparison with the length;
* `Bytes.length_ofNat`, `Bytes.value_ofNat`: writing takes exactly the width, and reading back
  gives the number modulo the capacity;
* `Bytes.ofNat_value`: reading loses nothing.
-/

namespace FlowIntake

/-- A string of octets, in the order in which they travel. -/
abbrev Bytes := List UInt8

namespace Bytes

/-! ## 1. Length -/

/-- Whether at least `n` octets are there.  Looks at no more than `n` of them. -/
def atLeast : Nat → Bytes → Bool
  | 0, _ => true
  | _ + 1, [] => false
  | n + 1, _ :: bs => atLeast n bs

@[simp] theorem atLeast_eq (n : Nat) (bs : Bytes) : atLeast n bs = decide (n ≤ bs.length) := by
  induction n generalizing bs with
  | zero => simp [atLeast]
  | succ n ih => cases bs <;> simp [atLeast, ih]

/-! ## 2. Unsigned numbers -/

/-- How many numbers `n` octets can write. -/
def capacity : Nat → Nat
  | 0 => 1
  | n + 1 => capacity n * 256

theorem capacity_pos (n : Nat) : 0 < capacity n := by
  induction n with
  | zero => decide
  | succ n ih => simp only [capacity]; omega

theorem capacity_add (m n : Nat) : capacity (m + n) = capacity m * capacity n := by
  induction n with
  | zero => simp [capacity]
  | succ n ih => rw [← Nat.add_assoc, capacity, ih, capacity, Nat.mul_assoc]

/-- The number whose digits in base 256 are the octets, most significant first. -/
def value (bs : Bytes) : Nat := bs.foldl (fun acc b => acc * 256 + b.toNat) 0

/-- The last `n` digits in base 256 of `v`, most significant first. -/
def ofNat : Nat → Nat → Bytes
  | 0, _ => []
  | n + 1, v => ofNat n (v / 256) ++ [UInt8.ofNat v]

@[simp] theorem length_ofNat (n v : Nat) : (ofNat n v).length = n := by
  induction n generalizing v with
  | zero => rfl
  | succ n ih => simp [ofNat, ih]

@[simp] theorem value_nil : value [] = 0 := rfl

@[simp] theorem value_append_singleton (bs : Bytes) (b : UInt8) :
    value (bs ++ [b]) = value bs * 256 + b.toNat := by
  simp [value]

theorem foldl_eq (acc : Nat) (bs : Bytes) :
    bs.foldl (fun acc b => acc * 256 + b.toNat) acc = acc * capacity bs.length + value bs := by
  induction bs generalizing acc with
  | nil => simp [value, capacity]
  | cons b bs ih =>
    have h : value (b :: bs) = b.toNat * capacity bs.length + value bs := by
      rw [value, List.foldl_cons, ih]; simp
    rw [List.foldl_cons, ih, h, List.length_cons, capacity, Nat.add_mul, Nat.mul_assoc,
      Nat.mul_comm 256, Nat.add_assoc]

@[simp] theorem value_cons (b : UInt8) (bs : Bytes) :
    value (b :: bs) = b.toNat * capacity bs.length + value bs := by
  rw [value, List.foldl_cons, foldl_eq]; simp

theorem value_lt (bs : Bytes) : value bs < capacity bs.length := by
  induction bs with
  | nil => simp [capacity]
  | cons b bs ih =>
    have hb : b.toNat < 256 := b.toNat_lt
    rw [value_cons, List.length_cons, capacity]
    calc b.toNat * capacity bs.length + value bs
        < b.toNat * capacity bs.length + capacity bs.length := by omega
      _ = (b.toNat + 1) * capacity bs.length := by rw [Nat.add_mul, Nat.one_mul]
      _ ≤ 256 * capacity bs.length := Nat.mul_le_mul_right _ hb
      _ = capacity bs.length * 256 := Nat.mul_comm _ _

/-- Reading back what was written gives the number modulo the width. -/
theorem value_ofNat (n v : Nat) : value (ofNat n v) = v % capacity n := by
  induction n generalizing v with
  | zero => simp [ofNat, capacity, Nat.mod_one]
  | succ n ih =>
    have h : (UInt8.ofNat v).toNat = v % 256 := by simp
    rw [ofNat, value_append_singleton, ih, h, capacity, Nat.mul_comm (capacity n), Nat.mod_mul]
    omega

/-- Writing back what was read gives the octets. -/
theorem ofNat_value (bs : Bytes) : ofNat bs.length (value bs) = bs := by
  generalize hn : bs.length = n
  induction n generalizing bs with
  | zero => simp [List.length_eq_zero_iff.mp hn, ofNat]
  | succ n ih =>
    have hne : bs ≠ [] := by rintro rfl; cases hn
    have hlen : bs.dropLast.length = n := by simp [hn]
    have hb : (bs.getLast hne).toNat < 256 := (bs.getLast hne).toNat_lt
    have hlast : UInt8.ofNat (value bs.dropLast * 256 + (bs.getLast hne).toNat)
        = bs.getLast hne := by
      apply UInt8.toNat_inj.mp
      rw [UInt8.toNat_ofNat']
      omega
    have hrest : (value bs.dropLast * 256 + (bs.getLast hne).toNat) / 256
        = value bs.dropLast := by omega
    rw [← List.dropLast_concat_getLast hne, value_append_singleton, ofNat, hrest, hlast,
      ih _ hlen]

/-! ## 3. Signed numbers -/

/-- The two's complement reading: the top half of the range stands for the negative numbers. -/
def signedValue (bs : Bytes) : Int :=
  if 2 * value bs < capacity bs.length then value bs else (value bs : Int) - capacity bs.length

end Bytes

/-! ## 4. Strings of a fixed length -/

/-- Exactly `n` octets. -/
structure Octets (n : Nat) where
  toBytes : Bytes
  size : toBytes.length = n
deriving DecidableEq

namespace Octets

/-- The first `n` octets of `bs`, filled up with zeros when there are fewer. -/
def ofBytes (n : Nat) (bs : Bytes) : Octets n :=
  ⟨(bs ++ List.replicate n 0).take n, by simp⟩

theorem toBytes_ofBytes {n : Nat} {bs : Bytes} (h : bs.length = n) :
    (ofBytes n bs).toBytes = bs := by
  simp [ofBytes, ← h]

@[simp] theorem ofBytes_toBytes {n : Nat} (o : Octets n) : ofBytes n o.toBytes = o := by
  cases o with
  | mk bs h => simp [ofBytes, ← h]

end Octets

end FlowIntake
