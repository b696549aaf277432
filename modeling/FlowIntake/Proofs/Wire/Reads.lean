/-
# Reading back what was written

What a `Builder` writes is read again octet by octet.  Every lemma here has the same form: a
cursor stands in front of what was written and of any `rest`, and the read gives the number or
the octets back and leaves the cursor in front of `rest`.

* `Cursor.take_append`: the octets in front are taken, all of them and no others;
* `Cursor.u16_ofNat`, `Cursor.u32_ofNat`: numbers of two and of four octets;
* `Cursor.Announces`, `Cursor.variableLength_announces`: both forms of the length that stands before
  a field;
* `Bytes.signedValue_ofNat`: a signed number that fits its width;
* `Reader.Advances`: how many octets a reader takes at least, whenever it succeeds.

The lemmas on `>>=` carry all readers written with `do`: a reader that succeeds is its first read
followed by the others.
-/
import FlowIntake.Packet.Builder
import Mathlib.Data.Int.ModEq
import Mathlib.Tactic.Linarith

namespace FlowIntake

/-! ## 1. Readers in sequence -/

section Readers

variable {ε α β : Type} {r : Reader ε α} {f : α → Reader ε β} {c c' : Cursor} {a : α}

/-- After a first read that succeeds, a reader goes on where that read stopped. -/
theorem Reader.bind_ok (h : r c = .ok a c') : (r >>= f) c = f a c' := by
  simp [bind, EStateM.bind, h]

/-- A reader fails with its first read. -/
theorem Reader.bind_error {e : ε} (h : r c = .error e c') : (r >>= f) c = .error e c' := by
  simp [bind, EStateM.bind, h]

/-- A reader that succeeds has succeeded with its first read and with what follows. -/
theorem Reader.bind_ok_iff {b : β} :
    (r >>= f) c = .ok b c' ↔ ∃ a c₁, r c = .ok a c₁ ∧ f a c₁ = .ok b c' := by
  cases h : r c with
  | ok a c₁ =>
    rw [bind_ok h]
    constructor
    · intro hf
      exact ⟨a, c₁, rfl, hf⟩
    · rintro ⟨_, _, heq, hf⟩
      cases heq
      exact hf
  | error e c₁ =>
    rw [bind_error h]
    constructor
    · intro hf
      cases hf
    · rintro ⟨_, _, heq, _⟩
      cases heq

theorem Reader.map_ok {g : α → β} (h : r c = .ok a c') : (g <$> r) c = .ok (g a) c' := by
  simp [Functor.map, EStateM.map, h]

theorem Reader.map_ok_iff {g : α → β} {b : β} :
    (g <$> r) c = .ok b c' ↔ ∃ a, r c = .ok a c' ∧ g a = b := by
  cases h : r c with
  | ok a₁ c₁ =>
    rw [map_ok h]
    constructor
    · intro heq
      cases heq
      exact ⟨a₁, rfl, rfl⟩
    · rintro ⟨_, heq, rfl⟩
      cases heq
      rfl
  | error e c₁ => simp [Functor.map, EStateM.map, h]

end Readers

/-! ## 2. Numbers -/

/-- A number that fits its width is read back as it was. -/
theorem Bytes.value_ofNat_of_lt {n v : Nat} (h : v < capacity n) : value (ofNat n v) = v := by
  rw [value_ofNat, Nat.mod_eq_of_lt h]

/-! ### Two's complement

The number of a string of octets is the one in the signed range that leaves the same remainder,
and no other number in that range does. -/

theorem Bytes.signedValue_emod (bs : Bytes) :
    signedValue bs % (capacity bs.length : Int) = value bs := by
  have hlt : (value bs : Int) < capacity bs.length := by exact_mod_cast value_lt bs
  have hmod : (value bs : Int) % (capacity bs.length : Int) = value bs :=
    Int.emod_eq_of_lt (Int.natCast_nonneg _) hlt
  unfold signedValue
  split
  · exact hmod
  · rw [Int.sub_emod_right, hmod]

theorem Bytes.signedValue_bounds (bs : Bytes) :
    -(capacity bs.length : Int) ≤ 2 * signedValue bs
      ∧ 2 * signedValue bs < capacity bs.length := by
  have hlt := value_lt bs
  unfold signedValue
  split <;> constructor <;> omega

/-- Two numbers in the signed range of a modulus that leave the same remainder are the same. -/
theorem eq_of_emod_eq {m a b : Int} (ha : -m ≤ 2 * a ∧ 2 * a < m) (hb : -m ≤ 2 * b ∧ 2 * b < m)
    (h : a % m = b % m) : a = b := by
  obtain ⟨k, hk⟩ : m ∣ a - b := Int.ModEq.dvd h.symm
  have hpos : 0 < m := by omega
  have hk0 : k = 0 := by nlinarith
  rw [hk0, Int.mul_zero] at hk
  omega

theorem Bytes.capacity_dvd {n m : Nat} (h : n ≤ m) : capacity n ∣ capacity m := by
  obtain ⟨k, rfl⟩ := Nat.exists_eq_add_of_le h
  exact ⟨capacity k, capacity_add n k⟩

/-- **A signed number that fits its width is read back as it was.** -/
theorem Bytes.signedValue_ofNat {n k : Nat} {z : Int} (hz : z % capacity 8 = k % capacity 8)
    (hn : n ≤ 8) (hfits : -(capacity n : Int) ≤ 2 * z ∧ 2 * z < capacity n) :
    signedValue (ofNat n k) = z := by
  have hd : (capacity n : Int) ∣ capacity 8 := by exact_mod_cast capacity_dvd hn
  have hemod := signedValue_emod (ofNat n k)
  have hbounds := signedValue_bounds (ofNat n k)
  rw [length_ofNat] at hemod hbounds
  refine eq_of_emod_eq hbounds hfits ?_
  rw [hemod, value_ofNat, Int.natCast_mod, ← Int.emod_emod_of_dvd z hd, hz,
    Int.emod_emod_of_dvd _ hd]

namespace Cursor

/-- **A read of as many octets as stand in front takes exactly those.** -/
theorem take_append (p : Nat) (bs rest : Bytes) :
    take bs.length ⟨p, bs ++ rest⟩ = .ok bs ⟨p + bs.length, rest⟩ := by
  rw [take_ok_iff]
  exact ⟨rfl, rfl, rfl⟩

theorem take_ofNat (p n v : Nat) (rest : Bytes) :
    take n ⟨p, Bytes.ofNat n v ++ rest⟩ = .ok (Bytes.ofNat n v) ⟨p + n, rest⟩ := by
  have h := take_append p (Bytes.ofNat n v) rest
  rwa [Bytes.length_ofNat] at h

/-- A number of two octets is read back. -/
theorem u16_ofNat (p : Nat) (v : UInt16) (rest : Bytes) :
    u16 ⟨p, Bytes.ofNat 2 v.toNat ++ rest⟩ = .ok v ⟨p + 2, rest⟩ := by
  have h := Reader.map_ok (g := fun bs => UInt16.ofNat bs.value) (take_ofNat p 2 v.toNat rest)
  rw [Bytes.value_ofNat_of_lt v.toNat_lt, UInt16.ofNat_toNat] at h
  exact h

/-- A number of four octets is read back. -/
theorem u32_ofNat (p : Nat) (v : UInt32) (rest : Bytes) :
    u32 ⟨p, Bytes.ofNat 4 v.toNat ++ rest⟩ = .ok v ⟨p + 4, rest⟩ := by
  have h := Reader.map_ok (g := fun bs => UInt32.ofNat bs.value) (take_ofNat p 4 v.toNat rest)
  rw [Bytes.value_ofNat_of_lt v.toNat_lt, UInt32.ofNat_toNat] at h
  exact h

/-! ## 3. The length before a field

Up to 254 there are two ways to announce a length, and from 255 on there is one. -/

/-- The octets announce a length of `n`: one octet below 255, or 255 and then two octets. -/
inductive Announces (n : Nat) : Bytes → Prop where
  | short (h : n < 255) : Announces n [UInt8.ofNat n]
  | long (h : n ≤ maxFieldLength) : Announces n (255 :: Bytes.ofNat 2 n)

/-- **A length is read back however it is announced**, and no octet after it is taken. -/
theorem variableLength_announces {n : Nat} {lead : Bytes} (h : Announces n lead) (p : Nat)
    (rest : Bytes) : variableLength ⟨p, lead ++ rest⟩ = .ok n ⟨p + lead.length, rest⟩ := by
  cases h with
  | short hn =>
    have hb : (UInt8.ofNat n).toNat = n := by
      rw [UInt8.toNat_ofNat']
      omega
    have hlt : UInt8.ofNat n < 255 := by
      rw [UInt8.lt_iff_toNat_lt, hb]
      exact hn
    simp [variableLength, hlt, hb]
  | long hn =>
    have hv : Bytes.value (Bytes.ofNat 2 n) = n := Bytes.value_ofNat_of_lt (Nat.lt_succ_of_le hn)
    have hlast : ¬(255 : UInt8) < 255 := by decide
    simp only [Bytes.ofNat, List.nil_append, List.cons_append] at hv
    simp [variableLength, Bytes.ofNat, hv, hlast]

/-- How many octets of length stand before a field of variable length. -/
def lengthSize (n : Nat) : Nat := if n < 255 then 1 else 3

theorem length_variableField (bs : Bytes) :
    (variableField bs).length = lengthSize bs.length + bs.length := by
  unfold variableField lengthSize
  split
  · simp
  · simp only [List.length_cons, List.length_append, Bytes.length_ofNat]
    omega

/-- What stands before the octets of a field announces their number. -/
theorem exists_lead {bs : Bytes} (h : bs.length ≤ maxFieldLength) :
    ∃ lead, Announces bs.length lead ∧ variableField bs = lead ++ bs ∧
      lead.length = lengthSize bs.length := by
  unfold variableField lengthSize
  by_cases hlt : bs.length < 255
  · rw [if_pos hlt, if_pos hlt]
    exact ⟨_, .short hlt, rfl, rfl⟩
  · rw [if_neg hlt, if_neg hlt]
    exact ⟨_, .long h, rfl, rfl⟩

/-- The length written before a field is read back. -/
theorem variableLength_variableField (p : Nat) {bs : Bytes} (rest : Bytes)
    (h : bs.length ≤ maxFieldLength) :
    variableLength ⟨p, variableField bs ++ rest⟩
      = .ok bs.length ⟨p + lengthSize bs.length, bs ++ rest⟩ := by
  obtain ⟨lead, hannounces, hwritten, hsize⟩ := exists_lead h
  rw [hwritten, List.append_assoc, variableLength_announces hannounces, hsize]

/-! ## 4. What a read takes

A reader that succeeds has taken octets off the front and left the rest.  `Advances n` says that
it takes at least `n`; it is shown once for each primitive read and composes along `>>=`. -/

end Cursor

namespace Reader

variable {ε α β : Type}

/-- Whenever the reader succeeds it has taken at least `n` octets off the front. -/
def Advances (n : Nat) (r : Reader ε α) : Prop :=
  ∀ c a c', r c = .ok a c' →
    ∃ bs, c.rest = bs ++ c'.rest ∧ n ≤ bs.length ∧ c'.position = c.position + bs.length

theorem Advances.mono {m n : Nat} {r : Reader ε α} (h : Advances n r) (hmn : m ≤ n) :
    Advances m r := by
  intro c a c' hr
  obtain ⟨bs, hrest, hlen, hpos⟩ := h c a c' hr
  exact ⟨bs, hrest, hmn.trans hlen, hpos⟩

/-- Fewer octets are left afterwards. -/
theorem Advances.remaining_le {n : Nat} {r : Reader ε α} (h : Advances n r) {c c' : Cursor} {a : α}
    (hr : r c = .ok a c') : c'.remaining + n ≤ c.remaining := by
  obtain ⟨bs, hrest, hlen, -⟩ := h c a c' hr
  simp only [Cursor.remaining, hrest, List.length_append]
  omega

theorem advances_pure (a : α) : Advances 0 (pure a : Reader ε α) := by
  intro c b c' h
  cases h
  exact ⟨[], rfl, Nat.le_refl 0, rfl⟩

theorem advances_bind {m n : Nat} {r : Reader ε α} {f : α → Reader ε β} (hr : Advances m r)
    (hf : ∀ a, Advances n (f a)) : Advances (m + n) (r >>= f) := by
  intro c b c' h
  obtain ⟨a, c₁, hfirst, hlater⟩ := bind_ok_iff.mp h
  obtain ⟨bs, hrest, hlen, hpos⟩ := hr c a c₁ hfirst
  obtain ⟨bs', hrest', hlen', hpos'⟩ := hf a c₁ b c' hlater
  refine ⟨bs ++ bs', ?_, ?_, ?_⟩
  · rw [hrest, hrest', List.append_assoc]
  · rw [List.length_append]
    exact Nat.add_le_add hlen hlen'
  · rw [hpos', hpos, List.length_append, Nat.add_assoc]

/-- After a failure nothing more is read. -/
theorem advances_throw_bind (n : Nat) (e : ε) (f : α → Reader ε β) :
    Advances n ((throw e : Reader ε α) >>= f) := by
  intro c b c' h
  cases h

/-- Reading on takes nothing back. -/
theorem advances_bind_zero {m : Nat} {r : Reader ε α} {f : α → Reader ε β} (hr : Advances m r)
    (hf : ∀ a, Advances 0 (f a)) : Advances 0 (r >>= f) :=
  (advances_bind hr hf).mono (Nat.zero_le _)

theorem advances_map {n : Nat} {r : Reader ε α} (g : α → β) (h : Advances n r) :
    Advances n (g <$> r) := by
  intro c b c' hr
  obtain ⟨a, ha, -⟩ := map_ok_iff.mp hr
  exact h c a c' ha

end Reader

namespace Cursor

open Reader

theorem advances_take (n : Nat) : Advances n (take n) := by
  intro c bs c' h
  obtain ⟨hrest, hlen, hpos⟩ := take_ok_iff.mp h
  exact ⟨bs, hrest, Nat.le_of_eq hlen.symm, by rw [hpos, hlen]⟩

theorem advances_u16 : Advances 2 u16 := advances_map _ (advances_take 2)

theorem advances_u32 : Advances 4 u32 := advances_map _ (advances_take 4)

/-- The length before a field takes one octet or three. -/
theorem advances_variableLength : Advances 1 variableLength := by
  intro c n c' h
  unfold variableLength at h
  split at h
  · cases h
  · rename_i b rest hrest
    split at h
    · cases h
      exact ⟨[b], hrest, Nat.le_refl 1, rfl⟩
    · rcases rest with _ | ⟨hi, _ | ⟨lo, rest⟩⟩
      · cases h
      · cases h
      · cases h
        exact ⟨[b, hi, lo], hrest, Nat.le_add_left 1 2, rfl⟩

end Cursor

end FlowIntake
