/-
# UTF-8 reads back what it writes

`Utf8.encode` writes a text as octets and `Utf8.decode` reads any octets as a text, putting a
replacement for what is not UTF-8.  Nothing that `encode` writes is replaced:

* `Utf8.foldl_step_encodeChar`: the octets of one character are read as that character, whatever
  has been read before;
* `Utf8.decode_encode`: a text is read back as it was;
* `Utf8.Valid`, `Utf8.encode_decode_iff`: the octets that are written again as they were read.
-/
import FlowIntake.Text.Utf8

namespace FlowIntake.Utf8

/-! ## 1. First octets and later ones -/

/-- The first of two octets announces the other and carries five bits. -/
theorem begins_two : ∀ k < 0x20, 2 ≤ k →
    begins (UInt8.ofNat (0xC0 + k)) = some ⟨1, 0x80, 0xBF, k⟩ := by
  decide

/-- The first of three octets carries four bits.  It bounds the second so that neither a shorter
form nor half of a surrogate pair is read. -/
theorem begins_three : ∀ k < 0x10,
    begins (UInt8.ofNat (0xE0 + k))
      = some ⟨2, if k = 0 then 0xA0 else 0x80, if k = 0xD then 0x9F else 0xBF, k⟩ := by
  decide

/-- The first of four octets carries three bits, and bounds the second so that no shorter form
and nothing beyond the last character is read. -/
theorem begins_four : ∀ k < 5,
    begins (UInt8.ofNat (0xF0 + k))
      = some ⟨3, if k = 0 then 0x90 else 0x80, if k = 4 then 0x8F else 0xBF, k⟩ := by
  decide

theorem toNat_ofNat_of_lt {k : Nat} (h : k < 256) : (UInt8.ofNat k).toNat = k := by
  rw [UInt8.toNat_ofNat', Nat.mod_eq_of_lt h]

/-- Where a character may begin, an octet below 0x80 is one. -/
theorem step_single {text : List Char} {k : Nat} (hk : k < 0x80) :
    Decoder.step ⟨text, none⟩ (UInt8.ofNat k) = ⟨Char.ofNat k :: text, none⟩ := by
  have hb : (UInt8.ofNat k).toNat = k := toNat_ofNat_of_lt (by omega)
  have hlt : UInt8.ofNat k < 0x80 := by
    rw [UInt8.lt_iff_toNat_lt, hb]
    exact hk
  simp only [Decoder.step, Decoder.first, hlt, if_true, hb]

/-- Where a character may begin, an octet that begins more than one is kept as begun. -/
theorem step_begins {text : List Char} {k : Nat} {p : Pending} (hk : 0x80 ≤ k) (hk' : k < 256)
    (h : begins (UInt8.ofNat k) = some p) :
    Decoder.step ⟨text, none⟩ (UInt8.ofNat k) = ⟨text, some p⟩ := by
  have hge : ¬UInt8.ofNat k < 0x80 := by
    rw [UInt8.lt_iff_toNat_lt, toNat_ofNat_of_lt hk']
    exact Nat.not_lt.mpr hk
  simp [Decoder.step, Decoder.first, hge, h]

/-- An octet in the range that is owed adds its six bits. -/
theorem step_continues {text : List Char} {p : Pending} {k : Nat} (hk : k < 0x40)
    (hlow : p.low.toNat ≤ 0x80 + k) (hhigh : 0x80 + k ≤ p.high.toNat) :
    Decoder.step ⟨text, some p⟩ (UInt8.ofNat (0x80 + k))
      = if p.owed = 1 then ⟨Char.ofNat (p.code * 0x40 + k) :: text, none⟩
        else ⟨text, some ⟨p.owed - 1, 0x80, 0xBF, p.code * 0x40 + k⟩⟩ := by
  have hb : (UInt8.ofNat (0x80 + k)).toNat = 0x80 + k := toNat_ofNat_of_lt (by omega)
  have hin : p.low ≤ UInt8.ofNat (0x80 + k) ∧ UInt8.ofNat (0x80 + k) ≤ p.high := by
    rw [UInt8.le_iff_toNat_le, UInt8.le_iff_toNat_le, hb]
    exact ⟨hlow, hhigh⟩
  have hsub : 0x80 + k - 0x80 = k := by omega
  simp only [Decoder.step, hin, and_self, if_true, hb, hsub]

/-- After the second octet no range is narrower than the six bits. -/
theorem step_continues_plain {text : List Char} {owed code k : Nat} (hk : k < 0x40) :
    Decoder.step ⟨text, some ⟨owed, 0x80, 0xBF, code⟩⟩ (UInt8.ofNat (0x80 + k))
      = if owed = 1 then ⟨Char.ofNat (code * 0x40 + k) :: text, none⟩
        else ⟨text, some ⟨owed - 1, 0x80, 0xBF, code * 0x40 + k⟩⟩ :=
  step_continues hk (Nat.le_add_right _ _) (Nat.add_le_add_left (Nat.le_of_lt_succ hk) 0x80)

/-! ## 2. Characters and texts

A code of `n` is cut into groups of six bits, the first octet taking what is left of them.  The
bounds on the second octet are where the forms differ. -/

/-- Two octets give back a code of eleven bits. -/
theorem foldl_step_two {n : Nat} (text : List Char) (hlow : 0x80 ≤ n) (hhigh : n < 0x800) :
    [UInt8.ofNat (0xC0 + n / 0x40), UInt8.ofNat (0x80 + n % 0x40)].foldl Decoder.step ⟨text, none⟩
      = ⟨Char.ofNat n :: text, none⟩ := by
  have hbits : n / 0x40 * 0x40 + n % 0x40 = n := by omega
  rw [List.foldl_cons, List.foldl_cons, List.foldl_nil,
    step_begins (by omega) (by omega) (begins_two (n / 0x40) (by omega) (by omega)),
    step_continues_plain (by omega)]
  simp only [if_true, hbits]

/-- Three octets give back a code of sixteen bits that is no surrogate. -/
theorem foldl_step_three {n : Nat} (text : List Char) (hlow : 0x800 ≤ n) (hhigh : n < 0x10000)
    (hvalid : n < 0xD800 ∨ 0xDFFF < n) :
    [UInt8.ofNat (0xE0 + n / 0x1000), UInt8.ofNat (0x80 + n / 0x40 % 0x40),
        UInt8.ofNat (0x80 + n % 0x40)].foldl Decoder.step ⟨text, none⟩
      = ⟨Char.ofNat n :: text, none⟩ := by
  have hbits : (n / 0x1000 * 0x40 + n / 0x40 % 0x40) * 0x40 + n % 0x40 = n := by omega
  have hleast : (if n / 0x1000 = 0 then 0xA0 else 0x80 : UInt8).toNat
      ≤ 0x80 + n / 0x40 % 0x40 := by
    split
    · show 0xA0 ≤ _
      omega
    · show 0x80 ≤ _
      omega
  have hgreatest : 0x80 + n / 0x40 % 0x40
      ≤ (if n / 0x1000 = 0xD then 0x9F else 0xBF : UInt8).toNat := by
    split
    · show _ ≤ 0x9F
      omega
    · show _ ≤ 0xBF
      omega
  rw [List.foldl_cons, List.foldl_cons, List.foldl_cons, List.foldl_nil,
    step_begins (by omega) (by omega) (begins_three (n / 0x1000) (by omega)),
    step_continues (by omega) hleast hgreatest, if_neg (show ¬2 = 1 by decide),
    step_continues_plain (by omega)]
  simp only [if_true, hbits]

/-- Four octets give back a code above sixteen bits. -/
theorem foldl_step_four {n : Nat} (text : List Char) (hlow : 0x10000 ≤ n) (hhigh : n < 0x110000) :
    [UInt8.ofNat (0xF0 + n / 0x40000), UInt8.ofNat (0x80 + n / 0x1000 % 0x40),
        UInt8.ofNat (0x80 + n / 0x40 % 0x40), UInt8.ofNat (0x80 + n % 0x40)].foldl
          Decoder.step ⟨text, none⟩
      = ⟨Char.ofNat n :: text, none⟩ := by
  have hbits : ((n / 0x40000 * 0x40 + n / 0x1000 % 0x40) * 0x40 + n / 0x40 % 0x40) * 0x40
      + n % 0x40 = n := by omega
  have hleast : (if n / 0x40000 = 0 then 0x90 else 0x80 : UInt8).toNat
      ≤ 0x80 + n / 0x1000 % 0x40 := by
    split
    · show 0x90 ≤ _
      omega
    · show 0x80 ≤ _
      omega
  have hgreatest : 0x80 + n / 0x1000 % 0x40
      ≤ (if n / 0x40000 = 4 then 0x8F else 0xBF : UInt8).toNat := by
    split
    · show _ ≤ 0x8F
      omega
    · show _ ≤ 0xBF
      omega
  rw [List.foldl_cons, List.foldl_cons, List.foldl_cons, List.foldl_cons, List.foldl_nil,
    step_begins (by omega) (by omega) (begins_four (n / 0x40000) (by omega)),
    step_continues (by omega) hleast hgreatest, if_neg (show ¬3 = 1 by decide),
    step_continues_plain (by omega),
    if_neg (show ¬3 - 1 = 1 by decide),
    step_continues_plain (by omega)]
  simp only [if_true, hbits]

/-- **The octets of a character are read as that character**, whatever has been read before. -/
theorem foldl_step_encodeChar (c : Char) (text : List Char) :
    (encodeChar c).foldl Decoder.step ⟨text, none⟩ = ⟨c :: text, none⟩ := by
  have hvalid : c.toNat < 0xD800 ∨ (0xDFFF < c.toNat ∧ c.toNat < 0x110000) := c.valid
  have hc : Char.ofNat c.toNat = c := Char.ofNat_toNat c
  unfold encodeChar
  dsimp only
  split
  · rename_i h1
    rw [List.foldl_cons, List.foldl_nil, step_single h1, hc]
  · split
    · rename_i h1 h2
      rw [foldl_step_two text (by omega) h2, hc]
    · split
      · rename_i h1 h2 h3
        rw [foldl_step_three text (by omega) h3 (by omega), hc]
      · rename_i h1 h2 h3
        rw [foldl_step_four text (by omega) (by omega), hc]

theorem foldl_step_flatMap (cs text : List Char) :
    (cs.flatMap encodeChar).foldl Decoder.step ⟨text, none⟩ = ⟨cs.reverse ++ text, none⟩ := by
  induction cs generalizing text with
  | nil => rfl
  | cons c cs ih =>
    rw [List.flatMap_cons, List.foldl_append, foldl_step_encodeChar, ih, List.reverse_cons,
      List.append_assoc, List.singleton_append]

/-- **A text is read back as it was written.** -/
theorem decode_encode (s : String) : decode (encode s) = s := by
  rw [decode, encode, foldl_step_flatMap, List.append_nil]
  simp [Decoder.finish]

/-- The octets are those of a text. -/
def Valid (bs : Bytes) : Prop := ∃ s, encode s = bs

/-- **Octets are written again as they were read when they are those of a text**, and only then. -/
theorem encode_decode_iff {bs : Bytes} : encode (decode bs) = bs ↔ Valid bs := by
  constructor
  · intro heq
    exact ⟨decode bs, heq⟩
  · rintro ⟨s, rfl⟩
    rw [decode_encode]

end FlowIntake.Utf8
