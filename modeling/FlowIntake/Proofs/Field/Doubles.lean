/-
# Doubles survive the wire

A double may be written in four octets, as a single, or in eight.  What was read from four is the
double of the same number: in four octets it is written by those it was read from, and in eight by
others that are read as the same double.  Nothing is said of four octets that are a NaN.

* `DataType.doubleTypes`: the types whose values are doubles;
* `DataType.decode_single`, `DataType.decode_double`, `Value.encode?_single`: how a double is read,
  and written again;
* `Value.doubles_survive_wire`: both widths, and no two singles alike.
-/
import FlowIntake.Proofs.Decimal.Widening
import FlowIntake.Proofs.Field.WireForm

namespace FlowIntake

open Interchange

/-! ## 1. From octets -/

namespace DataType

/-- The types whose values are doubles. -/
def doubleTypes : List DataType := [float32, float64]

variable {t : DataType} {bs : Bytes}

theorem accepts_single (ht : t ∈ doubleTypes) : t.Accepts 4 := by
  simp only [doubleTypes, List.mem_cons, List.not_mem_nil, or_false] at ht
  rcases ht with rfl | rfl <;> decide

/-- Four octets are a single. -/
theorem interpret_single (ht : t ∈ doubleTypes) (hlength : bs.length = 4) :
    t.interpret bs = some (.float (Binary32.widen (UInt32.ofNat bs.value))) := by
  simp only [doubleTypes, List.mem_cons, List.not_mem_nil, or_false] at ht
  rcases ht with rfl | rfl
  · rfl
  · rw [interpret, if_pos hlength]

/-- Eight octets are the double itself. -/
theorem interpret_double (hlength : bs.length = 8) :
    float64.interpret bs = some (.float (UInt64.ofNat bs.value)) := by
  have hlong : ¬bs.length = 4 := by omega
  rw [interpret, if_neg hlong]

/-- **A single is read as the double of the same number.** -/
theorem decode_single (name : String) (ht : t ∈ doubleTypes) (b : UInt32) :
    t.decode name 4 (Cursor.ofBytes (Bytes.ofNat 4 b.toNat))
      = .ok (.float (Binary32.widen b)) ⟨4, []⟩ := by
  have hlength : (Bytes.ofNat 4 b.toNat).length = 4 := Bytes.length_ofNat 4 _
  have haccepts : t.Accepts (Bytes.ofNat 4 b.toNat).length := hlength ▸ accepts_single ht
  have hread := decode_ofBytes name haccepts (interpret_single ht hlength)
  rwa [hlength, Value.ofNat_value_u32] at hread

/-- **A double is read as it is.** -/
theorem decode_double (name : String) (bits : UInt64) :
    float64.decode name 8 (Cursor.ofBytes (Bytes.ofNat 8 bits.toNat))
      = .ok (.float bits) ⟨8, []⟩ := by
  have hlength : (Bytes.ofNat 8 bits.toNat).length = 8 := Bytes.length_ofNat 8 _
  have haccepts : float64.Accepts (Bytes.ofNat 8 bits.toNat).length := by
    rw [hlength]
    decide
  have hread := decode_ofBytes name haccepts (interpret_double hlength)
  rwa [hlength, Value.ofNat_value_u64 (n := 8) bits bits.toNat_lt] at hread

end DataType

/-! ## 2. To octets and back -/

namespace Bytes

/-- Four octets are those of a number of 32 bits. -/
theorem exists_u32 {bs : Bytes} (h : bs.length = 4) :
    ∃ b : UInt32, bs = ofNat 4 b.toNat ∧ bs.value = b.toNat :=
  ⟨UInt32.ofNat bs.value, (ofNat_u32 h).symm, (toNat_u32 h).symm⟩

/-- Eight octets are those of a number of 64 bits. -/
theorem exists_u64 {bs : Bytes} (h : bs.length = 8) :
    ∃ b : UInt64, bs = ofNat 8 b.toNat ∧ bs.value = b.toNat := by
  have hback := ofNat_u64 (Nat.le_of_eq h)
  rw [h] at hback
  exact ⟨UInt64.ofNat bs.value, hback.symm, (toNat_u64 (Nat.le_of_eq h)).symm⟩

end Bytes

namespace Value

/-- **A single is written by the octets it was read from.** -/
theorem encode?_single {b : UInt32} (hnan : binary32.datum b.toNat ≠ .nan) :
    (float (Binary32.widen b)).encode? 4 = some (Bytes.ofNat 4 b.toNat) := by
  rw [encode?, if_pos rfl, Binary64.narrow_widen hnan]

/-- **Doubles survive the wire.**  Four octets that are no NaN are read as the one double of the
same number, signs of zeros and infinities included.  It is written again by the same four octets,
and by eight that are read as the same double.  Eight octets are read as the double whose bits they
are and written again as they are.  Different fours are read as different doubles. -/
theorem doubles_survive_wire (name : String) :
    (∀ (t : DataType) (bs : Bytes), t ∈ DataType.doubleTypes → bs.length = 4 →
      binary32.datum bs.value ≠ .nan →
      ∃ bits, t.decode name 4 (Cursor.ofBytes bs) = .ok (.float bits) ⟨4, []⟩ ∧
        (∀ other : UInt64, binary64.datum other.toNat = binary32.datum bs.value ↔ other = bits) ∧
        (float bits).encode? 4 = some bs ∧
        ∃ wide, (float bits).encode? 8 = some wide ∧ wide.length = 8 ∧
          DataType.float64.decode name 8 (Cursor.ofBytes wide) = .ok (.float bits) ⟨8, []⟩) ∧
    (∀ bs : Bytes, bs.length = 8 →
      ∃ bits, DataType.float64.decode name 8 (Cursor.ofBytes bs) = .ok (.float bits) ⟨8, []⟩ ∧
        bits.toNat = bs.value ∧ (float bits).encode? 8 = some bs) ∧
    ∀ (t t' : DataType) (bs bs' : Bytes) (bits : UInt64) (c c' : Cursor),
      t ∈ DataType.doubleTypes → t' ∈ DataType.doubleTypes → bs.length = 4 → bs'.length = 4 →
      binary32.datum bs.value ≠ .nan → binary32.datum bs'.value ≠ .nan →
      t.decode name 4 (Cursor.ofBytes bs) = .ok (.float bits) c →
      t'.decode name 4 (Cursor.ofBytes bs') = .ok (.float bits) c' → bs = bs' := by
  refine ⟨?_, ?_, ?_⟩
  · intro t bs ht hlength hnan
    obtain ⟨b, rfl, hvalue⟩ := Bytes.exists_u32 hlength
    rw [hvalue] at hnan ⊢
    exact ⟨_, DataType.decode_single name ht b, Binary32.datum_eq_iff hnan, encode?_single hnan,
      _, rfl, Bytes.length_ofNat 8 _, DataType.decode_double name _⟩
  · intro bs hlength
    obtain ⟨bits, rfl, hvalue⟩ := Bytes.exists_u64 hlength
    exact ⟨bits, DataType.decode_double name bits, hvalue.symm, rfl⟩
  · intro t t' bs bs' bits c c' ht ht' hlength hlength' hnan hnan' hread hread'
    obtain ⟨b, rfl, hvalue⟩ := Bytes.exists_u32 hlength
    obtain ⟨b', rfl, hvalue'⟩ := Bytes.exists_u32 hlength'
    rw [hvalue] at hnan
    rw [hvalue'] at hnan'
    rw [DataType.decode_single name ht b] at hread
    rw [DataType.decode_single name ht' b'] at hread'
    cases hread
    injection hread' with hsame
    injection hsame with hwidened
    rw [Binary32.eq_of_widen_eq hnan' hnan hwidened]

/-- The smallest negative single: a double has room for its leading one, and it comes back. -/
theorem least_negative_survives :
    let bs : Bytes := [0x80, 0, 0, 1]
    let bits : UInt64 := 0xB6A0000000000000
    binary32.datum bs.value ≠ .nan ∧
      DataType.float64.decode "samplingProbability" 4 (Cursor.ofBytes bs)
        = .ok (.float bits) ⟨4, []⟩ ∧
      binary64.datum bits.toNat = binary32.datum bs.value ∧ (float bits).encode? 4 = some bs := by
  intro bs bits
  have hnan : binary32.datum bs.value ≠ .nan := by decide
  have hbits : Binary32.widen 0x80000001 = bits := by decide +kernel
  obtain ⟨hsingle, -, -⟩ := doubles_survive_wire "samplingProbability"
  obtain ⟨bits', hread, hnumber, hwritten, -⟩ := hsingle .float64 bs (by decide) rfl hnan
  have hthere := DataType.decode_single "samplingProbability" (t := .float64) (by decide) 0x80000001
  rw [hbits] at hthere
  cases hread.symm.trans hthere
  exact ⟨hnan, hread, (hnumber _).mpr rfl, hwritten⟩

end Value

end FlowIntake
