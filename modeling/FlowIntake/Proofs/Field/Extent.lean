/-
# A field takes its octets or nothing

A field is cut out of what encloses it before anything in it is read.  It fails with its length or
because it is not all there, and then takes nothing; or it takes exactly its octets.  What is in it
is read from these octets alone, in one part or in two.  The parts are never too long for a length
that the data type accepts, and never leave anything of it, so that an overrun says that what
encloses the field was too short and nothing else.

* `Cursor.past`: the place behind a field;
* `DataType.readInside`: a field part by part, from the octets that were cut out for it;
* `DataType.readInside_eq`: the parts are all of the field, and come to what its octets mean;
* `DataType.decode_of_room`: a field that is there is what its parts are;
* `DataType.decode_extent`: how a field ends, and where.
-/
import FlowIntake.Proofs.Field.WireForm
import FlowIntake.Proofs.Packet.Overrun
import FlowIntake.Proofs.Wire.Confinement

namespace FlowIntake

/-! ## 1. Reads inside a field -/

/-- The place `n` octets further on. -/
def Cursor.past (c : Cursor) (n : Nat) : Cursor := ⟨c.position + n, c.rest.drop n⟩

/-- A read inside a field, whose failures are the field's. -/
def Reader.inField {α : Type} (r : Reader ReadError α) : Reader FieldError α :=
  EStateM.adaptExcept .read r

theorem Reader.inField_ok {α : Type} {r : Reader ReadError α} {c c' : Cursor} {a : α}
    (h : r c = .ok a c') : r.inField c = .ok a c' := by
  simp only [inField, EStateM.adaptExcept, h]

/-- Two numbers of four octets are all of a field of eight. -/
theorem Reader.two_parts {octets : Bytes} (h : octets.length = 8) (g : UInt32 → UInt32 → Value) :
    (do
      let s ← Cursor.u32.inField
      let fraction ← Cursor.u32.inField
      return g s fraction : Reader FieldError Value) (Cursor.ofBytes octets)
      = .ok (g (UInt32.ofNat (Bytes.value (octets.take 4)))
          (UInt32.ofNat (Bytes.value (octets.drop 4)))) ⟨8, []⟩ := by
  obtain ⟨hfront, hback⟩ := Bytes.length_halves h
  have hnumber : Cursor.Makes Cursor.u32 4 fun bs => UInt32.ofNat bs.value :=
    (Cursor.makes_take 4).map _
  have hfirst := hnumber.ok _ 0 (octets.drop 4) hfront
  have hsecond := hnumber.ok _ (0 + 4) [] hback
  rw [List.append_nil] at hsecond
  have hstart : Cursor.ofBytes octets = ⟨0, octets.take 4 ++ octets.drop 4⟩ := by
    rw [List.take_append_drop]
    rfl
  rw [hstart, bind_ok (inField_ok hfirst), bind_ok (inField_ok hsecond)]
  rfl

namespace DataType

open Reader

/-- Reads the value of a field of `n` octets, part by part, from the octets that were cut out for
it. -/
def readInside (t : DataType) (name : String) (n : Nat) : Reader FieldError Value :=
  match t with
  | unsigned8 | unsigned16 | unsigned32 | unsigned64 => .unsigned <$> (Cursor.uint n).inField
  | signed8 | signed16 | signed32 | signed64 => .signed <$> (Cursor.int n).inField
  | float32 => (fun bits => .float (Binary32.widen bits)) <$> Cursor.u32.inField
  | float64 =>
    if n = 4 then (fun bits => .float (Binary32.widen bits)) <$> Cursor.u32.inField
    else .float <$> (Cursor.uint 8).inField
  | boolean => do
    let b ← Cursor.u8.inField
    if b = 1 then return .boolean true
    else if b = 2 then return .boolean false
    else throw (.invalidBoolean name b)
  | macAddress => .mac <$> (Cursor.octets 6).inField
  | octetArray | basicList | subTemplateList | subTemplateMultiList =>
    .octets <$> (Cursor.take n).inField
  | string => (fun bs => .text (Utf8.decode bs)) <$> (Cursor.take n).inField
  | dateTimeSeconds => .seconds <$> Cursor.u32.inField
  | dateTimeMilliseconds => .milliseconds <$> (Cursor.uint 8).inField
  | dateTimeMicroseconds => do
    let s ← Cursor.u32.inField
    let fraction ← Cursor.u32.inField
    return .microseconds s (fraction &&& microsecondMask)
  | dateTimeNanoseconds => do
    let s ← Cursor.u32.inField
    let fraction ← Cursor.u32.inField
    return .nanoseconds s fraction
  | ipv4Address => .ipv4 <$> (Cursor.octets 4).inField
  | ipv6Address => .ipv6 <$> (Cursor.octets 16).inField

theorem ofNat_value_singleton (b : UInt8) : UInt8.ofNat (Bytes.value [b]) = b := by
  simp [Bytes.value]

/-- The one octet of a truth value, by the octet. -/
theorem interpret_boolean (b : UInt8) :
    boolean.interpret [b]
      = if b = 1 then some (.boolean true) else if b = 2 then some (.boolean false) else none := by
  have hvalue : Bytes.value [b] = b.toNat := by simp [Bytes.value]
  by_cases hyes : b = 1
  · subst hyes
    rfl
  · by_cases hno : b = 2
    · subst hno
      rfl
    · have h1 : b.toNat ≠ 1 := fun h => hyes (UInt8.toNat_inj.mp h)
      have h2 : b.toNat ≠ 2 := fun h => hno (UInt8.toNat_inj.mp h)
      rw [if_neg hyes, if_neg hno, interpret, hvalue]
      split
      · contradiction
      · contradiction
      · rfl

variable {t : DataType} (name : String)

/-- **The parts of a field are all of it**, and come to what its octets mean, whichever length the
data type accepts. -/
theorem readInside_eq {octets : Bytes} (ha : t.Accepts octets.length) :
    t.readInside name octets.length (Cursor.ofBytes octets)
      = match t.interpret octets with
        | some v => .ok v ⟨octets.length, []⟩
        | none =>
          .error (.invalidBoolean name (UInt8.ofNat octets.value)) ⟨octets.length, []⟩ := by
  obtain ⟨hmin, hmax, hdouble⟩ := ha
  have hwhole := (Cursor.makes_take octets.length).all rfl
  cases t with
  | unsigned8 | unsigned16 | unsigned32 | unsigned64 | signed8 | signed16 | signed32 | signed64 =>
    exact map_ok (inField_ok (map_ok hwhole))
  | octetArray | basicList | subTemplateList | subTemplateMultiList | string =>
    exact map_ok (inField_ok hwhole)
  | float32 | macAddress | dateTimeSeconds | dateTimeMilliseconds | ipv4Address | ipv6Address =>
    have hlength := Nat.le_antisymm hmax hmin
    rw [hlength] at hwhole ⊢
    exact map_ok (inField_ok (map_ok hwhole))
  | float64 =>
    rcases hdouble rfl with hlength | hlength
    · rw [readInside, interpret, if_pos hlength, if_pos hlength]
      rw [hlength] at hwhole ⊢
      exact map_ok (inField_ok (map_ok hwhole))
    · have hlong : octets.length ≠ 4 := by omega
      rw [readInside, interpret, if_neg hlong, if_neg hlong]
      rw [hlength] at hwhole ⊢
      exact map_ok (inField_ok (map_ok hwhole))
  | boolean =>
    obtain ⟨b, rfl⟩ := List.length_eq_one_iff.mp (Nat.le_antisymm hmax hmin)
    have hread : Cursor.u8 (Cursor.ofBytes [b]) = .ok (UInt8.ofNat (Bytes.value [b])) ⟨1, []⟩ :=
      map_ok ((Cursor.makes_take 1).all rfl)
    rw [ofNat_value_singleton] at hread
    rw [readInside, bind_ok (inField_ok hread), interpret_boolean, ofNat_value_singleton]
    split
    · rfl
    · split <;> rfl
  | dateTimeMicroseconds =>
    have hlength : octets.length = 8 := Nat.le_antisymm hmax hmin
    rw [hlength]
    exact two_parts hlength _
  | dateTimeNanoseconds =>
    have hlength : octets.length = 8 := Nat.le_antisymm hmax hmin
    rw [hlength]
    exact two_parts hlength _

/-- Of an accepted length, only a truth value may have no value. -/
theorem interpret_eq_none_iff {octets : Bytes} (ha : t.Accepts octets.length) :
    t.interpret octets = none ↔ t = .boolean ∧ ∃ b, octets = [b] ∧ b ≠ 1 ∧ b ≠ 2 := by
  obtain ⟨hmin, hmax, -⟩ := ha
  constructor
  · intro hnone
    cases t with
    | boolean =>
      obtain ⟨b, rfl⟩ := List.length_eq_one_iff.mp (Nat.le_antisymm hmax hmin)
      rw [interpret_boolean] at hnone
      refine ⟨rfl, b, rfl, ?_, ?_⟩
      · rintro rfl
        cases hnone
      · rintro rfl
        cases hnone
    | _ => cases hnone
  · rintro ⟨rfl, b, rfl, hyes, hno⟩
    rw [interpret_boolean, if_neg hyes, if_neg hno]

/-- What is in a field is read to its last octet, unless it is a truth value that is neither 1 nor
2; and then it has been read too. -/
theorem readInside_cases {octets : Bytes} (ha : t.Accepts octets.length) :
    (∃ v, t.readInside name octets.length (Cursor.ofBytes octets) = .ok v ⟨octets.length, []⟩ ∧
        ∀ b, t = .boolean → octets = [b] → b = 1 ∨ b = 2) ∨
      ∃ b, t = .boolean ∧ octets = [b] ∧ b ≠ 1 ∧ b ≠ 2 ∧
        t.readInside name octets.length (Cursor.ofBytes octets)
          = .error (.invalidBoolean name b) ⟨octets.length, []⟩ := by
  have hinside := readInside_eq name ha
  cases hv : t.interpret octets with
  | some v =>
    rw [hv] at hinside
    refine Or.inl ⟨v, hinside, fun b ht hoctets => ?_⟩
    by_contra hother
    obtain ⟨hyes, hno⟩ := not_or.mp hother
    have hnone := (interpret_eq_none_iff ha).mpr ⟨ht, b, hoctets, hyes, hno⟩
    rw [hv] at hnone
    cases hnone
  | none =>
    obtain ⟨ht, b, rfl, hyes, hno⟩ := (interpret_eq_none_iff ha).mp hv
    rw [hv, ofNat_value_singleton] at hinside
    exact Or.inr ⟨b, ht, rfl, hyes, hno, hinside⟩

/-! ## 2. Fields -/

variable {n : Nat} {c : Cursor}

theorem decode_of_refused (ha : ¬t.Accepts n) :
    t.decode name n c = .error (.invalidLength name n t.minLength t.maxLength) c :=
  if_neg ha

theorem decode_of_short (ha : t.Accepts n) (hshort : c.remaining < n) :
    t.decode name n c = .error (.read (.short n c.remaining)) c := by
  rw [decode, if_pos ha, Cursor.take_eq, if_neg (Nat.not_le.mpr hshort)]

/-- **A field that is there is what its parts are**, and its octets are passed over whatever they
are. -/
theorem decode_of_room (ha : t.Accepts n) (hroom : n ≤ c.remaining) :
    t.decode name n c
      = match t.readInside name n (Cursor.ofBytes (c.rest.take n)) with
        | .ok v _ => .ok v (c.past n)
        | .error e _ => .error e (c.past n) := by
  have hlength : (c.rest.take n).length = n := List.length_take_of_le hroom
  have hinside := readInside_eq name (hlength.symm ▸ ha)
  rw [hlength] at hinside
  rw [hinside, decode, if_pos ha, Cursor.take_eq, if_pos hroom]
  cases hv : t.interpret (c.rest.take n) <;> simp only [hv, Cursor.past]

/-- **A field takes its octets or nothing.**  It fails with its length exactly when the data type
does not accept it, and otherwise because octets are missing exactly when they are; either failure
leaves the place.  Otherwise it is behind its octets afterwards, whatever they are and whatever
follows them, and its parts have been read from them, without fail and to the last octet; what may
still fail is a truth value that is neither 1 nor 2.  So an overrun says that the length was
accepted and what encloses the field was too short for it. -/
theorem decode_extent (t : DataType) (name : String) (n : Nat) (c : Cursor) :
    (t.decode name n c = .error (.invalidLength name n t.minLength t.maxLength) c
        ↔ ¬t.Accepts n) ∧
    (t.decode name n c = .error (.read (.short n c.remaining)) c
        ↔ t.Accepts n ∧ c.remaining < n) ∧
    (t.Accepts n → n ≤ c.remaining →
      let octets := c.rest.take n
      let inside := t.readInside name n (Cursor.ofBytes octets)
      (∃ v, inside = .ok v ⟨n, []⟩ ∧ t.decode name n c = .ok v (c.past n) ∧
          ∀ b, t = .boolean → octets = [b] → b = 1 ∨ b = 2) ∨
        ∃ b, t = .boolean ∧ octets = [b] ∧ b ≠ 1 ∧ b ≠ 2 ∧
          inside = .error (.invalidBoolean name b) ⟨n, []⟩ ∧
          t.decode name n c = .error (.invalidBoolean name b) (c.past n)) ∧
    ∀ e c', t.decode name n c = .error e c' →
      (e.IsOverrun ↔ t.Accepts n ∧ c.remaining < n) := by
  refine ⟨⟨?_, decode_of_refused name⟩, ⟨?_, fun h => decode_of_short name h.1 h.2⟩, ?_, ?_⟩
  · intro hrefused ha
    rw [decode, if_pos ha] at hrefused
    split at hrefused
    · cases hrefused
    · split at hrefused <;> cases hrefused
  · intro hshort
    have hover := isOverrun_iff hshort
    exact (hover.mp trivial).symm
  · intro ha hroom octets inside
    have hlength : octets.length = n := List.length_take_of_le hroom
    have hcases := readInside_cases name (hlength.symm ▸ ha)
    rw [hlength] at hcases
    have hdecode := decode_of_room name ha hroom
    rcases hcases with ⟨v, hinside, htruth⟩ | ⟨b, ht, hoctets, hyes, hno, hinside⟩
    · rw [hinside] at hdecode
      exact Or.inl ⟨v, hinside, hdecode, htruth⟩
    · rw [hinside] at hdecode
      exact Or.inr ⟨b, ht, hoctets, hyes, hno, hinside, hdecode⟩
  · intro e c' herror
    rw [isOverrun_iff herror, and_comm]

/-- A truth value of 3 is passed over, and the octet after it is left.  A double of five octets fails
with its length although none of them is there. -/
theorem wrong_truth_value_is_taken :
    let c : Cursor := ⟨2, [3, 1]⟩
    boolean.Accepts 1 ∧ 1 ≤ c.remaining ∧
      boolean.decode "dataRecordsReliability" 1 c
        = .error (.invalidBoolean "dataRecordsReliability" 3) ⟨3, [1]⟩ ∧
      float64.decode "absoluteError" 5 ⟨0, []⟩
        = .error (.invalidLength "absoluteError" 5 4 8) ⟨0, []⟩ := by
  intro c
  have ha : boolean.Accepts 1 := by decide
  have hroom : 1 ≤ c.remaining := by decide
  obtain ⟨-, -, htruth, -⟩ := decode_extent boolean "dataRecordsReliability" 1 c
  obtain ⟨hlength, -⟩ := decode_extent float64 "absoluteError" 5 ⟨0, []⟩
  refine ⟨ha, hroom, ?_, hlength.mpr (by decide)⟩
  rcases htruth ha hroom with ⟨v, -, -, hvalid⟩ | ⟨b, -, hoctets, -, -, -, hdecode⟩
  · exact absurd (hvalid 3 rfl rfl) (by decide)
  · obtain rfl : 3 = b := (List.cons.inj hoctets).1
    exact hdecode

end DataType

end FlowIntake
