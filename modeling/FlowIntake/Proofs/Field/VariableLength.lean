/-
# Fields of variable length

Each occurrence of such a field announces how many octets it takes, in one octet or in three, and a
short length may be announced in either way.  The way makes no difference: the field is what the
same octets are in a field of that fixed length, a value or a failure.

* `Reader.answer`: what a reader answers, wherever it stops;
* `Field.decode_announced`: a field once its length has been announced;
* `DataType.answer_append`: the octets of a field decide what it is, and none after them;
* `Field.decode_variable`: both ways to announce a length, and a length that is cut off.
-/
import FlowIntake.Proofs.Wire.Locality

namespace FlowIntake

open Cursor (Announces)

/-! ## 1. The octets of a field -/

namespace Reader

variable {ε α : Type} {r : Reader ε α} {octets : Bytes}

/-- What a reader answers, without the place where it stops. -/
def answer (r : Reader ε α) (c : Cursor) : Except ε α :=
  match r c with
  | .ok a _ => .ok a
  | .error e _ => .error e

theorem Takes.answer_eq {a : α} (h : r.Takes octets a) (p : Nat) (rest : Bytes) :
    r.answer ⟨p, octets ++ rest⟩ = .ok a := by
  rw [answer, h]

theorem Refuses.answer_eq {e : ε} (h : r.Refuses octets e) (p : Nat) (rest : Bytes) :
    r.answer ⟨p, octets ++ rest⟩ = .error e := by
  obtain ⟨c, hc⟩ := h p rest
  rw [answer, hc]

end Reader

namespace DataType

variable (t : DataType) (name : String) (payload : Bytes)

/-- **The octets of a field decide what it is read as**, and whether it can be read; none after
them do, nor the place where they stand. -/
theorem answer_append (p : Nat) (rest : Bytes) :
    Reader.answer (t.decode name payload.length) ⟨p, payload ++ rest⟩
      = Reader.answer (t.decode name payload.length) (Cursor.ofBytes payload) := by
  have halone : Cursor.ofBytes payload = ⟨0, payload ++ []⟩ := by
    rw [Cursor.ofBytes, List.append_nil]
  rw [halone]
  rcases sized_decode t name payload.length payload rfl with ⟨v, htakes⟩ | ⟨e, -, hrefuses⟩
  · rw [htakes.answer_eq, htakes.answer_eq]
  · rw [hrefuses.answer_eq, hrefuses.answer_eq]

/-- A field that is read takes its octets and no others. -/
theorem cursor_append {rest : Bytes} {p : Nat} {v : Value} {c : Cursor}
    (h : t.decode name payload.length ⟨p, payload ++ rest⟩ = .ok v c) :
    c = ⟨p + payload.length, rest⟩ := by
  rcases sized_decode t name payload.length payload rfl with ⟨v', htakes⟩ | ⟨e, -, hrefuses⟩
  · rw [htakes] at h
    cases h
    rfl
  · obtain ⟨c', hc⟩ := hrefuses p rest
    rw [hc] at h
    cases h

end DataType

/-! ## 2. Announced lengths -/

namespace Field

/-- Of both ways to announce a length, the one that is written is the shorter. -/
theorem exists_shortest_lead {payload : Bytes} (hmax : payload.length ≤ maxFieldLength) :
    ∃ lead, Announces payload.length lead ∧ variableField payload = lead ++ payload ∧
      ∀ other, Announces payload.length other → lead.length ≤ other.length := by
  obtain ⟨lead, hannounces, hwritten, hsize⟩ := Cursor.exists_lead hmax
  refine ⟨lead, hannounces, hwritten, ?_⟩
  rintro other (hshort | -)
  · rw [hsize, Cursor.lengthSize, if_pos hshort]
    exact Nat.le_refl 1
  · rw [hsize, Cursor.lengthSize]
    split <;> simp

section Variable

variable {f : Field} (hvar : f.isVariable = true)

include hvar

/-- Once its length has been announced, a field is read like one of that fixed length. -/
theorem decode_announced {n : Nat} {lead : Bytes} (h : Announces n lead) (p : Nat) (rest : Bytes) :
    f.decode ⟨p, lead ++ rest⟩ = f.decodeSized n ⟨p + lead.length, rest⟩ := by
  rw [decode, if_pos hvar, Cursor.variableLength_announces h]

/-- A field fails with its length. -/
theorem decode_of_length_error {c c' : Cursor} {e : ReadError}
    (h : Cursor.variableLength c = .error e c') : f.decode c = .error (.read e) c' := by
  rw [decode, if_pos hvar, h]

/-- **How its length is announced makes no difference to a field.**  Whether in one octet or in
three, the field is what its octets are when they are read with that fixed length and nothing after
them, and where it is read the octets that follow are left.  What is written announces the length in
the shortest way.  A length that is cut off fails, and nothing is taken. -/
theorem decode_variable {payload : Bytes} (hmax : payload.length ≤ maxFieldLength) :
    (∀ lead, Announces payload.length lead → ∀ p rest,
      Reader.answer f.decode ⟨p, lead ++ payload ++ rest⟩
          = Reader.answer (f.element.type.decode f.element.name payload.length)
              (Cursor.ofBytes payload) ∧
        ∀ v c, f.decode ⟨p, lead ++ payload ++ rest⟩ = .ok v c →
          c = ⟨p + lead.length + payload.length, rest⟩) ∧
    (∃ lead, Announces payload.length lead ∧ variableField payload = lead ++ payload ∧
      ∀ other, Announces payload.length other → lead.length ≤ other.length) ∧
    ∀ p, f.decode ⟨p, []⟩ = .error (.read (.short 1 0)) ⟨p, []⟩ ∧
      ∀ cut : Bytes, cut.length ≤ 1 →
        f.decode ⟨p, 255 :: cut⟩ = .error (.read (.lengthCut cut.length)) ⟨p, 255 :: cut⟩ := by
  refine ⟨?_, exists_shortest_lead hmax, ?_⟩
  · intro lead hannounces p rest
    have hread := decode_announced hvar hannounces p (payload ++ rest)
    rw [← List.append_assoc] at hread
    constructor
    · rw [← DataType.answer_append _ _ payload (p + lead.length) rest, Reader.answer, hread]
      rfl
    · intro v c hok
      exact DataType.cursor_append _ _ payload (hread.symm.trans hok)
  · intro p
    refine ⟨decode_of_length_error hvar rfl, fun cut hcut => decode_of_length_error hvar ?_⟩
    -- No octet after 255, or one.
    rcases cut with _ | ⟨hi, _ | ⟨lo, later⟩⟩
    · rfl
    · rfl
    · simp only [List.length_cons] at hcut
      omega

end Variable

/-- A truth value of 3, its length of one announced in three octets: it fails as it does alone, and
the octet after it plays no part. -/
theorem decode_variable_boolean :
    let f : Field := ⟨⟨0, 276, "dataRecordsReliability", .boolean⟩, variableLength⟩
    let payload : Bytes := [3]
    f.isVariable = true ∧ payload.length ≤ maxFieldLength ∧
      Announces payload.length [255, 0, 1] ∧
      Reader.answer f.decode ⟨4, [255, 0, 1] ++ payload ++ [1]⟩
        = .error (.invalidBoolean "dataRecordsReliability" 3) := by
  intro f payload
  have hvar : f.isVariable = true := rfl
  have hmax : payload.length ≤ maxFieldLength := by decide
  have hlead : 255 :: Bytes.ofNat 2 payload.length = [255, 0, 1] := by decide
  have hlong : Announces payload.length [255, 0, 1] := hlead ▸ .long hmax
  obtain ⟨hread, -, -⟩ := decode_variable hvar hmax
  exact ⟨hvar, hmax, hlong, (hread _ hlong 4 [1]).1⟩

end Field

end FlowIntake
