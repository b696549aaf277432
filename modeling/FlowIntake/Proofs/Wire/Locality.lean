/-
# What a reader takes decides what it reads

A reader that succeeds has taken octets off the front.  The same octets give the same result
wherever they stand and whatever follows them, so that a record can be cut out of its set and read
on its own.

* `Reader.Local`: a reader that looks at nothing but what it takes;
* `Reader.local_bind`: readers in sequence are local when each of them is;
* `Cursor.local_take`, `Cursor.local_variableLength`: the reads that fields are made of;
* `DataType.local_decode`, `Field.local_decode`, `local_readRecord`: fields and records;
* `Reader.Placeless`, `placeless_readRecord`: where the octets stand decides no failure either;
* `Reader.Takes`, `Reader.Refuses`, `Reader.Sized`: readers that look at a given number of octets.
-/
import FlowIntake.Packet.Sets
import FlowIntake.Proofs.Field.RoundTrip
import FlowIntake.Proofs.Wire.Reads

namespace FlowIntake

namespace Reader

variable {ε α β : Type}

/-- Whenever the reader succeeds it has taken octets off the front, and it reads the same from these
octets at any place and before any others. -/
def Local (r : Reader ε α) : Prop :=
  ∀ c a c', r c = .ok a c' →
    ∃ bs, c.rest = bs ++ c'.rest ∧
      ∀ p rest, r ⟨p, bs ++ rest⟩ = .ok a ⟨p + bs.length, rest⟩

theorem local_pure (a : α) : Local (pure a : Reader ε α) := by
  intro c b c' h
  cases h
  exact ⟨[], rfl, fun p rest => rfl⟩

theorem local_bind {r : Reader ε α} {f : α → Reader ε β} (hr : Local r) (hf : ∀ a, Local (f a)) :
    Local (r >>= f) := by
  intro c b c' h
  obtain ⟨a, c₁, hfirst, hlater⟩ := bind_ok_iff.mp h
  obtain ⟨bs, hrest, hread⟩ := hr c a c₁ hfirst
  obtain ⟨bs', hrest', hread'⟩ := hf a c₁ b c' hlater
  refine ⟨bs ++ bs', ?_, ?_⟩
  · rw [hrest, hrest', List.append_assoc]
  · intro p rest
    rw [List.append_assoc, bind_ok (hread p _), hread', List.length_append, Nat.add_assoc]

end Reader

open Reader

theorem Cursor.local_take (n : Nat) : Local (take n) := by
  intro c bs c' h
  obtain ⟨hrest, rfl, -⟩ := take_ok_iff.mp h
  exact ⟨bs, hrest, fun p rest => take_append p bs rest⟩

theorem Cursor.local_variableLength : Local variableLength := by
  intro c n c' h
  unfold variableLength at h
  split at h
  · cases h
  · rename_i b rest hrest
    split at h
    · rename_i hshort
      cases h
      refine ⟨[b], hrest, fun p rest' => ?_⟩
      simp [variableLength, hshort]
    · rename_i hlong
      rcases rest with _ | ⟨hi, _ | ⟨lo, rest⟩⟩
      · cases h
      · cases h
      · cases h
        refine ⟨[b, hi, lo], hrest, fun p rest' => ?_⟩
        simp [variableLength, hlong]

theorem DataType.local_decode (t : DataType) (name : String) (n : Nat) :
    Local (t.decode name n) := by
  intro c v c' h
  unfold DataType.decode at h
  split at h
  · rename_i haccepts
    split at h
    · cases h
    · rename_i bs c₁ htake
      split at h
      · rename_i v' hvalue
        cases h
        obtain ⟨bs', hrest, hread⟩ := Cursor.local_take n c bs c' htake
        refine ⟨bs', hrest, fun p rest => ?_⟩
        rw [DataType.decode, if_pos haccepts, hread]
        simp only [hvalue]
      · cases h
  · cases h

theorem Field.local_decode (f : Field) : Local f.decode := by
  intro c v c' h
  unfold Field.decode at h
  cases hvar : f.isVariable with
  | true =>
    rw [hvar, if_pos rfl] at h
    split at h
    · rename_i n c₁ hlen
      obtain ⟨bs, hrest, hread⟩ := Cursor.local_variableLength c n c₁ hlen
      obtain ⟨bs', hrest', hread'⟩ := DataType.local_decode _ _ _ c₁ v c' h
      refine ⟨bs ++ bs', by rw [hrest, hrest', List.append_assoc], fun p rest => ?_⟩
      rw [Field.decode, hvar, if_pos rfl, List.append_assoc, hread]
      simp only [decodeSized]
      rw [hread', List.length_append, Nat.add_assoc]
    · cases h
  | false =>
    rw [hvar, if_neg Bool.false_ne_true] at h
    obtain ⟨bs, hrest, hread⟩ := DataType.local_decode _ _ _ c v c' h
    refine ⟨bs, hrest, fun p rest => ?_⟩
    rw [Field.decode, hvar, if_neg Bool.false_ne_true]
    exact hread p rest

/-- **A record is decided by its own octets**, by induction on its fields. -/
theorem local_readRecord (fs : List Field) : Local (readRecord fs) := by
  induction fs with
  | nil => exact local_pure []
  | cons f fs ih =>
    refine local_bind f.local_decode fun v => ?_
    exact local_bind ih fun vs => local_pure (v :: vs)

/-! ## Failures

What follows decides whether a read fails, so that a failure cannot be cut out of its octets.  It
can still be moved: the same octets fail in the same way at any place. -/

namespace Reader

variable {ε α β : Type}

/-- Octets on which the reader fails make it fail in the same way at any place. -/
def Placeless (r : Reader ε α) : Prop :=
  ∀ p q bs e c, r ⟨p, bs⟩ = .error e c → ∃ c', r ⟨q, bs⟩ = .error e c'

theorem placeless_pure (a : α) : Placeless (pure a : Reader ε α) := by
  intro p q bs e c h
  cases h

/-- A reader in sequence fails with its first read or, where that has stopped, with what follows. -/
theorem placeless_bind {r : Reader ε α} {f : α → Reader ε β} (hlocal : Local r) (hr : Placeless r)
    (hf : ∀ a, Placeless (f a)) : Placeless (r >>= f) := by
  intro p q bs e c h
  cases hfirst : r ⟨p, bs⟩ with
  | ok a c₁ =>
    rw [bind_ok hfirst] at h
    obtain ⟨taken, hbs, hread⟩ := hlocal _ _ _ hfirst
    have hmoved : r ⟨q, bs⟩ = .ok a ⟨q + taken.length, c₁.rest⟩ := by
      rw [show bs = taken ++ c₁.rest from hbs]
      exact hread q c₁.rest
    obtain ⟨c', hlater⟩ := hf a c₁.position (q + taken.length) c₁.rest e c h
    exact ⟨c', (bind_ok hmoved).trans hlater⟩
  | error e₁ c₁ =>
    rw [bind_error hfirst] at h
    cases h
    obtain ⟨c', hmoved⟩ := hr p q bs e c hfirst
    exact ⟨c', bind_error hmoved⟩

end Reader

theorem Cursor.placeless_take (n : Nat) : Placeless (take n) := by
  intro p q bs e c h
  rw [take_eq] at h
  split at h
  · cases h
  · rename_i hshort
    cases h
    exact ⟨⟨q, bs⟩, by rw [take_eq]; exact if_neg hshort⟩

theorem Cursor.placeless_variableLength : Placeless variableLength := by
  intro p q bs e c h
  unfold variableLength at h
  split at h
  · rename_i hnone
    cases h
    have hbs : bs = [] := hnone
    exact ⟨⟨q, bs⟩, by rw [hbs]; rfl⟩
  · rename_i b rest hsome
    have hbs : bs = b :: rest := hsome
    split at h
    · cases h
    · rename_i hlong
      split at h
      · cases h
      · rename_i hcut
        cases h
        refine ⟨⟨q, bs⟩, ?_⟩
        rw [hbs]
        unfold variableLength
        simp only [hlong, if_false]

theorem DataType.placeless_decode (t : DataType) (name : String) (n : Nat) :
    Placeless (t.decode name n) := by
  intro p q bs e c h
  unfold DataType.decode at h ⊢
  by_cases haccepts : t.Accepts n
  · rw [if_pos haccepts] at h ⊢
    cases htake : Cursor.take n ⟨p, bs⟩ with
    | ok taken c₁ =>
      obtain ⟨hbs, rfl, -⟩ := Cursor.take_ok_iff.mp htake
      rw [htake] at h
      rw [show bs = taken ++ c₁.rest from hbs, Cursor.take_append]
      simp only at h ⊢
      split at h
      · cases h
      · cases h
        exact ⟨_, rfl⟩
    | error e₁ c₁ =>
      rw [htake] at h
      cases h
      obtain ⟨c', hmoved⟩ := Cursor.placeless_take n p q bs _ _ htake
      exact ⟨c', by rw [hmoved]⟩
  · rw [if_neg haccepts] at h ⊢
    cases h
    exact ⟨_, rfl⟩

theorem Field.placeless_decode (f : Field) : Placeless f.decode := by
  intro p q bs e c h
  unfold Field.decode at h ⊢
  cases hvar : f.isVariable with
  | true =>
    rw [hvar, if_pos rfl] at h
    rw [if_pos rfl]
    cases hlength : Cursor.variableLength ⟨p, bs⟩ with
    | ok n c₁ =>
      obtain ⟨taken, hbs, hread⟩ := Cursor.local_variableLength _ _ _ hlength
      rw [hlength] at h
      rw [show bs = taken ++ c₁.rest from hbs, hread]
      exact DataType.placeless_decode _ _ n c₁.position _ c₁.rest e c h
    | error e₁ c₁ =>
      rw [hlength] at h
      cases h
      obtain ⟨c', hmoved⟩ := Cursor.placeless_variableLength p q bs _ _ hlength
      exact ⟨c', by rw [hmoved]⟩
  | false =>
    rw [hvar, if_neg Bool.false_ne_true] at h
    rw [if_neg Bool.false_ne_true]
    exact DataType.placeless_decode _ _ _ p q bs e c h

/-- **A record that fails does so at any place**, by induction on its fields. -/
theorem placeless_readRecord (fs : List Field) : Placeless (readRecord fs) := by
  induction fs with
  | nil => exact placeless_pure []
  | cons f fs ih =>
    refine placeless_bind f.local_decode f.placeless_decode fun v => ?_
    exact placeless_bind (local_readRecord fs) ih fun vs => placeless_pure (v :: vs)

/-! ## Readers of a given size

Where it is known how many octets a reader looks at, these decide a failure as well. -/

namespace Reader

variable {ε α β : Type}

/-- The octets give the reader `a`, and it takes all of them. -/
def Takes (r : Reader ε α) (octets : Bytes) (a : α) : Prop :=
  ∀ p rest, r ⟨p, octets ++ rest⟩ = .ok a ⟨p + octets.length, rest⟩

/-- The octets make the reader fail with `e`. -/
def Refuses (r : Reader ε α) (octets : Bytes) (e : ε) : Prop :=
  ∀ p rest, ∃ c, r ⟨p, octets ++ rest⟩ = .error e c

section Sequence

variable {r : Reader ε α} {f : α → Reader ε β} {octets later : Bytes} {a : α} {e : ε}

theorem Takes.bind {b : β} (h : r.Takes octets a) (hf : (f a).Takes later b) :
    (r >>= f).Takes (octets ++ later) b := by
  intro p rest
  rw [List.append_assoc, bind_ok (h p _), hf, List.length_append, Nat.add_assoc]

theorem Takes.bind_refuses (h : r.Takes octets a) (hf : (f a).Refuses later e) :
    (r >>= f).Refuses (octets ++ later) e := by
  intro p rest
  obtain ⟨c, hc⟩ := hf (p + octets.length) rest
  exact ⟨c, by rw [List.append_assoc, bind_ok (h p _), hc]⟩

theorem Refuses.bind (h : r.Refuses octets e) : (r >>= f).Refuses (octets ++ later) e := by
  intro p rest
  obtain ⟨c, hc⟩ := h p (later ++ rest)
  exact ⟨c, by rw [List.append_assoc, bind_error hc]⟩

end Sequence

/-- The reader looks at `n` octets: it takes them or fails on them, and no failure is an overrun. -/
def Sized (n : Nat) (r : Reader FieldError α) : Prop :=
  ∀ octets : Bytes, octets.length = n →
    (∃ a, r.Takes octets a) ∨ ∃ e, ¬e.IsOverrun ∧ r.Refuses octets e

theorem sized_pure (a : α) : Sized 0 (pure a : Reader FieldError α) := by
  intro octets hlength
  obtain rfl := List.eq_nil_of_length_eq_zero hlength
  exact Or.inl ⟨a, fun p rest => rfl⟩

/-- Readers in sequence look at as many octets as all of them. -/
theorem sized_bind {m n : Nat} {r : Reader FieldError α} {f : α → Reader FieldError β}
    (hr : Sized m r) (hf : ∀ a, Sized n (f a)) : Sized (m + n) (r >>= f) := by
  intro octets hlength
  have hwhole : octets.take m ++ octets.drop m = octets := List.take_append_drop m octets
  have hfirst : (octets.take m).length = m := by
    rw [List.length_take]
    omega
  have hlater : (octets.drop m).length = n := by
    rw [List.length_drop]
    omega
  rw [← hwhole]
  rcases hr _ hfirst with ⟨a, htakes⟩ | ⟨e, hinside, hrefuses⟩
  · rcases hf a _ hlater with ⟨b, hthen⟩ | ⟨e, hinside, hrefuses⟩
    · exact Or.inl ⟨b, htakes.bind hthen⟩
    · exact Or.inr ⟨e, hinside, htakes.bind_refuses hrefuses⟩
  · exact Or.inr ⟨e, hinside, hrefuses.bind⟩

end Reader

/-- A field of a given length looks at that many octets. -/
theorem DataType.sized_decode (t : DataType) (name : String) (n : Nat) :
    Sized n (t.decode name n) := by
  rintro octets rfl
  by_cases ha : t.Accepts octets.length
  · cases hv : t.interpret octets with
    | some v => exact Or.inl ⟨v, fun p rest => decode_append name p rest ha hv⟩
    | none =>
      refine Or.inr ⟨.invalidBoolean name (UInt8.ofNat octets.value), id, fun p rest => ?_⟩
      refine ⟨⟨p + octets.length, rest⟩, ?_⟩
      rw [decode, if_pos ha, Cursor.take_append]
      simp only [hv]
  · refine Or.inr ⟨.invalidLength name octets.length t.minLength t.maxLength, id, fun p rest => ?_⟩
    exact ⟨_, if_neg ha⟩

end FlowIntake
