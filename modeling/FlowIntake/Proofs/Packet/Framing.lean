/-
# How packets are framed

A packet says how long it is and each of its sets says how long that is, so that a collector cuts
it where the exporter joined it.  Which octets are framed is said here by a grammar, without a word
on how packets are read.

* `splitBody_flatMap`: sets written one after another are cut apart again;
* `Header.parse_bytes_append`: a header is read back, whatever follows what it declares;
* `Builder.splitSets_build`: a built packet of at most 65535 octets has the header and the sets it
  was built from;
* `Fills`: octets are sets laid end to end, each with its identifier and its length before it;
* `splitBody_eq_ok_iff`: octets are cut into the sets that fill them, and into no others;
* `Framed`: a header that declares a length which is there, and sets that fill what is left of it;
* `Header.parse_eq_ok_iff`, `framed_iff`: framed packets are those whose header and sets are read.
-/
import FlowIntake.Proofs.Wire.Reads

namespace FlowIntake

/-! ## 1. Sets -/

theorem RawSet.length_bytes (s : RawSet) : s.bytes.length = headerSize + s.body.length := by
  simp only [bytes, headerSize, List.length_append, Bytes.length_ofNat]

theorem Bytes.ofNat_two (v : Nat) : ofNat 2 v = [UInt8.ofNat (v / 256), UInt8.ofNat v] := rfl

/-- **The first of several sets is cut off where it ends**, when its length fits two octets. -/
theorem splitBody_bytes_append {s : RawSet} (h : s.bytes.length ≤ 65535) (rest : Bytes) :
    splitBody (s.bytes ++ rest) = (splitBody rest).map (s :: ·) := by
  rw [RawSet.length_bytes] at h
  have hid : UInt16.ofNat (Bytes.value (Bytes.ofNat 2 s.id.toNat)) = s.id := by
    rw [Bytes.value_ofNat_of_lt s.id.toNat_lt, UInt16.ofNat_toNat]
  have hlen : Bytes.value (Bytes.ofNat 2 (RawSet.headerSize + s.body.length))
      = RawSet.headerSize + s.body.length := Bytes.value_ofNat_of_lt (Nat.lt_succ_of_le h)
  rw [Bytes.ofNat_two] at hid hlen
  unfold RawSet.bytes
  simp only [Bytes.ofNat_two, List.cons_append, List.nil_append]
  rw [splitBody]
  simp only [hid, hlen, Nat.add_sub_cancel_left, List.take_left, List.drop_left]
  rw [if_neg (Nat.not_lt.mpr (Nat.le_add_right _ _)), if_pos (by simp)]

/-- **Sets written one after another are cut apart again.** -/
theorem splitBody_flatMap {sets : List RawSet} (h : ∀ s ∈ sets, s.bytes.length ≤ 65535) :
    splitBody (sets.flatMap RawSet.bytes) = .ok sets := by
  induction sets with
  | nil => rw [List.flatMap_nil, splitBody]
  | cons s sets ih =>
    rw [List.flatMap_cons, splitBody_bytes_append (h s List.mem_cons_self),
      ih fun t ht => h t (List.mem_cons_of_mem s ht)]
    rfl

/-! ## 2. The header -/

namespace Header

theorem length_bytes (h : Header) : h.bytes.length = size := by
  simp only [bytes, size, List.length_append, Bytes.length_ofNat]

/-- The number after `offset` octets is the one written there. -/
theorem number_append {offset n v : Nat} {before : Bytes} (hlen : before.length = offset)
    (hv : v < Bytes.capacity n) (after : Bytes) :
    number (before ++ (Bytes.ofNat n v ++ after)) offset n = v := by
  rw [number, ← hlen, List.drop_left, List.take_left' (Bytes.length_ofNat n v),
    Bytes.value_ofNat_of_lt hv]

/-- **A header is read back**, whatever follows it, when it declares a length that holds it and
is there. -/
theorem parse_bytes_append {h : Header} (hversion : h.version = protocolVersion)
    (hsize : size ≤ h.length.toNat) {rest : Bytes} (hrest : h.length.toNat ≤ size + rest.length) :
    parse (h.bytes ++ rest) = .ok h := by
  have hfull : h.bytes ++ rest = [] ++ (Bytes.ofNat 2 h.version.toNat ++
      (Bytes.ofNat 2 h.length.toNat ++ (Bytes.ofNat 4 h.exportTime.toNat ++
        (Bytes.ofNat 4 h.sequence.toNat ++ (Bytes.ofNat 4 h.domain.toNat ++ rest))))) := by
    simp only [bytes, List.append_assoc, List.nil_append]
  have hlen : (h.bytes ++ rest).length = size + rest.length := by
    rw [List.length_append, length_bytes]
  have hn0 : number (h.bytes ++ rest) 0 2 = h.version.toNat := by
    rw [hfull]
    exact number_append rfl h.version.toNat_lt _
  have hn2 : number (h.bytes ++ rest) 2 2 = h.length.toNat := by
    rw [hfull, ← List.append_assoc, number_append (by simp) h.length.toNat_lt]
  have hn4 : number (h.bytes ++ rest) 4 4 = h.exportTime.toNat := by
    rw [hfull, ← List.append_assoc, ← List.append_assoc,
      number_append (by simp) h.exportTime.toNat_lt]
  have hn8 : number (h.bytes ++ rest) 8 4 = h.sequence.toNat := by
    rw [hfull, ← List.append_assoc, ← List.append_assoc, ← List.append_assoc,
      number_append (by simp) h.sequence.toNat_lt]
  have hn12 : number (h.bytes ++ rest) 12 4 = h.domain.toNat := by
    rw [hfull, ← List.append_assoc, ← List.append_assoc, ← List.append_assoc, ← List.append_assoc,
      number_append (by simp) h.domain.toNat_lt]
  have hall : (h.bytes ++ rest).atLeast size = true := by
    rw [Bytes.atLeast_eq, hlen]
    simp
  have hdeclared : (h.bytes ++ rest).atLeast h.length.toNat = true := by
    rw [Bytes.atLeast_eq, hlen]
    simpa using hrest
  have hfits : ¬(h.length.toNat < size ∨ ¬(h.bytes ++ rest).atLeast h.length.toNat = true) := by
    rintro (hshort | hcut)
    · omega
    · exact hcut hdeclared
  rw [parse, if_pos hall]
  simp only [hn0, hn2, hn4, hn8, hn12, UInt16.ofNat_toNat, UInt32.ofNat_toNat]
  rw [if_neg (not_not_intro hversion), if_neg hfits]

/-- What stands after a header is its body, when it declares exactly that. -/
theorem body_bytes_append {h : Header} {rest : Bytes}
    (hrest : h.length.toNat = size + rest.length) : h.body (h.bytes ++ rest) = rest := by
  have hlen : (h.bytes ++ rest).length = h.length.toNat := by
    rw [List.length_append, length_bytes, hrest]
  have hall : size ≤ h.length.toNat ∧ (h.bytes ++ rest).atLeast h.length.toNat = true := by
    rw [Bytes.atLeast_eq, hlen, hrest]
    simp
  rw [body, if_pos hall, ← hlen, List.take_length, ← h.length_bytes, List.drop_left]

end Header

/-! ## 3. Built packets -/

namespace Builder

/-- The octets of all sets. -/
def body (b : Builder) : Bytes := b.sets.flatMap RawSet.bytes

/-- The header that is written before them. -/
def header (b : Builder) : Header :=
  ⟨b.version, UInt16.ofNat (Header.size + b.body.length), b.exportTime, b.sequence, b.domain⟩

theorem build_eq (b : Builder) : b.build = b.header.bytes ++ b.body := rfl

theorem length_build (b : Builder) : b.build.length = Header.size + b.body.length := by
  rw [build_eq, List.length_append, Header.length_bytes]

theorem toNat_header_length {b : Builder} (h : b.build.length ≤ 65535) :
    b.header.length.toNat = Header.size + b.body.length := by
  rw [length_build] at h
  show (UInt16.ofNat (Header.size + b.body.length)).toNat = _
  rw [UInt16.toNat_ofNat', Nat.mod_eq_of_lt (by omega)]

/-- A set of a built packet is no longer than the packet. -/
theorem length_bytes_le {b : Builder} {s : RawSet} (hs : s ∈ b.sets) :
    s.bytes.length ≤ b.build.length := by
  obtain ⟨before, after, hsets⟩ := List.append_of_mem hs
  simp only [length_build, body, hsets, List.flatMap_append, List.flatMap_cons, List.length_append]
  omega

/-- **The header of a built packet is read back.** -/
theorem parse_build {b : Builder} (hversion : b.version = Header.protocolVersion)
    (h : b.build.length ≤ 65535) : Header.parse b.build = .ok b.header := by
  have hlen := toNat_header_length h
  rw [build_eq]
  exact Header.parse_bytes_append hversion (by omega) (by omega)

/-- **The sets of a built packet are read back**, all of them and no others. -/
theorem splitSets_build {b : Builder} (h : b.build.length ≤ 65535) :
    splitSets b.header b.build = .ok b.sets := by
  rw [splitSets, build_eq, Header.body_bytes_append (toNat_header_length h)]
  exact splitBody_flatMap fun s hs => (length_bytes_le hs).trans h

end Builder

/-! ## 4. Sets laid end to end -/

/-- The octets are those of the sets, one after another: an identifier of two octets, a length of
two octets that counts these four, and as many octets of body as that leaves. -/
inductive Fills : List RawSet → Bytes → Prop where
  | nil : Fills [] []
  | cons {id length : Bytes} {set : RawSet} {sets : List RawSet} {rest : Bytes} :
      id.length = 2 → id.value = set.id.toNat →
      length.length = 2 → length.value = RawSet.headerSize + set.body.length →
      Fills sets rest → Fills (set :: sets) (id ++ length ++ set.body ++ rest)

namespace Fills

variable {sets : List RawSet} {bs : Bytes}

/-- Octets that sets fill are those that the sets are written with, and each length fits its two
octets. -/
theorem eq_flatMap (h : Fills sets bs) :
    bs = sets.flatMap RawSet.bytes ∧ ∀ s ∈ sets, s.bytes.length ≤ 65535 := by
  induction h with
  | nil => exact ⟨rfl, fun s hs => nomatch hs⟩
  | @cons id length set sets rest hid hidv hlen hlenv _ ih =>
    obtain ⟨hrest, hfits⟩ := ih
    have hset : set.bytes = id ++ length ++ set.body := by
      rw [RawSet.bytes, ← hidv, ← hlenv]
      congr 2
      · rw [← hid, Bytes.ofNat_value]
      · rw [← hlen, Bytes.ofNat_value]
    have hlt : length.value < Bytes.capacity 2 := hlen ▸ Bytes.value_lt length
    refine ⟨by rw [List.flatMap_cons, hset, ← hrest], fun s hs => ?_⟩
    rcases List.mem_cons.mp hs with rfl | hmem
    · rw [RawSet.length_bytes, ← hlenv]
      exact Nat.le_of_lt_succ hlt
    · exact hfits s hmem

end Fills

/-- Two octets hold a number below 65536. -/
theorem Bytes.value_lt_of_length_le {bs : Bytes} (h : bs.length ≤ 2) : bs.value < 65536 := by
  have hcapacity : capacity 2 = 65536 := rfl
  have hle := Nat.le_of_dvd (capacity_pos 2) (capacity_dvd h)
  have hlt := value_lt bs
  omega

/-- What octets are cut into fills them, by the recursion of `splitBody`. -/
theorem fills_of_splitBody {bs : Bytes} {sets : List RawSet} (h : splitBody bs = .ok sets) :
    Fills sets bs := by
  fun_induction splitBody bs generalizing sets
  case case1 =>
    cases h
    exact .nil
  case case2 => cases h
  case case3 a b c d rest id length size hlong hall ih =>
    cases hlater : splitBody (rest.drop size) with
    | error e =>
      rw [hlater] at h
      cases h
    | ok later =>
      rw [hlater] at h
      cases h
      have hid : Bytes.value [a, b] < 65536 := Bytes.value_lt_of_length_le (Nat.le_refl 2)
      have hsize : size ≤ rest.length := by simpa using hall
      have hcount : length = RawSet.headerSize + (rest.take size).length := by
        rw [List.length_take_of_le hsize]
        omega
      have hfill : Fills (⟨id, rest.take size⟩ :: later)
          ([a, b] ++ [c, d] ++ rest.take size ++ rest.drop size) :=
        .cons rfl (UInt16.toNat_ofNat_of_lt hid).symm rfl hcount (ih hlater)
      rwa [List.append_assoc, List.take_append_drop] at hfill
  case case4 => cases h
  case case5 => cases h

/-- **Octets are cut into the sets that fill them**, and into no others. -/
theorem splitBody_eq_ok_iff {bs : Bytes} {sets : List RawSet} :
    splitBody bs = .ok sets ↔ Fills sets bs := by
  refine ⟨fills_of_splitBody, fun h => ?_⟩
  obtain ⟨rfl, hfits⟩ := h.eq_flatMap
  exact splitBody_flatMap hfits

/-! ## 5. Framed packets -/

/-- The length that a packet declares, in the two octets after its version. -/
def declaredLength (bs : Bytes) : Nat := Bytes.value ((bs.drop 2).take 2)

/-- The octets are those of a packet with these sets: a header of the version of the protocol is
there, it declares a length which holds it and is there, and the sets fill what is left of that. -/
structure Framed (sets : List RawSet) (bs : Bytes) : Prop where
  header_there : Header.size ≤ bs.length
  version : Bytes.value (bs.take 2) = Header.protocolVersion.toNat
  header_declared : Header.size ≤ declaredLength bs
  declared_there : declaredLength bs ≤ bs.length
  fills : Fills sets ((bs.take (declaredLength bs)).drop Header.size)

theorem declaredLength_lt (bs : Bytes) : declaredLength bs < 65536 :=
  Bytes.value_lt_of_length_le (List.length_take_le _ _)

namespace Header

/-- The numbers in the first sixteen octets. -/
def ofBytes (bs : Bytes) : Header :=
  ⟨UInt16.ofNat (number bs 0 2), UInt16.ofNat (declaredLength bs), UInt32.ofNat (number bs 4 4),
    UInt32.ofNat (number bs 8 4), UInt32.ofNat (number bs 12 4)⟩

theorem toNat_length_ofBytes (bs : Bytes) : (ofBytes bs).length.toNat = declaredLength bs :=
  UInt16.toNat_ofNat_of_lt (declaredLength_lt bs)

/-- Two octets hold the version of the protocol when they hold its number. -/
theorem version_iff (bs : Bytes) :
    UInt16.ofNat (number bs 0 2) = protocolVersion
      ↔ Bytes.value (bs.take 2) = protocolVersion.toNat := by
  have hlt := Bytes.value_lt_of_length_le (List.length_take_le 2 bs)
  rw [number, List.drop_zero, ← UInt16.toNat_inj, UInt16.toNat_ofNat', Nat.mod_eq_of_lt hlt]

/-- **A header is read exactly when it is there**, is of the version of the protocol, and declares
a length that holds it and is there. -/
theorem parse_eq_ok_iff {bs : Bytes} {h : Header} :
    parse bs = .ok h ↔
      (size ≤ bs.length ∧ Bytes.value (bs.take 2) = protocolVersion.toNat ∧
        size ≤ declaredLength bs ∧ declaredLength bs ≤ bs.length) ∧ h = ofBytes bs := by
  have hlength : UInt16.ofNat (number bs 2 2) = (ofBytes bs).length := rfl
  rw [parse, hlength]
  simp only [toNat_length_ofBytes, Bytes.atLeast_eq, decide_eq_true_eq]
  constructor
  · intro hparse
    split at hparse
    · rename_i hthere
      split at hparse
      · cases hparse
      · rename_i hversion
        split at hparse
        · cases hparse
        · rename_i hdeclared
          rw [not_or, not_not, Nat.not_lt] at hdeclared
          cases hparse
          exact ⟨⟨hthere, (version_iff bs).mp (not_not.mp hversion), hdeclared⟩, rfl⟩
    · cases hparse
  · rintro ⟨⟨hthere, hversion, hholds, hdeclared⟩, rfl⟩
    have hfits : ¬(declaredLength bs < size ∨ ¬declaredLength bs ≤ bs.length) := by omega
    rw [if_pos hthere, if_neg (not_not_intro ((version_iff bs).mpr hversion)), if_neg hfits]
    rfl

/-- What a header that is read leaves to the sets. -/
theorem body_ofBytes {bs : Bytes} (hholds : size ≤ declaredLength bs)
    (hdeclared : declaredLength bs ≤ bs.length) :
    (ofBytes bs).body bs = (bs.take (declaredLength bs)).drop size := by
  have hthere : size ≤ declaredLength bs ∧ bs.atLeast (declaredLength bs) = true := by
    rw [Bytes.atLeast_eq]
    exact ⟨hholds, decide_eq_true hdeclared⟩
  rw [body, toNat_length_ofBytes, if_pos hthere]

end Header

/-- **Framed packets are those whose header and sets are read.** -/
theorem framed_iff {bs : Bytes} {sets : List RawSet} :
    Framed sets bs ↔ ∃ h, Header.parse bs = .ok h ∧ splitSets h bs = .ok sets := by
  constructor
  · rintro ⟨hthere, hversion, hholds, hdeclared, hfills⟩
    refine ⟨_, Header.parse_eq_ok_iff.mpr ⟨⟨hthere, hversion, hholds, hdeclared⟩, rfl⟩, ?_⟩
    rwa [splitSets, Header.body_ofBytes hholds hdeclared, splitBody_eq_ok_iff]
  · rintro ⟨h, hparse, hsplit⟩
    obtain ⟨⟨hthere, hversion, hholds, hdeclared⟩, rfl⟩ := Header.parse_eq_ok_iff.mp hparse
    rw [splitSets, Header.body_ofBytes hholds hdeclared, splitBody_eq_ok_iff] at hsplit
    exact ⟨hthere, hversion, hholds, hdeclared, hsplit⟩

/-- A packet is framed in one way only. -/
theorem Framed.unique {bs : Bytes} {sets sets' : List RawSet} (h : Framed sets bs)
    (h' : Framed sets' bs) : sets = sets' := by
  have hcut := splitBody_eq_ok_iff.mpr h.fills
  rw [splitBody_eq_ok_iff.mpr h'.fills] at hcut
  cases hcut
  rfl

end FlowIntake
