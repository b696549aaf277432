/-
# Packets that are cut, and what stands behind them

The header declares how long a packet is.  So many octets decide what becomes of it, and none after
them do, so that a datagram may carry more.  A buffer that is too small cuts a datagram instead:
either all the octets that count are still there, or the length that is declared gives the cut away.

* `Header.ofBytes_take`, `Header.parse_of_take_eq`: a header, and whether it is accepted;
* `SessionTable.Agree`: octets that a table of sessions makes no difference between;
* `SessionTable.agree_of_take_eq`: octets behind the declared length;
* `SessionTable.agree_take_or_discarded`, `SessionTable.discards_take`: octets that are cut;
* `SessionTable.take_cut`: what a listener does with them;
* `SessionTable.declared_octets_decide`: both, for any table of sessions.
-/
import FlowIntake.Listener
import FlowIntake.Proofs.Packet.Framing

namespace FlowIntake

/-! ## 1. Headers -/

/-- The length is declared in the first four octets. -/
theorem declaredLength_take (bs : Bytes) {m : Nat} (hm : Header.size ≤ m) :
    declaredLength (bs.take m) = declaredLength bs := by
  have hfour : 2 + 2 ≤ m := Nat.le_trans (by decide) hm
  rw [declaredLength, declaredLength, List.take_drop, List.take_drop, List.take_take,
    Nat.min_eq_left hfour]

namespace Header

theorem number_take (bs : Bytes) {m offset n : Nat} (h : offset + n ≤ m) :
    number (bs.take m) offset n = number bs offset n := by
  rw [number, number, List.take_drop, List.take_drop, List.take_take, Nat.min_eq_left h]

/-- A header is in the first sixteen octets. -/
theorem ofBytes_take (bs : Bytes) {m : Nat} (hm : size ≤ m) : ofBytes (bs.take m) = ofBytes bs := by
  have hall : ∀ offset n, offset + n ≤ size → number (bs.take m) offset n = number bs offset n :=
    fun offset n h => number_take bs (Nat.le_trans h hm)
  rw [ofBytes, ofBytes, declaredLength_take bs hm, hall 0 2 (by decide), hall 4 4 (by decide),
    hall 8 4 (by decide), hall 12 4 (by decide)]

/-- Octets that agree as far as their header declares begin with the same packet. -/
theorem parse_of_take_eq {bs bs' : Bytes} {h : Header} (hparse : parse bs = .ok h)
    (heq : bs'.take h.length.toNat = bs.take h.length.toNat) :
    parse bs' = .ok h ∧ splitSets h bs' = splitSets h bs := by
  obtain ⟨⟨hthere, hversion, hholds, hdeclared⟩, rfl⟩ := parse_eq_ok_iff.mp hparse
  rw [toNat_length_ofBytes] at heq
  have hsame : ofBytes bs' = ofBytes bs := by
    rw [← ofBytes_take bs' hholds, heq, ofBytes_take bs hholds]
  have hlength : declaredLength bs' = declaredLength bs := by
    rw [← declaredLength_take bs' hholds, heq, declaredLength_take bs hholds]
  have hversion' : Bytes.value (bs'.take 2) = protocolVersion.toNat := by
    rw [← version_iff] at hversion ⊢
    exact (congrArg version hsame).trans hversion
  have hthere' : declaredLength bs ≤ bs'.length := by
    have htaken := congrArg List.length heq
    rw [List.length_take, List.length_take] at htaken
    omega
  constructor
  · rw [parse_eq_ok_iff, hlength, hsame]
    exact ⟨⟨hholds.trans hthere', hversion', hholds, hthere'⟩, rfl⟩
  · have hbody' : (ofBytes bs').body bs' = (bs'.take (declaredLength bs')).drop size :=
      body_ofBytes (by omega) (by omega)
    rw [hsame, hlength, heq] at hbody'
    rw [splitSets, splitSets, hbody', body_ofBytes hholds hdeclared]

/-- Where there are sixteen octets, the version or the declared length is at fault. -/
theorem parse_eq_error {bs : Bytes} {e : PacketError} (hthere : size ≤ bs.length)
    (h : parse bs = .error e) :
    (ofBytes bs).version ≠ protocolVersion ∧ e = .unsupportedVersion (ofBytes bs).version ∨
      e = .invalidMessageLength (declaredLength bs) bs.length := by
  have hlength : UInt16.ofNat (number bs 2 2) = (ofBytes bs).length := rfl
  rw [parse, hlength, if_pos (by simpa using hthere)] at h
  simp only [toNat_length_ofBytes] at h
  split at h
  · rename_i hversion
    cases h
    exact Or.inl ⟨hversion, rfl⟩
  · split at h
    · cases h
      exact Or.inr rfl
    · cases h

theorem parse_of_version {bs : Bytes} (hthere : size ≤ bs.length)
    (hversion : (ofBytes bs).version ≠ protocolVersion) :
    parse bs = .error (.unsupportedVersion (ofBytes bs).version) := by
  rw [parse, if_pos (by simpa using hthere)]
  exact if_pos hversion

/-- A header that declares more than is there is refused for it. -/
theorem parse_of_short {bs : Bytes} (hthere : size ≤ bs.length)
    (hversion : (ofBytes bs).version = protocolVersion) (hshort : bs.length < declaredLength bs) :
    parse bs = .error (.invalidMessageLength (declaredLength bs) bs.length) := by
  cases hparse : parse bs with
  | ok h =>
    obtain ⟨⟨-, -, -, hdeclared⟩, -⟩ := parse_eq_ok_iff.mp hparse
    exact absurd hdeclared (Nat.not_le.mpr hshort)
  | error e =>
    rcases parse_eq_error hthere hparse with ⟨hother, -⟩ | rfl
    · exact absurd hversion hother
    · rfl

end Header

/-! ## 2. Sessions -/

/-- Settings that can be used have room for a header in the buffer. -/
theorem ListenerSettings.size_le_maxPacketSize {s : ListenerSettings} (h : s.problem? = none) :
    Header.size ≤ s.maxPacketSize.toNat := by
  unfold problem? at h
  split at h
  · cases h
  · split at h
    · cases h
    · rename_i hroom
      exact Nat.not_lt.mp hroom

namespace SessionTable

section Octets

variable (elements : Registry) (ss : SessionTable) (now : Nat) (exporter : Address)

/-- The same becomes of both strings of octets: the same sessions, the same messages and issues or
the same fault, and an end in both cases or in neither. -/
def Agree (bs bs' : Bytes) : Prop :=
  ss.decode elements now exporter bs' = ss.decode elements now exporter bs ∧
    ss.finishes elements now exporter bs' = ss.finishes elements now exporter bs

/-- The octets are discarded for the fault, and every session stays as it is. -/
def Discards (bs : Bytes) (e : PacketError) : Prop :=
  ss.decode elements now exporter bs = (ss, .error e) ∧
    ss.finishes elements now exporter bs = true

variable {elements ss now exporter}

/-- Nothing is looked at but the header and the sets. -/
theorem agree_of_parse {bs bs' : Bytes} {h : Header} (hparse : Header.parse bs = .ok h)
    (hparse' : Header.parse bs' = .ok h) (hsplit : splitSets h bs' = splitSets h bs) :
    ss.Agree elements now exporter bs bs' := by
  constructor
  · rw [decode, decode, hparse, hparse']
    simp only [hsplit]
  · rw [finishes, finishes, hparse, hparse']
    simp only [hsplit]

theorem discards_of_parse {bs : Bytes} {e : PacketError} (hparse : Header.parse bs = .error e) :
    ss.Discards elements now exporter bs e := by
  constructor
  · rw [decode, hparse]
  · rw [finishes, hparse]

theorem Discards.agree {bs bs' : Bytes} {e : PacketError}
    (h : ss.Discards elements now exporter bs e) (h' : ss.Discards elements now exporter bs' e) :
    ss.Agree elements now exporter bs bs' :=
  ⟨h'.1.trans h.1.symm, h'.2.trans h.2.symm⟩

/-- **No octet behind the declared length counts.** -/
theorem agree_of_take_eq {bs bs' : Bytes} {h : Header} (hparse : Header.parse bs = .ok h)
    (heq : bs'.take h.length.toNat = bs.take h.length.toNat) :
    ss.Agree elements now exporter bs bs' := by
  obtain ⟨hparse', hsplit⟩ := Header.parse_of_take_eq hparse heq
  exact agree_of_parse hparse hparse' hsplit

variable (elements ss now exporter)

/-- **Octets that are cut are the same packet, or are discarded** for the length that they
declare. -/
theorem agree_take_or_discarded (bs : Bytes) {m : Nat} (hm : Header.size ≤ m) :
    ss.Agree elements now exporter bs (bs.take m) ∨
      ss.Discards elements now exporter (bs.take m)
        (.invalidMessageLength (declaredLength bs) m) := by
  rcases Nat.lt_or_ge m bs.length with hcut | hall
  · have hlength : (bs.take m).length = m := List.length_take_of_le hcut.le
    cases hparse : Header.parse (bs.take m) with
    | ok h =>
      -- What is declared is there after the cut, so that the cut is behind it.
      obtain ⟨⟨-, -, -, hdeclared⟩, rfl⟩ := Header.parse_eq_ok_iff.mp hparse
      have hbefore : (Header.ofBytes (bs.take m)).length.toNat ≤ m := by
        rw [Header.toNat_length_ofBytes]
        exact hdeclared.trans hlength.le
      have heq : bs.take (Header.ofBytes (bs.take m)).length.toNat
          = (bs.take m).take (Header.ofBytes (bs.take m)).length.toNat := by
        rw [List.take_take, Nat.min_eq_left hbefore]
      obtain ⟨hwhole, hsplit⟩ := Header.parse_of_take_eq hparse heq
      exact Or.inl (agree_of_parse hwhole hparse hsplit.symm)
    | error e =>
      have hdiscards : ss.Discards elements now exporter (bs.take m) e := discards_of_parse hparse
      rcases Header.parse_eq_error (hlength.symm ▸ hm) hparse with ⟨hversion, rfl⟩ | rfl
      · rw [Header.ofBytes_take bs hm] at hversion hdiscards
        have hwhole := Header.parse_of_version (hm.trans hcut.le) hversion
        exact Or.inl ((discards_of_parse hwhole).agree hdiscards)
      · rw [hlength, declaredLength_take bs hm] at hdiscards
        exact Or.inr hdiscards
  · rw [List.take_of_length_le hall]
    exact Or.inl ⟨rfl, rfl⟩

/-- **Where a declared octet is missing, the rest is discarded.** -/
theorem discards_take {bs : Bytes} {h : Header} (hparse : Header.parse bs = .ok h) {m : Nat}
    (hm : Header.size ≤ m) (hcut : m < h.length.toNat) :
    ss.Discards elements now exporter (bs.take m)
      (.invalidMessageLength h.length.toNat m) := by
  obtain ⟨⟨-, hversion, -, hdeclared⟩, rfl⟩ := Header.parse_eq_ok_iff.mp hparse
  rw [Header.toNat_length_ofBytes] at hcut ⊢
  have hlength : (bs.take m).length = m := List.length_take_of_le (hcut.le.trans hdeclared)
  have hversion' : (Header.ofBytes (bs.take m)).version = Header.protocolVersion := by
    rw [Header.ofBytes_take bs hm]
    exact (Header.version_iff bs).mpr hversion
  have hshort := Header.parse_of_short (hlength.symm ▸ hm) hversion'
  rw [hlength, declaredLength_take bs hm] at hshort
  exact discards_of_parse (hshort hcut)

/-- A datagram that does not fit into the buffer yields the same messages as if it did and leaves
the same sessions, or it yields none and changes nothing. -/
theorem take_cut (d : Datagram) {m : Nat} (hm : Header.size ≤ m) :
    (ss.take elements now (d.cut m)).1 = (ss.take elements now d).1 ∧
        (ss.take elements now (d.cut m)).2.messages = (ss.take elements now d).2.messages ∨
      (ss.take elements now (d.cut m)).1 = ss ∧
        (ss.take elements now (d.cut m)).2.messages = [] := by
  have hpayload : (d.cut m).payload = d.payload.take m := rfl
  have hexporter : (d.cut m).exporter = d.exporter := rfl
  unfold take
  rw [hpayload, hexporter]
  rcases agree_take_or_discarded elements ss now d.exporter d.payload hm
    with ⟨hsame, -⟩ | ⟨herror, -⟩
  · rw [hsame]
    obtain ⟨ss', e | p⟩ := ss.decode elements now d.exporter d.payload <;> exact Or.inl ⟨rfl, rfl⟩
  · rw [herror]
    exact Or.inr ⟨rfl, rfl⟩

/-- **Only the declared octets of a packet count, and one that is cut is not taken for another.**
Whatever is put behind the declared length of a header that is accepted, the same sessions, messages
and issues come of the packet.  In a buffer of any size that has room for a header, as the settings
of a listener have, what is left of a packet either comes to the same or is discarded for its
length, and then every session stays as it is; that is so as soon as a declared octet is missing.
-/
theorem declared_octets_decide (bs : Bytes) :
    (∀ h, Header.parse bs = .ok h → ∀ other,
      ss.Agree elements now exporter bs (bs.take h.length.toNat ++ other)) ∧
    (∀ m, Header.size ≤ m →
      ss.Agree elements now exporter bs (bs.take m) ∨
        ss.Discards elements now exporter (bs.take m)
          (.invalidMessageLength (declaredLength bs) m)) ∧
    (∀ h, Header.parse bs = .ok h → ∀ m, Header.size ≤ m → m < h.length.toNat →
      ss.Discards elements now exporter (bs.take m) (.invalidMessageLength h.length.toNat m)) ∧
    ∀ s : ListenerSettings, s.problem? = none → Header.size ≤ s.maxPacketSize.toNat := by
  refine ⟨?_, fun m hm => agree_take_or_discarded elements ss now exporter bs hm,
    fun h hparse m hm hcut => discards_take elements ss now exporter hparse hm hcut,
    fun s hs => s.size_le_maxPacketSize hs⟩
  intro h hparse other
  obtain ⟨⟨-, -, -, hdeclared⟩, rfl⟩ := Header.parse_eq_ok_iff.mp hparse
  rw [← Header.toNat_length_ofBytes] at hdeclared
  refine agree_of_take_eq hparse ?_
  exact List.take_left' (List.length_take_of_le hdeclared)

end Octets

/-- A packet of one reserved set.  An octet behind it makes no difference, and without its last two
octets it is discarded. -/
theorem reserved_set_is_cut :
    let header : Header := ⟨10, 20, 0, 0, 7⟩
    let bs := header.bytes ++ (⟨1, []⟩ : RawSet).bytes
    let exporter : Address := .v4 ⟨[192, 0, 2, 1], rfl⟩
    let settings : ListenerSettings := { address := "::", workers := 1, maxPacketSize := 18 }
    Header.parse bs = .ok header ∧ settings.problem? = none ∧
      Agree .empty .empty 0 exporter bs (bs ++ [255]) ∧
      Discards .empty .empty 0 exporter (bs.take settings.maxPacketSize.toNat)
        (.invalidMessageLength 20 18) := by
  intro header bs exporter settings
  have hparse : Header.parse bs = .ok header := by decide +kernel
  have hsettings : settings.problem? = none := by decide +kernel
  obtain ⟨hbehind, -, hcut, hroom⟩ := declared_octets_decide .empty .empty 0 exporter bs
  exact ⟨hparse, hsettings, hbehind header hparse [255],
    hcut header hparse _ (hroom settings hsettings) (by decide)⟩

end SessionTable

end FlowIntake
