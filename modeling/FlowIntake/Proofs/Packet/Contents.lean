/-
# What a packet carries

A packet is octets, but what a collector makes of it depends on its header and its sets alone.  Here
these are said together, so that packets can be compared which carry some of each other's sets.

* `Carries`: the octets are a packet with this header and these sets;
* `Header.packet`, `Carries.packet`: some of the sets of a packet in a packet of their own;
* `SessionTable.current`: the session that a packet is read in;
* `SessionTable.decode_of_carries`: what a collector makes of a packet;
* `SessionTable.finishes_of_carries`: whether that comes to an end;
* `Session.receive_resized`: the length a header declares has no part in it;
* `Bindings.said`, `SessionTable.decode_eq_said`: it is what the sets say under the bindings of the
  key;
* `SessionTable.follows_decode`, `SessionTable.bindings_decode_of_carries`: the same without the
  session, and what becomes of the bindings.
-/
import FlowIntake.Proofs.Packet.Framing
import FlowIntake.Proofs.Session.Sequence
import Mathlib.Data.List.Flatten
import Mathlib.Data.List.ReduceOption

namespace FlowIntake

/-! ## 1. Octets, header and sets -/

/-- The octets are a packet with this header and these sets. -/
structure Carries (bs : Bytes) (h : Header) (sets : List RawSet) : Prop where
  parse : Header.parse bs = .ok h
  split : splitSets h bs = .ok sets

/-- The packet of some sets under the numbers of a header. -/
def Header.packet (h : Header) (sets : List RawSet) : Bytes :=
  (⟨h.version, h.exportTime, h.sequence, h.domain, sets⟩ : Builder).build

/-- A built packet that is not too long carries what it was built from. -/
theorem Builder.carries_build {b : Builder} (hversion : b.version = Header.protocolVersion)
    (h : b.build.length ≤ 65535) : Carries b.build b.header b.sets :=
  ⟨parse_build hversion h, splitSets_build h⟩

namespace Carries

variable {bs : Bytes} {h : Header} {sets sets' : List RawSet}

theorem version_eq (hbs : Carries bs h sets) : h.version = Header.protocolVersion := by
  obtain ⟨⟨-, hversion, -, -⟩, rfl⟩ := Header.parse_eq_ok_iff.mp hbs.parse
  exact (Header.version_iff bs).mpr hversion

/-- The header and the sets of a packet take no more octets than a length can declare. -/
theorem length_sets_le (hbs : Carries bs h sets) :
    Header.size + (sets.flatMap RawSet.bytes).length ≤ 65535 := by
  obtain ⟨-, -, hholds, hdeclared, hfills⟩ := framed_iff.mpr ⟨h, hbs.parse, hbs.split⟩
  have hlt := declaredLength_lt bs
  rw [← hfills.eq_flatMap.1, List.length_drop, List.length_take]
  omega

/-- **Some of the sets of a packet fit in a packet of their own**, in their order, whatever sequence
number it has. -/
theorem packet (hbs : Carries bs h sets) (hsub : sets'.Sublist sets) (n : UInt32) :
    ∃ m, Carries ({ h with sequence := n }.packet sets') { h with sequence := n, length := m }
      sets' := by
  let b : Builder := ⟨h.version, h.exportTime, n, h.domain, sets'⟩
  have hall := hbs.length_sets_le
  have hless : (sets'.flatMap RawSet.bytes).length ≤ (sets.flatMap RawSet.bytes).length :=
    (hsub.flatMap RawSet.bytes).length_le
  have hfits : b.build.length ≤ 65535 := by
    have hbody : b.body = sets'.flatMap RawSet.bytes := rfl
    rw [Builder.length_build, hbody]
    omega
  exact ⟨b.header.length, Builder.carries_build (b := b) hbs.version_eq hfits⟩

/-- So they do under the sequence number of the packet. -/
theorem part (hbs : Carries bs h sets) (hsub : sets'.Sublist sets) :
    ∃ m, Carries (h.packet sets') { h with length := m } sets' := hbs.packet hsub h.sequence

end Carries

/-! ## 2. The length that is declared -/

namespace Session

variable (elements : Registry) (h : Header) (m : UInt16) (s : Session)

theorem decodeSets_resized (sets : List RawSet) :
    s.decodeSets elements { h with length := m } sets = s.decodeSets elements h sets := by
  induction sets generalizing s with
  | nil => rfl
  | cons set sets ih =>
    have hset : s.decodeSet elements { h with length := m } set = s.decodeSet elements h set := rfl
    simp only [decodeSets, hset, ih]

/-- **The length that a header declares changes nothing of a packet** but that header. -/
theorem receive_resized (sets : List RawSet) :
    s.receive elements { h with length := m } sets
      = ((s.receive elements h sets).1,
          { (s.receive elements h sets).2 with header := { h with length := m } }) := by
  simp only [receive, decodeSets_resized]
  rfl

end Session

/-! ## 3. What sets say -/

namespace Bindings

/-- What the sets of a packet report, one after another, up to one that ends the packet. -/
def reports (elements : Registry) (c : MessageContext) (b : Bindings) (sets : List RawSet) :
    List (Option SetIssue) :=
  (b.visits elements sets).map fun v => (v.report elements c).2

/-- What the sets of a packet say under bindings, after the gap before it, if there is one. -/
noncomputable def said (elements : Registry) (c : MessageContext) (h : Header)
    (gaps : List SetIssue) (b : Bindings) (sets : List RawSet) : DecodedPacket where
  header := h
  messages := (b.visits elements sets).flatMap fun v => (v.report elements c).1
  issues := gaps ++ (b.reports elements c sets).reduceOption
  changes := b.changes (b.announced elements sets)

end Bindings

namespace Session

theorem produced_eq (elements : Registry) (h : Header) (s : Session) (sets : List RawSet) :
    s.produced elements h sets
      = s.bindings.said elements (s.context h) h (s.sequenceIssues h.sequence) sets := by
  have hchanges := Bindings.foldl_changes elements s.bindings sets .none
  rw [TemplateChanges.none_add] at hchanges
  rw [produced, (decodeSets_visits elements h s sets).1, DecodedPacket.ofYields, Bindings.said,
    Bindings.reports, List.reduceOption, ← hchanges]
  simp only [List.flatMap_map, List.filterMap_map, List.map_map]
  rfl

end Session

/-! ## 4. Packets in their session -/

namespace SessionTable

/-- The session under a key when it is used at the instant `now`. -/
def current (ss : SessionTable) (now : Nat) (key : SessionKey) : Session :=
  (ss.session now key).touch now

theorem key_current (ss : SessionTable) (now : Nat) (key : SessionKey) :
    (ss.current now key).key = key := key_session ss now key

theorem bindings_current (ss : SessionTable) (now : Nat) (key : SessionKey) :
    (ss.current now key).bindings = ss.bindings key := bindings_session ss now key

variable {bs : Bytes} {h : Header} {sets : List RawSet} (elements : Registry) (ss : SessionTable)
  (now : Nat) (exporter : Address)

theorem key_receive_current (key : SessionKey) :
    ((ss.current now key).receive elements h sets).1.key = key :=
  key_received elements ss now key h sets

theorem context_current :
    (ss.current now ⟨exporter, h.domain⟩).context h
      = ⟨exporter, h.domain, h.exportTime, h.sequence⟩ := by
  rw [Session.context, key_current]

/-- **A packet is read in the session of its exporter and domain.** -/
theorem decode_of_carries (hbs : Carries bs h sets) :
    ss.decode elements now exporter bs
      = (ss.insert ((ss.current now ⟨exporter, h.domain⟩).receive elements h sets).1,
          .ok ((ss.current now ⟨exporter, h.domain⟩).receive elements h sets).2) :=
  decode_of_framed elements ss now exporter hbs.parse hbs.split

/-- **Reading a packet comes to an end when each of its sets does** under the bindings in force. -/
theorem finishes_of_carries (hbs : Carries bs h sets) :
    ss.finishes elements now exporter bs
      = ((ss.bindings ⟨exporter, h.domain⟩).visits elements sets).all Visit.finishes := by
  rw [finishes_of_framed elements ss now exporter hbs.parse hbs.split, Session.finishes_eq_visits,
    ← bindings_current ss now]
  rfl

/-- What is made of a packet is what its session makes of its sets. -/
theorem received_of_decode {elements : Registry} {ss ss' : SessionTable} {now : Nat}
    {exporter : Address} {p : DecodedPacket} (hbs : Carries bs h sets)
    (hdecode : ss.decode elements now exporter bs = (ss', .ok p)) :
    p = ((ss.current now ⟨exporter, h.domain⟩).receive elements h sets).2 := by
  rw [decode_of_carries elements ss now exporter hbs] at hdecode
  exact (Except.ok.inj (congrArg Prod.snd hdecode)).symm

/-- **A packet is what its sets say** under the bindings of its key, after the gap that its session
sees before it. -/
theorem decode_eq_said (hbs : Carries bs h sets) :
    ss.decode elements now exporter bs
      = ((ss.decode elements now exporter bs).1,
          .ok ((ss.bindings ⟨exporter, h.domain⟩).said elements
            ⟨exporter, h.domain, h.exportTime, h.sequence⟩ h
            ((ss.current now ⟨exporter, h.domain⟩).sequenceIssues h.sequence) sets)) := by
  rw [decode_of_carries elements ss now exporter hbs, Session.receive_eq, Session.produced_eq,
    context_current, bindings_current]

/-- **A packet reports what its sets say under the bindings in force**, and its key expects what
should follow it. -/
theorem follows_decode (hbs : Carries bs h sets) :
    ∃ ss' p, ss.decode elements now exporter bs = (ss', .ok p) ∧
      p.Follows elements ⟨exporter, h.domain, h.exportTime, h.sequence⟩
        (ss.bindings ⟨exporter, h.domain⟩) sets ∧
      p.header = h ∧ ss'.expected ⟨exporter, h.domain⟩ = p.next? := by
  have hdecode := decode_of_carries elements ss now exporter hbs
  have hfollows :=
    Session.follows_receive elements h (ss.current now ⟨exporter, h.domain⟩) sets
  rw [context_current, bindings_current] at hfollows
  refine ⟨_, _, hdecode, hfollows, rfl, ?_⟩
  rw [expected, Keyed.get?_insert, if_pos (key_receive_current elements ss now _)]
  exact Session.expected_settle _ _

/-- **A packet changes the bindings of its own key by what its sets announce**, and those of no
other key. -/
theorem bindings_decode_of_carries (hbs : Carries bs h sets) (K : SessionKey) :
    bindings (ss.decode elements now exporter bs).1 K
      = if K = ⟨exporter, h.domain⟩ then
          (ss.bindings K).fold ((ss.bindings K).announced elements sets)
        else ss.bindings K := by
  have hafter := bindings_decode elements ss K ⟨now, exporter, bs⟩
  have hsets : Arrival.setsFor ⟨now, exporter, bs⟩ K
      = if K = ⟨exporter, h.domain⟩ then sets else [] := by
    simp only [Arrival.setsFor, hbs.parse, hbs.split]
  rw [hsets] at hafter
  rw [hafter]
  split <;> rfl

end SessionTable

end FlowIntake
