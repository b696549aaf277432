/-
# Sets in one packet or in two

Where a packet ends makes no difference to what its sets say: those of two packets that come one
after the other for a session say the same in one packet, as long as none of the first ones ends it.
The sequence numbers differ, and with them the gaps.

* `Bindings.told_append`: what two lists of sets say together;
* `DecodedPacket.Follows.not_overruns`: a packet that nothing ends has read all its sets;
* `SessionTable.bindings_joined`: the templates that are left;
* `SessionTable.decode_joined`: packets in any sessions.
-/
import FlowIntake.Proofs.Packet.Contents

namespace FlowIntake

/-! ## 1. What sets say together -/

/-- **Sets after others say what they say alone**, under the bindings that those leave, in any
packets of one domain and time. -/
theorem Bindings.told_append (elements : Registry) (exporter : Address) {h h₁ h₂ : Header}
    (hdomain₁ : h₁.domain = h.domain) (hdomain₂ : h₂.domain = h.domain)
    (htime₁ : h₁.exportTime = h.exportTime) (htime₂ : h₂.exportTime = h.exportTime) {b : Bindings}
    {first : List RawSet} (hread : ∀ v ∈ b.visits elements first, ¬v.overruns = true)
    (later : List RawSet) :
    let p := b.told elements exporter h (first ++ later)
    let p₁ := b.told elements exporter h₁ first
    let p₂ := (b.fold (b.announced elements first)).told elements exporter h₂ later
    p.messages = p₁.messages ++ p₂.messages ∧ p.issues = p₁.issues ++ p₂.issues ∧
      p.changes = p₁.changes + p₂.changes := by
  simp only [told, visits_append elements hread, announced_append elements hread, hdomain₁,
    hdomain₂, htime₁, htime₂, List.flatMap_append, List.filterMap_append, changes_append, and_self]

/-- A packet whose issues do not end it has read all its sets. -/
theorem DecodedPacket.Follows.not_overruns {elements : Registry} {c : MessageContext} {b : Bindings}
    {sets : List RawSet} {p : DecodedPacket} (h : p.Follows elements c b sets)
    (hgo : ∀ i ∈ p.issues, ¬i.AbortsPacket) : ∀ v ∈ b.visits elements sets, ¬v.overruns = true := by
  intro v hv hover
  obtain ⟨i, hi, habort⟩ := (Visit.aborts_iff elements c v).mpr hover
  exact hgo i (h.mem_issues hv hi) habort

/-! ## 2. Packets one after another -/

namespace SessionTable

/-- A packet that is accepted, without its number, is what its sets say. -/
theorem unnumbered_of_decode {elements : Registry} {ss ss' : SessionTable} {now : Nat}
    {exporter : Address} {bs : Bytes} {h : Header} {sets : List RawSet} {p : DecodedPacket}
    (hbs : Carries bs h sets) (hdecode : ss.decode elements now exporter bs = (ss', .ok p)) :
    p.unnumbered = (ss.bindings ⟨exporter, h.domain⟩).told elements exporter h sets := by
  have hsaid := unnumbered_decode elements ss now exporter hbs.parse hbs.split
  rw [hdecode] at hsaid
  exact Except.ok.inj hsaid

/-- **Sets in one packet leave the templates that they leave in two.** -/
theorem bindings_joined {elements : Registry} {ss : SessionTable} {exporter : Address}
    {bs bs₁ bs₂ : Bytes} {h h₁ h₂ : Header} {first later : List RawSet} (now now₁ now₂ : Nat)
    (hbs : Carries bs h (first ++ later)) (hbs₁ : Carries bs₁ h₁ first)
    (hbs₂ : Carries bs₂ h₂ later) (hdomain₁ : h₁.domain = h.domain)
    (hdomain₂ : h₂.domain = h.domain)
    (hread : ∀ v ∈ (ss.bindings ⟨exporter, h.domain⟩).visits elements first, ¬v.overruns = true)
    (K : SessionKey) :
    bindings ((ss.decode elements now₁ exporter bs₁).1.decode elements now₂ exporter bs₂).1 K
      = bindings (ss.decode elements now exporter bs).1 K := by
  rw [bindings_decode_of_carries elements _ now₂ exporter hbs₂,
    bindings_decode_of_carries elements ss now₁ exporter hbs₁,
    bindings_decode_of_carries elements ss now exporter hbs, hdomain₁, hdomain₂]
  by_cases hkey : K = ⟨exporter, h.domain⟩
  · rw [← hkey] at hread
    simp only [if_pos hkey]
    rw [Bindings.announced_append elements hread, Bindings.fold_append]
  · simp only [if_neg hkey]

/-- **Where a packet ends makes no difference.**  The sets of a packet that is accepted can be sent
in two, under any sequence numbers.  Whatever the templates, when two packets of the same exporter,
domain and export time carry them, one after the other, and no record of the first overruns, the one
packet yields the messages and the issues of the two, one after the other, but for sequence numbers
and gaps; its counts are the sums of theirs, and it leaves the same templates under every key.  And
it comes to an end when both of the two do. -/
theorem decode_joined (elements : Registry) (ss : SessionTable) (exporter : Address)
    {bs : Bytes} {h : Header} {first later : List RawSet} (hbs : Carries bs h (first ++ later)) :
    (∀ n n' : UInt32, ∃ m m',
      Carries ({ h with sequence := n }.packet first) { h with sequence := n, length := m } first ∧
      Carries ({ h with sequence := n' }.packet later) { h with sequence := n', length := m' }
        later) ∧
    ∀ (now now₁ now₂ : Nat) {bs₁ bs₂ : Bytes} {h₁ h₂ : Header}, Carries bs₁ h₁ first →
      Carries bs₂ h₂ later → h₁.domain = h.domain → h₂.domain = h.domain →
      h₁.exportTime = h.exportTime → h₂.exportTime = h.exportTime →
      ∃ ss' p ss₁ p₁ ss₂ p₂, ss.decode elements now exporter bs = (ss', .ok p) ∧
        ss.decode elements now₁ exporter bs₁ = (ss₁, .ok p₁) ∧
        ss₁.decode elements now₂ exporter bs₂ = (ss₂, .ok p₂) ∧
        ((∀ i ∈ p₁.issues, ¬i.AbortsPacket) →
          p.messages.map Message.unnumbered
              = (p₁.messages ++ p₂.messages).map Message.unnumbered ∧
            (p.issues.filter fun i => !i.isGap)
              = (p₁.issues ++ p₂.issues).filter (fun i => !i.isGap) ∧
            p.changes = p₁.changes + p₂.changes ∧
            (∀ K, ss'.bindings K = ss₂.bindings K ∧
              ss'.templateCount K = ss₂.templateCount K) ∧
            ss.finishes elements now exporter bs
              = (ss.finishes elements now₁ exporter bs₁ &&
                  ss₁.finishes elements now₂ exporter bs₂)) := by
  refine ⟨fun n n' => ?_, ?_⟩
  · obtain ⟨m, hfirst⟩ := hbs.packet (List.sublist_append_left first later) n
    obtain ⟨m', hlater⟩ := hbs.packet (List.sublist_append_right first later) n'
    exact ⟨m, m', hfirst, hlater⟩
  · intro now now₁ now₂ bs₁ bs₂ h₁ h₂ hbs₁ hbs₂ hdomain₁ hdomain₂ htime₁ htime₂
    obtain ⟨ss', p, hdecode, -⟩ := follows_decode elements ss now exporter hbs
    obtain ⟨ss₁, p₁, hdecode₁, hfollows₁, -⟩ := follows_decode elements ss now₁ exporter hbs₁
    obtain ⟨ss₂, p₂, hdecode₂, -⟩ := follows_decode elements ss₁ now₂ exporter hbs₂
    refine ⟨ss', p, ss₁, p₁, ss₂, p₂, hdecode, hdecode₁, hdecode₂, fun hgo => ?_⟩
    have hread := hfollows₁.not_overruns hgo
    rw [hdomain₁] at hread
    have hafter := bindings_joined now now₁ now₂ hbs hbs₁ hbs₂ hdomain₁ hdomain₂ hread
    have hbetween := bindings_decode_of_carries elements ss now₁ exporter hbs₁ ⟨exporter, h.domain⟩
    simp only [hdecode, hdecode₁, hdecode₂] at hafter
    simp only [hdecode₁, hdomain₁, if_true] at hbetween
    -- each packet is what its sets say, the second under the bindings that the first leaves
    have hsaid := unnumbered_of_decode hbs hdecode
    have hsaid₁ := unnumbered_of_decode hbs₁ hdecode₁
    have hsaid₂ := unnumbered_of_decode hbs₂ hdecode₂
    rw [hdomain₁] at hsaid₁
    rw [hdomain₂, hbetween] at hsaid₂
    have htogether := Bindings.told_append elements exporter hdomain₁ hdomain₂ htime₁ htime₂ hread
      later
    rw [← hsaid, ← hsaid₁, ← hsaid₂] at htogether
    obtain ⟨hmessages, hissues, hchanges⟩ := htogether
    refine ⟨?_, ?_, hchanges, fun K => ⟨(hafter K).symm, ?_⟩, ?_⟩
    · rw [List.map_append]
      exact hmessages
    · rw [List.filter_append]
      exact hissues
    · rw [← size_bindings, ← size_bindings]
      exact congrArg Bindings.size (hafter K).symm
    · rw [finishes_of_carries elements ss now exporter hbs,
        finishes_of_carries elements ss now₁ exporter hbs₁,
        finishes_of_carries elements ss₁ now₂ exporter hbs₂, hdomain₁, hdomain₂, hbetween,
        Bindings.visits_append elements hread, List.all_append]

/-- A template and a record of it, in one packet or in two. -/
theorem record_after_its_template :
    let exporter : Address := .v4 ⟨[192, 0, 2, 1], rfl⟩
    let known : Builder := ({} : Builder).template 256 [⟨1, none, 1⟩]
    let joined : Builder := known.data 256 [[7]]
    let record : Builder := ({ sequence := 5 } : Builder).data 256 [[7]]
    ∃ ss' p ss₁ p₁ ss₂ p₂, decode .empty .empty 0 exporter joined.build = (ss', .ok p) ∧
      decode .empty .empty 0 exporter known.build = (ss₁, .ok p₁) ∧
      ss₁.decode .empty 1 exporter record.build = (ss₂, .ok p₂) ∧
      p.messages.length = 1 ∧
      p.messages.map Message.unnumbered = (p₁.messages ++ p₂.messages).map Message.unnumbered ∧
      ss'.bindings = ss₂.bindings := by
  intro exporter known joined record
  have hjoined : Carries joined.build joined.header joined.sets :=
    Builder.carries_build rfl (by decide)
  have hknown : Carries known.build known.header known.sets := Builder.carries_build rfl (by decide)
  have hrecord : Carries record.build record.header record.sets :=
    Builder.carries_build rfl (by decide)
  obtain ⟨ss', p, ss₁, p₁, ss₂, p₂, hdecode, hdecode₁, hdecode₂, hall⟩ :=
    (decode_joined .empty .empty exporter hjoined).2 0 0 1 hknown hrecord rfl rfl rfl rfl
  have hgo : ∀ i ∈ p₁.issues, ¬i.AbortsPacket := by
    rw [received_of_decode hknown hdecode₁]
    decide
  obtain ⟨hmessages, -, -, hsame, -⟩ := hall hgo
  refine ⟨ss', p, ss₁, p₁, ss₂, p₂, hdecode, hdecode₁, hdecode₂, ?_, hmessages,
    funext fun K => (hsame K).1⟩
  rw [received_of_decode hjoined hdecode]
  decide

end SessionTable

end FlowIntake
