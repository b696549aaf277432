/-
# Which packets are accepted

A packet is accepted exactly when it is framed, whatever its sets hold, and one that is refused
leaves no trace.  Nothing comes between but a template that was installed and whose records take no
octets: then the sets of a framed packet need not come to an end, and it is neither accepted nor
refused.

* `SessionTable.accepted_iff`, `SessionTable.framed_of_accepted`: packets that are accepted;
* `SessionTable.refused_of_not_framed`, `SessionTable.not_framed_of_refused`: packets that are
  refused;
* `SessionTable.accepts_iff_framed`: the collector accepts those that are framed, and the others
  change nothing.
-/
import FlowIntake.Proofs.Session.Isolation

namespace FlowIntake.SessionTable

variable {elements : Registry} {ss ss' : SessionTable} {now : Nat} {exporter : Address} {bs : Bytes}

/-- A framed packet is read as the sets that fill it. -/
theorem exists_decode_of_framed (elements : Registry) (ss : SessionTable) (now : Nat)
    (exporter : Address) {sets : List RawSet} (h : Framed sets bs) :
    ∃ ss' p, ss.decode elements now exporter bs = (ss', .ok p) ∧
      splitSets p.header bs = .ok sets := by
  obtain ⟨hd, hparse, hsplit⟩ := framed_iff.mp h
  exact ⟨_, _, decode_of_framed elements ss now exporter hparse hsplit, hsplit⟩

/-- Any other packet is refused, and every session stays as it is. -/
theorem refused_of_not_framed (elements : Registry) (ss : SessionTable) (now : Nat)
    (exporter : Address) (h : ¬∃ sets, Framed sets bs) :
    ∃ e, ss.decode? elements now exporter bs = some (ss, .error e) := by
  rcases decode_cases bs with ⟨e, hfault⟩ | ⟨hd, sets, hparse, hsplit⟩
  · obtain ⟨hdecode, hends⟩ := hfault elements ss now exporter
    exact ⟨e, decode?_eq_some_iff.mpr ⟨hends, hdecode⟩⟩
  · exact absurd ⟨sets, framed_iff.mpr ⟨hd, hparse, hsplit⟩⟩ h

/-- What is accepted has been cut into the sets that fill it. -/
theorem framed_of_accepted {p : DecodedPacket}
    (h : ss.decode? elements now exporter bs = some (ss', .ok p)) :
    ∃ sets, splitSets p.header bs = .ok sets ∧ Framed sets bs := by
  obtain ⟨-, hread⟩ := decode?_eq_some_iff.mp h
  rcases decode_cases bs with ⟨e, hfault⟩ | ⟨hd, sets, hparse, hsplit⟩
  · cases (hfault elements ss now exporter).1.symm.trans hread
  · rw [decode_of_framed elements ss now exporter hparse hsplit] at hread
    cases hread
    exact ⟨sets, hsplit, framed_iff.mpr ⟨hd, hparse, hsplit⟩⟩

/-- What is refused is not framed. -/
theorem not_framed_of_refused {e : PacketError}
    (h : ss.decode? elements now exporter bs = some (ss', .error e)) :
    ¬∃ sets, Framed sets bs := by
  rintro ⟨sets, hframed⟩
  obtain ⟨ss'', p, hread, -⟩ := exists_decode_of_framed elements ss now exporter hframed
  obtain ⟨-, hrefused⟩ := decode?_eq_some_iff.mp h
  cases hread.symm.trans hrefused

/-- A packet is accepted if it is framed and reading it comes to an end. -/
theorem accepted_iff : (∃ ss' p, ss.decode? elements now exporter bs = some (ss', .ok p)) ↔
    (∃ sets, Framed sets bs) ∧ ss.finishes elements now exporter bs = true := by
  constructor
  · rintro ⟨ss', p, hdecode⟩
    obtain ⟨sets, -, hframed⟩ := framed_of_accepted hdecode
    exact ⟨⟨sets, hframed⟩, (decode?_eq_some_iff.mp hdecode).1⟩
  · rintro ⟨⟨sets, hframed⟩, hends⟩
    obtain ⟨ss', p, hread, -⟩ := exists_decode_of_framed elements ss now exporter hframed
    exact ⟨ss', p, decode?_eq_some_iff.mpr ⟨hends, hread⟩⟩

/-- **A collector accepts the packets that are framed, and the others leave no trace.**  Whatever
the sessions are, a packet is accepted if it is framed and reading it comes to an end; and that it
does in all sessions that any calls lead to, as long as they install no template whose records take
no octets.  What an accepted packet is cut into are the sets that fill it, the only ones to do so,
and written one after another they are the octets between the header and the declared end.  A packet
is refused if it is not framed, and then, whatever stands before the fault, the sessions stay as
they are. -/
theorem accepts_iff_framed (elements : Registry) (ss : SessionTable) (now : Nat)
    (exporter : Address) (bs : Bytes) :
    ((∃ ss' p, ss.decode? elements now exporter bs = some (ss', .ok p)) ↔
      (∃ sets, Framed sets bs) ∧ ss.finishes elements now exporter bs = true) ∧
    (∀ calls : List TimedCall, (∀ e ∈ calls, e.call.IsProductive) →
      ss = (run elements .empty calls).sessions →
        ss.finishes elements now exporter bs = true ∧
          ((∃ ss' p, ss.decode? elements now exporter bs = some (ss', .ok p)) ↔
            ∃ sets, Framed sets bs)) ∧
    (∀ ss' p, ss.decode? elements now exporter bs = some (ss', .ok p) →
      ∃ sets, splitSets p.header bs = .ok sets ∧ Framed sets bs ∧
        (∀ sets', Framed sets' bs → sets' = sets) ∧
        sets.flatMap RawSet.bytes = (bs.take (declaredLength bs)).drop Header.size) ∧
    ((∃ ss' e, ss.decode? elements now exporter bs = some (ss', .error e)) ↔
      ¬∃ sets, Framed sets bs) ∧
    ∀ ss' e, ss.decode? elements now exporter bs = some (ss', .error e) → ss' = ss := by
  refine ⟨accepted_iff, ?_, ?_, ⟨?_, ?_⟩, ?_⟩
  · rintro calls hcalls rfl
    have hends := (productive_run elements .empty hcalls).2.finishes elements now exporter bs
    exact ⟨hends, accepted_iff.trans (and_iff_left hends)⟩
  · intro ss' p hdecode
    obtain ⟨sets, hsplit, hframed⟩ := framed_of_accepted hdecode
    have hwritten := hframed.fills.eq_flatMap.1.symm
    exact ⟨sets, hsplit, hframed, fun sets' h' => h'.unique hframed, hwritten⟩
  · rintro ⟨ss', e, hdecode⟩
    exact not_framed_of_refused hdecode
  · intro hframed
    obtain ⟨e, he⟩ := refused_of_not_framed elements ss now exporter hframed
    exact ⟨ss, e, he⟩
  · intro ss' e hdecode
    have hframed := not_framed_of_refused hdecode
    obtain ⟨e', he'⟩ := refused_of_not_framed elements ss now exporter hframed
    cases he'.symm.trans hdecode
    rfl

/-- After a packet that announces a template one that withdraws it is accepted, for the set that it
holds; when it goes on with a set that runs past its end it is refused, and the template stays. -/
theorem withdrawal_before_fault_is_void :
    let K : SessionKey := ⟨.v4 ⟨[192, 0, 2, 1], rfl⟩, 0⟩
    let announced : Builder := ({} : Builder).template 256 [⟨1, none, 8⟩]
    let ss := (run .empty .empty [⟨0, .decode K.exporter announced.build⟩]).sessions
    let withdrawn : Builder := ({} : Builder).withdrawal 2 256
    let cut := (⟨10, 28, 0, 0, 0⟩ : Header).bytes ++ (withdrawn.body ++ [1, 0, 0, 9])
    (ss.template? K 256).isSome ∧
      (∃ ss' p, ss.decode? .empty 1 K.exporter withdrawn.build = some (ss', .ok p) ∧
        splitSets p.header withdrawn.build = .ok [⟨2, [1, 0, 0, 0]⟩] ∧
        ss'.template? K 256 = none) ∧
      ss.decode? .empty 1 K.exporter cut = some (ss, .error (.setOverrun 256 9 4)) := by
  intro K announced ss withdrawn cut
  have hannounced : Carries announced.build announced.header announced.sets :=
    Builder.carries_build rfl (by decide)
  have hwithdrawn : Carries withdrawn.build withdrawn.header withdrawn.sets :=
    Builder.carries_build rfl (by decide)
  have hss : ss = Keyed.insert (.empty : SessionTable)
      ((current .empty 0 K).receive .empty announced.header announced.sets).1 := by
    simp only [ss, run_cons (step?_of_carries .empty .empty 0 K.exporter hannounced)]
    rfl
  refine ⟨by rw [hss]; decide, ?_, ?_⟩
  · have hframed : Framed withdrawn.sets withdrawn.build :=
      framed_iff.mpr ⟨_, hwithdrawn.parse, hwithdrawn.split⟩
    obtain ⟨-, hreached, hsets, -⟩ := accepts_iff_framed .empty ss 1 K.exporter withdrawn.build
    obtain ⟨-, hiff⟩ := hreached _ (by simp [Call.IsProductive]) rfl
    obtain ⟨ss', p, hdecode⟩ := hiff.mpr ⟨_, hframed⟩
    obtain ⟨sets, hsplit, -, hunique, -⟩ := hsets ss' p hdecode
    rw [← hunique _ hframed] at hsplit
    refine ⟨ss', p, hdecode, hsplit, ?_⟩
    have hread := (decode?_eq_some_iff.mp hdecode).2
    rw [decode_of_carries .empty ss 1 K.exporter hwithdrawn, hss] at hread
    obtain ⟨rfl, -⟩ := Prod.mk.inj hread
    decide
  · have hparse : Header.parse cut = .ok ⟨10, 28, 0, 0, 0⟩ :=
      Header.parse_bytes_append rfl (by decide) (by decide)
    have hfault : splitBody [1, 0, 0, 9] = .error (.setOverrun 256 9 4) := by
      rw [splitBody]
      decide
    have hsplit : splitSets ⟨10, 28, 0, 0, 0⟩ cut = .error (.setOverrun 256 9 4) := by
      have hbody : withdrawn.body = (⟨2, [1, 0, 0, 0]⟩ : RawSet).bytes := rfl
      rw [splitSets, Header.body_bytes_append rfl, hbody, splitBody_bytes_append (by decide),
        hfault]
      rfl
    obtain ⟨ss', hrefused⟩ : ∃ ss', ss.decode? .empty 1 K.exporter cut
        = some (ss', .error (.setOverrun 256 9 4)) := by
      refine ⟨ss, ?_⟩
      rw [decode?, decode, finishes, hparse]
      simp only [hsplit, if_true]
    obtain ⟨-, -, -, -, hvoid⟩ := accepts_iff_framed .empty ss 1 K.exporter cut
    rw [hvoid ss' _ hrefused] at hrefused
    exact hrefused

end FlowIntake.SessionTable
