/-
# What an issue leaves of its packet

An issue costs content of one set.  The sets before it have been read, and so have the records
before it in its own set; what becomes of the sets after it depends on the issue.  Where a record
overruns, the packet ends there; where the set is passed over, the packet is as if the set were not
in it.

* `SetIssue.SkipsSet`: issues for which a whole set is passed over;
* `Visit.silent_of_skips`, `Visit.records_of_report`: the messages of a set with an issue;
* `Bindings.reached`: a set that has reported is read under the bindings that those before it leave;
* `Bindings.said_of_skips`, `Session.receive_of_aborts`: the packet without the set, and without
  those after it;
* `SessionTable.issues_contained`: packets in any sessions.
-/
import FlowIntake.Proofs.Packet.Contents

namespace FlowIntake

/-! ## 1. What one set reports -/

/-- Whether the set is passed over as a whole. -/
def SetIssue.SkipsSet : SetIssue → Prop
  | missingTemplate _ | reservedSet _ => True
  | _ => False

/-- The failure of a record is reported with its place. -/
theorem SetIssue.ofRecord_eq {setId setId' : UInt16} {record record' : Nat} {e e' : FieldError}
    (h : ofRecord setId record e = .recordDecode setId' record' e' ∨
      ofRecord setId record e = .recordOverrun setId' record' e') :
    record = record' ∧ e = e' := by
  rcases ofRecord_cases setId record e with he | he <;> rw [he] at h <;>
    rcases h with h | h <;> cases h <;> exact ⟨rfl, rfl⟩

namespace Visit

variable {elements : Registry} {c : MessageContext} {v : Visit} {i : SetIssue}

/-- A set that is passed over has no messages and announces nothing. -/
theorem silent_of_skips (h : (v.report elements c).2 = some i) (hskip : i.SkipsSet) :
    (v.report elements c).1 = [] ∧ v.announcements elements = [] := by
  obtain ⟨_, _, -, rfl, -⟩ | ⟨hkind, -, hnone⟩ | ⟨hkind, -, -, hnone⟩ | ⟨t, e, -, -, -, rfl, -⟩ :=
    report_cases h
  · exact absurd hskip id
  · exact ⟨hnone, by rw [announcements, hkind]⟩
  · exact ⟨hnone, by rw [announcements, hkind]⟩
  · rcases SetIssue.ofRecord_cases v.set.id (t.records v.set.body).records.length e with hi | hi <;>
      rw [hi] at hskip <;> exact absurd hskip id

/-- Nor has it records, so that it comes to an end. -/
theorem finishes_of_skips (h : (v.report elements c).2 = some i) (hskip : i.SkipsSet) :
    v.finishes = true := by
  obtain ⟨_, _, -, rfl, -⟩ | ⟨hkind, -⟩ | ⟨hkind, hbound, -⟩ | ⟨t, e, -, -, -, rfl, -⟩ :=
    report_cases h
  · exact absurd hskip id
  · rw [finishes, hkind]
  · rw [finishes, hkind, hbound]
  · rcases SetIssue.ofRecord_cases v.set.id (t.records v.set.body).records.length e with hi | hi <;>
      rw [hi] at hskip <;> exact absurd hskip id

theorem overruns_iff_of_report (h : (v.report elements c).2 = some i) :
    v.overruns = true ↔ i.AbortsPacket := by
  rw [← aborts_iff elements c]
  constructor
  · rintro ⟨j, hj, habort⟩
    rw [h] at hj
    cases hj
    exact habort
  · exact fun habort => ⟨i, h, habort⟩

theorem not_overruns_of_skips (h : (v.report elements c).2 = some i) (hskip : i.SkipsSet) :
    ¬v.overruns = true := by
  rw [overruns_iff_of_report h]
  cases i <;> first | exact absurd hskip id | exact id

/-- **A set that a record ends has the messages of the records before it.** -/
theorem records_of_report {id : UInt16} {record : Nat} {e : FieldError}
    (h : (v.report elements c).2 = some i)
    (hi : i = .recordDecode id record e ∨ i = .recordOverrun id record e) :
    ∃ t records, v.bindings v.set.id = some t ∧
      DataRun t.fields (max t.minRecordLength 1) (Cursor.ofBytes v.set.body) records (some e) ∧
      records.length = record ∧ (v.report elements c).1 = records.map (c.message t) := by
  obtain ⟨_, _, -, rfl, -⟩ | ⟨-, rfl, -⟩ | ⟨-, -, rfl, -⟩ | ⟨t, e', -, hbound, hstop, rfl, hown⟩ :=
    report_cases h
  · rcases hi with hi | hi <;> cases hi
  · rcases hi with hi | hi <;> cases hi
  · rcases hi with hi | hi <;> cases hi
  · obtain ⟨hrecord, rfl⟩ := SetIssue.ofRecord_eq hi
    exact ⟨t, _, hbound, Template.dataRun_of_stop hstop, hrecord, hown⟩

end Visit

/-! ## 2. Sets in their order -/

namespace Bindings

variable {elements : Registry} {c : MessageContext} {b : Bindings}

/-- The sets that are read are the first ones. -/
theorem sets_visits_initial (elements : Registry) (b : Bindings) (sets : List RawSet) :
    (b.visits elements sets).map Visit.set <+: sets := by
  induction sets generalizing b with
  | nil => exact List.prefix_rfl
  | cons set sets ih =>
    by_cases h : (Visit.mk set b).overruns = true
    · rw [visits_overruns elements h]
      exact ⟨sets, rfl⟩
    · rw [visits_cons elements h, List.map_cons]
      exact List.cons_prefix_cons.mpr ⟨rfl, ih _⟩

theorem length_reports_le (elements : Registry) (c : MessageContext) (b : Bindings)
    (sets : List RawSet) : (b.reports elements c sets).length ≤ sets.length := by
  have hle := (sets_visits_initial elements b sets).length_le
  rw [reports, List.length_map]
  rwa [List.length_map] at hle

/-- Only the last of the sets that are read can end the packet. -/
theorem pairwise_reports (elements : Registry) (c : MessageContext) (b : Bindings)
    (sets : List RawSet) :
    (b.reports elements c sets).reduceOption.Pairwise fun i _ => ¬i.AbortsPacket := by
  rw [List.reduceOption, List.pairwise_filterMap]
  induction sets generalizing b with
  | nil => exact List.Pairwise.nil
  | cons set sets ih =>
    by_cases h : (Visit.mk set b).overruns = true
    · rw [reports, visits_overruns elements h]
      exact List.pairwise_singleton _ _
    · rw [reports, visits_cons elements h, List.map_cons]
      refine List.Pairwise.cons (fun _ _ i hi _ _ habort => h ?_) (ih _)
      exact (Visit.aborts_iff elements c _).mp ⟨i, hi, habort⟩

/-- Only the last issue of a packet can end it. -/
theorem pairwise_said {h : Header} {gaps : List SetIssue} {sets : List RawSet}
    (hgaps : ∀ g ∈ gaps, ¬g.AbortsPacket) :
    (b.said elements c h gaps sets).issues.Pairwise fun i _ => ¬i.AbortsPacket :=
  List.pairwise_append.mpr ⟨List.pairwise_of_forall_mem_list fun g hg _ _ => hgaps g hg,
    pairwise_reports elements c b sets, fun g hg _ _ => hgaps g hg⟩

/-- Where none overruns, all sets are read. -/
theorem length_visits {sets : List RawSet} (h : ∀ v ∈ b.visits elements sets, ¬v.overruns = true) :
    (b.visits elements sets).length = sets.length := by
  induction sets generalizing b with
  | nil => rfl
  | cons set sets ih =>
    have hfirst := h _ (mem_visits_cons elements b set sets)
    rw [visits_cons elements hfirst] at h ⊢
    exact congrArg Nat.succ (ih fun v hv => h v (List.mem_cons_of_mem _ hv))

/-- The first of the sets, and what is read after it. -/
theorem exists_visits_cons (elements : Registry) (b : Bindings) (set : RawSet)
    (sets : List RawSet) : ∃ vs, b.visits elements (set :: sets) = ⟨set, b⟩ :: vs := by
  by_cases h : (Visit.mk set b).overruns = true
  · exact ⟨[], visits_overruns elements h sets⟩
  · exact ⟨_, visits_cons elements h sets⟩

variable {earlier later : List RawSet} {set : RawSet}

/-- Sets of which none overruns report, and then the others. -/
theorem reports_append (h : ∀ v ∈ b.visits elements earlier, ¬v.overruns = true)
    (later : List RawSet) :
    b.reports elements c (earlier ++ later)
      = b.reports elements c earlier ++
          (b.fold (b.announced elements earlier)).reports elements c later := by
  rw [reports, visits_append elements h, List.map_append]
  rfl

/-- **A set that has reported is read under the bindings that those before it leave**, none of which
overruns. -/
theorem reached {report : Option SetIssue}
    (h : (b.reports elements c (earlier ++ set :: later))[earlier.length]? = some report) :
    (∀ v ∈ b.visits elements earlier, ¬v.overruns = true) ∧
      ((Visit.mk set (b.fold (b.announced elements earlier))).report elements c).2 = report := by
  have hearlier : ∀ v ∈ b.visits elements earlier, ¬v.overruns = true := by
    intro v hv hover
    rw [reports, visits_append_of_overruns elements hv hover] at h
    obtain ⟨hlt, -⟩ := List.getElem?_eq_some_iff.mp h
    exact absurd hlt (Nat.not_lt.mpr (length_reports_le elements c b earlier))
  have hlength : (b.reports elements c earlier).length = earlier.length := by
    rw [reports, List.length_map, length_visits hearlier]
  obtain ⟨vs, hvs⟩ := exists_visits_cons elements (b.fold (b.announced elements earlier)) set later
  rw [reports_append hearlier, List.getElem?_append_right (Nat.le_of_eq hlength), hlength,
    Nat.sub_self, reports, hvs] at h
  exact ⟨hearlier, Option.some.inj h⟩

/-- After a set that ends the packet nothing is read. -/
theorem visits_of_aborts {i : SetIssue}
    (hreport : (b.reports elements c (earlier ++ set :: later))[earlier.length]? = some (some i))
    (habort : i.AbortsPacket) :
    b.visits elements (earlier ++ [set]) = b.visits elements (earlier ++ set :: later) := by
  obtain ⟨hearlier, hset⟩ := reached hreport
  have hover := (Visit.overruns_iff_of_report hset).mpr habort
  rw [visits_append elements hearlier, visits_append elements hearlier,
    visits_overruns elements hover, visits_overruns elements hover]

/-- Nor is anything reported. -/
theorem length_reports_of_aborts {i : SetIssue}
    (hreport : (b.reports elements c (earlier ++ set :: later))[earlier.length]? = some (some i))
    (habort : i.AbortsPacket) :
    (b.reports elements c (earlier ++ set :: later)).length = earlier.length + 1 := by
  obtain ⟨hearlier, hset⟩ := reached hreport
  have hover := (Visit.overruns_iff_of_report hset).mpr habort
  rw [reports, List.length_map, visits_append elements hearlier, visits_overruns elements hover,
    List.length_append, length_visits hearlier, List.length_singleton]

/-- The messages begin with those of the earlier sets and of the set itself. -/
theorem messages_of_reached (h : Header) (gaps : List SetIssue) (set : RawSet)
    (later : List RawSet) (hearlier : ∀ v ∈ b.visits elements earlier, ¬v.overruns = true) :
    let v : Visit := ⟨set, b.fold (b.announced elements earlier)⟩
    ∃ rest, (b.said elements c h gaps (earlier ++ set :: later)).messages
      = (b.said elements c h gaps earlier).messages ++ (v.report elements c).1 ++ rest := by
  obtain ⟨vs, hvs⟩ := exists_visits_cons elements (b.fold (b.announced elements earlier)) set later
  refine ⟨vs.flatMap fun v => (v.report elements c).1, ?_⟩
  simp only [said]
  rw [visits_append elements hearlier, hvs, List.flatMap_append, List.flatMap_cons,
    List.append_assoc]

/-- **The other sets are read as if a set that is passed over were not there.** -/
theorem visits_of_skips {i : SetIssue}
    (hreport : (b.reports elements c (earlier ++ set :: later))[earlier.length]? = some (some i))
    (hskip : i.SkipsSet) :
    let b' := b.fold (b.announced elements earlier)
    b.visits elements (earlier ++ set :: later)
        = b.visits elements earlier ++ ⟨set, b'⟩ :: b'.visits elements later ∧
      b.visits elements (earlier ++ later)
        = b.visits elements earlier ++ b'.visits elements later := by
  intro b'
  obtain ⟨hearlier, hset⟩ := reached hreport
  have hgo := Visit.not_overruns_of_skips hset hskip
  have hvisits := visits_cons elements hgo later
  rw [(Visit.silent_of_skips hset hskip).2] at hvisits
  refine ⟨?_, visits_append elements hearlier later⟩
  rw [visits_append elements hearlier, hvisits]
  rfl

/-- **Without a set that is passed over the packet says the same** but for its issue. -/
theorem said_of_skips {i : SetIssue} (h : Header) (gaps : List SetIssue)
    (hreport : (b.reports elements c (earlier ++ set :: later))[earlier.length]? = some (some i))
    (hskip : i.SkipsSet) :
    let p := b.said elements c h gaps (earlier ++ set :: later)
    let p' := b.said elements c h gaps (earlier ++ later)
    p'.messages = p.messages ∧ p'.changes = p.changes ∧
      (∃ before after, p.issues = before ++ i :: after ∧ p'.issues = before ++ after) ∧
      b.announced elements (earlier ++ later) = b.announced elements (earlier ++ set :: later) := by
  intro p p'
  obtain ⟨-, hset⟩ := reached hreport
  obtain ⟨hsilent, hnothing⟩ := Visit.silent_of_skips hset hskip
  obtain ⟨hwith, hwithout⟩ := visits_of_skips hreport hskip
  have hannounced : b.announced elements (earlier ++ later)
      = b.announced elements (earlier ++ set :: later) := by
    rw [announced, announced, hwith, hwithout, List.flatMap_append, List.flatMap_append,
      List.flatMap_cons, hnothing, List.nil_append]
  have hmessages : p'.messages = p.messages := by
    simp only [p, p', said, hwith, hwithout, List.flatMap_append, List.flatMap_cons, hsilent,
      List.nil_append]
  let b' := b.fold (b.announced elements earlier)
  have hbefore : p.issues = gaps ++ (b.reports elements c earlier).reduceOption
      ++ i :: (b'.reports elements c later).reduceOption := by
    simp only [p, said, reports]
    rw [hwith, List.map_append, List.map_cons, hset, List.reduceOption_append,
      List.reduceOption_cons_of_some, List.append_assoc]
  have hafter : p'.issues = gaps ++ (b.reports elements c earlier).reduceOption
      ++ (b'.reports elements c later).reduceOption := by
    simp only [p', said, reports]
    rw [hwithout, List.map_append, List.reduceOption_append, List.append_assoc]
  exact ⟨hmessages, congrArg b.changes hannounced, ⟨_, _, hbefore, hafter⟩, hannounced⟩

/-- Without it the packet comes to an end if it does with it. -/
theorem finishes_of_skips {i : SetIssue}
    (hreport : (b.reports elements c (earlier ++ set :: later))[earlier.length]? = some (some i))
    (hskip : i.SkipsSet) :
    (b.visits elements (earlier ++ later)).all Visit.finishes
      = (b.visits elements (earlier ++ set :: later)).all Visit.finishes := by
  obtain ⟨-, hset⟩ := reached hreport
  obtain ⟨hwith, hwithout⟩ := visits_of_skips hreport hskip
  rw [hwith, hwithout, List.all_append, List.all_append, List.all_cons,
    Visit.finishes_of_skips hset hskip, Bool.true_and]

end Bindings

/-! ## 3. Packets in their session -/

namespace Session

variable {elements : Registry} {h : Header}

theorem not_aborts_of_visits {s : Session} {sets : List RawSet}
    (hsets : ∀ v ∈ s.bindings.visits elements sets, ¬v.overruns = true) :
    ∀ y ∈ (s.decodeSets elements h sets).2, ∀ i, y.issue = some i → ¬i.AbortsPacket := by
  intro y hy i hi habort
  rw [(decodeSets_visits elements h s sets).1] at hy
  obtain ⟨v, hv, rfl⟩ := List.mem_map.mp hy
  exact hsets v hv ((Visit.aborts_iff elements (s.context h) v).mp ⟨i, hi, habort⟩)

/-- **After a set that ends the packet the others make no difference**, not even to the sequence
number that is expected. -/
theorem receive_of_aborts {s : Session} {earlier later : List RawSet} {set : RawSet} {i : SetIssue}
    (hreport : (s.bindings.reports elements (s.context h)
      (earlier ++ set :: later))[earlier.length]? = some (some i))
    (habort : i.AbortsPacket) :
    s.receive elements h (earlier ++ set :: later) = s.receive elements h (earlier ++ [set]) := by
  obtain ⟨hearlier, hset⟩ := Bindings.reached hreport
  have hcontext : (s.decodeSets elements h earlier).1.context h = s.context h := by
    obtain ⟨table, htable⟩ := decodeSets_frame elements h s earlier
    rw [htable]
    rfl
  have hissue : ((s.decodeSets elements h earlier).1.decodeSet elements h set).2.issue
      = some i := by
    rw [decodeSet_yield, (decodeSets_visits elements h s earlier).2, hcontext]
    exact hset
  have hsets := decodeSets_append_abort (not_aborts_of_visits hearlier) hissue habort later
  simp only [receive, hsets]

end Session

namespace SessionTable

/-- Packets of one domain that announce the same leave the same templates. -/
theorem bindings_decode_congr (elements : Registry) (ss : SessionTable) (now : Nat)
    (exporter : Address) {bs bs' : Bytes} {h h' : Header} {sets sets' : List RawSet}
    (hbs : Carries bs h sets) (hbs' : Carries bs' h' sets') (hdomain : h'.domain = h.domain)
    (hannounced : (ss.bindings ⟨exporter, h.domain⟩).announced elements sets'
      = (ss.bindings ⟨exporter, h.domain⟩).announced elements sets) (K : SessionKey) :
    bindings (ss.decode elements now exporter bs').1 K
      = bindings (ss.decode elements now exporter bs).1 K := by
  rw [bindings_decode_of_carries elements ss now exporter hbs,
    bindings_decode_of_carries elements ss now exporter hbs', hdomain]
  split
  · rename_i hkey
    rw [hkey, hannounced]
  · rfl

/-- **The sets after one that ends the packet make no difference**: without them the packet yields
the same, under another length, and leaves the same sessions. -/
theorem decode_of_aborts (elements : Registry) (ss : SessionTable) (now : Nat) (exporter : Address)
    {bs bs' : Bytes} {h : Header} {m : UInt16} {earlier later : List RawSet} {set : RawSet}
    {i : SetIssue} (hbs : Carries bs h (earlier ++ set :: later))
    (hbs' : Carries bs' { h with length := m } (earlier ++ [set]))
    (hreport : ((ss.bindings ⟨exporter, h.domain⟩).reports elements
        ⟨exporter, h.domain, h.exportTime, h.sequence⟩
        (earlier ++ set :: later))[earlier.length]? = some (some i))
    (habort : i.AbortsPacket) :
    ss.decode elements now exporter bs'
      = ((ss.decode elements now exporter bs).1,
          (ss.decode elements now exporter bs).2.map fun p =>
            { p with header := { h with length := m } }) := by
  rw [← context_current ss now, ← bindings_current ss now] at hreport
  rw [decode_of_carries elements ss now exporter hbs,
    decode_of_carries elements ss now exporter hbs', Session.receive_resized,
    Session.receive_of_aborts hreport habort]
  rfl

/-- **An issue costs content of its own set, or the sets after it.**  Whatever the templates, a
packet that is accepted reports its sets in their order, each at most once, after at most one gap;
and for every set that reports an issue:

* the issue names the set, and when it is an overrun no later set is reported;
* when the set is reserved or has no template, the packet without it has the same messages and
  counts, all the other issues, and leaves the same templates under every key;
* when a record of it overruns, the packet without the later sets has the same messages, issues and
  counts, and leaves the same sessions;
* the messages begin with those of the packet of the earlier sets, and then, when a record of the
  set fails, with one for each record before it.

The packets without the set, or without the later ones, come to an end if the whole one does and
only then, and that of the earlier sets does if the whole one does. -/
theorem issues_contained (elements : Registry) (ss : SessionTable) (now : Nat)
    (exporter : Address) {bs : Bytes} {h : Header} {sets : List RawSet} (hbs : Carries bs h sets) :
    let K : SessionKey := ⟨exporter, h.domain⟩
    let c : MessageContext := ⟨exporter, h.domain, h.exportTime, h.sequence⟩
    let reports := (ss.bindings K).reports elements c sets
    ∃ ss' p, ss.decode elements now exporter bs = (ss', .ok p) ∧
      (∃ gaps : List SetIssue, gaps.length ≤ 1 ∧ (∀ g ∈ gaps, g.isGap = true) ∧
        p.issues = gaps ++ reports.reduceOption) ∧
      reports.length ≤ sets.length ∧ (p.issues.Pairwise fun i _ => ¬i.AbortsPacket) ∧
      ∀ (earlier : List RawSet) (set : RawSet) (later : List RawSet) (i : SetIssue),
        sets = earlier ++ set :: later → reports[earlier.length]? = some (some i) →
        (i.setId? = some set.id ∧ (i.AbortsPacket → reports.length = earlier.length + 1)) ∧
        (i.SkipsSet →
          ∃ ss₁ p₁, ss.decode elements now exporter (h.packet (earlier ++ later)) = (ss₁, .ok p₁) ∧
            ss.finishes elements now exporter (h.packet (earlier ++ later))
              = ss.finishes elements now exporter bs ∧
            p₁.messages = p.messages ∧ p₁.changes = p.changes ∧
            (∃ before after, p.issues = before ++ i :: after ∧ p₁.issues = before ++ after) ∧
            ∀ K', ss₁.bindings K' = ss'.bindings K' ∧
              ss₁.templateCount K' = ss'.templateCount K') ∧
        (i.AbortsPacket →
          ss.finishes elements now exporter (h.packet (earlier ++ [set]))
              = ss.finishes elements now exporter bs ∧
            ∃ m, ss.decode elements now exporter (h.packet (earlier ++ [set]))
              = (ss', .ok { p with header := { h with length := m } })) ∧
        ∃ ss₀ p₀ own rest, ss.decode elements now exporter (h.packet earlier) = (ss₀, .ok p₀) ∧
          (ss.finishes elements now exporter bs = true →
            ss.finishes elements now exporter (h.packet earlier) = true) ∧
          p.messages = p₀.messages ++ own ++ rest ∧
          ∀ (record : Nat) (e : FieldError),
            i = .recordDecode set.id record e ∨ i = .recordOverrun set.id record e →
            ∃ t records, ss₀.template? K set.id = some t ∧
              DataRun t.fields (max t.minRecordLength 1) (Cursor.ofBytes set.body) records
                (some e) ∧
              records.length = record ∧ own = records.map (c.message t) := by
  intro K c reports
  let gaps := (ss.current now K).sequenceIssues h.sequence
  have hsaid := decode_eq_said elements ss now exporter hbs
  have hgaps : ∀ g ∈ gaps, g.isGap = true := fun g hg => Session.isGap_of_mem_sequenceIssues hg
  refine ⟨_, _, hsaid,
    ⟨gaps, Session.length_sequenceIssues_le _ h.sequence, hgaps, rfl⟩,
    Bindings.length_reports_le elements c _ sets, ?lastOnly, ?_⟩
  case lastOnly =>
    refine Bindings.pairwise_said fun g hg habort => ?_
    exact Session.not_losesRecords_of_gap hg (SetIssue.losesRecords_of_abortsPacket habort)
  rintro earlier set later i rfl hreport
  obtain ⟨hearlier, hset⟩ := Bindings.reached hreport
  refine ⟨⟨Visit.setId?_of_report hset, Bindings.length_reports_of_aborts hreport⟩,
    fun hskip => ?skipped, fun habort => ?cut, ?kept⟩
  case skipped =>
    have hsub : (earlier ++ later).Sublist (earlier ++ set :: later) :=
      (List.sublist_cons_self set later).append_left earlier
    obtain ⟨m, hless⟩ := hbs.part hsub
    obtain ⟨hmessages, hchanges, hissues, hannounced⟩ := Bindings.said_of_skips h gaps hreport hskip
    have hsame := bindings_decode_congr elements ss now exporter hbs hless rfl hannounced
    have hends := Bindings.finishes_of_skips hreport hskip
    rw [← finishes_of_carries elements ss now exporter hbs,
      ← finishes_of_carries elements ss now exporter hless] at hends
    refine ⟨_, _, decode_eq_said elements ss now exporter hless, hends, hmessages,
      hchanges, hissues, fun K' => ⟨hsame K', ?_⟩⟩
    rw [← size_bindings, ← size_bindings]
    exact congrArg Bindings.size (hsame K')
  case cut =>
    have hsub : (earlier ++ [set]).Sublist (earlier ++ set :: later) :=
      (List.singleton_sublist.mpr List.mem_cons_self).append_left earlier
    obtain ⟨m, hcut⟩ := hbs.part hsub
    have hdecode := decode_of_aborts elements ss now exporter hbs hcut hreport habort
    have hends := finishes_of_carries elements ss now exporter hcut
    rw [hsaid] at hdecode
    rw [Bindings.visits_of_aborts hreport habort] at hends
    exact ⟨hends.trans (finishes_of_carries elements ss now exporter hbs).symm, m, hdecode⟩
  case kept =>
    obtain ⟨m, hfirst⟩ := hbs.part (List.sublist_append_left earlier (set :: later))
    obtain ⟨rest, hmessages⟩ := Bindings.messages_of_reached h gaps set later hearlier
    have hbindings := bindings_decode_of_carries elements ss now exporter hfirst K
    rw [if_pos rfl] at hbindings
    refine ⟨_, _, _, rest, decode_eq_said elements ss now exporter hfirst, fun hends => ?_,
      hmessages, fun record e hi => ?_⟩
    · rw [finishes_of_carries elements ss now exporter hbs,
        Bindings.visits_append elements hearlier, List.all_append, Bool.and_eq_true] at hends
      exact (finishes_of_carries elements ss now exporter hfirst).trans hends.1
    obtain ⟨t, records, hbound, hrun, hrecord, hown⟩ := Visit.records_of_report hset hi
    exact ⟨t, records, (congrFun hbindings set.id).trans hbound, hrun, hrecord, hown⟩

/-- A set without a template, between a template and a record of it: without it the record has the
same message, and the template stays. -/
theorem unknown_set_is_passed_over :
    let exporter : Address := .v4 ⟨[192, 0, 2, 1], rfl⟩
    let known : Builder := ({} : Builder).template 256 [⟨1, none, 1⟩]
    let whole : Builder := (known.data 300 [[1]]).data 256 [[7]]
    let rest : Builder := known.data 256 [[7]]
    ∃ ss' p ss₁ p₁, decode .empty .empty 0 exporter whole.build = (ss', .ok p) ∧
      decode .empty .empty 0 exporter rest.build = (ss₁, .ok p₁) ∧
      p.messages.length = 1 ∧ p₁.messages = p.messages ∧
      SetIssue.missingTemplate 300 ∈ p.issues ∧ ss₁.bindings = ss'.bindings := by
  intro exporter known whole rest
  have hcarries : Carries whole.build whole.header whole.sets :=
    Builder.carries_build rfl (by decide)
  obtain ⟨ss', p, hdecode, -, -, -, hall⟩ := issues_contained .empty .empty 0 exporter hcarries
  obtain ⟨-, hskipped, -⟩ := hall known.sets ⟨300, [1]⟩ [⟨256, [7]⟩] (.missingTemplate 300) rfl
    (by decide)
  obtain ⟨ss₁, p₁, hrest, -, hmessages, -, ⟨before, after, hissues, -⟩, hsame⟩ := hskipped trivial
  refine ⟨ss', p, ss₁, p₁, hdecode, hrest, ?_, hmessages, ?_, funext fun K => (hsame K).1⟩
  · rw [received_of_decode hcarries hdecode]
    decide
  · rw [hissues]
    exact List.mem_append_right _ List.mem_cons_self

end SessionTable

end FlowIntake
