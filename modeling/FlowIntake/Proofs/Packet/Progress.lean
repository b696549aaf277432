/-
# The end of a data set

A record that takes octets leaves fewer to the next.  A template need not make it take any: those
that packets announce do, but every template can be installed, and one whose fields have length zero
lays out records of nothing.  As long as an octet is left such a record is read and leaves it where
it was, so that nothing brings the records of the set to an end.

* `Template.Terminates`: the records of a body come to an end;
* `Template.IsVacuous`: the records of a template take no octets, and are records all the same;
* `Template.terminates_iff`: when the records of a body come to an end;
* `DataRun.length_le_remaining`: those that do are at most as many as the octets;
* `RecordsTo.readRecords?_eq_none`: a loop that has records before it still reads on;
* `Visit.finishes_eq_true_iff`, `Session.finishes_of_productive`: one set, and the sets of a packet;
* `SessionTable.Productive`: sessions without vacuous templates, in which every packet comes to an
  end, and what leaves them so;
* `SessionTable.finishes_ofArrivals`: sessions that know their templates from packets;
* `SessionTable.installed_terminates_iff`: the data sets of any template that is installed.
-/
import FlowIntake.Proofs.Packet.Overrun
import FlowIntake.Proofs.Session.Templates

namespace FlowIntake

/-! ## 1. Records -/

/-- Where records take no octets, they end with a failure or there is none. -/
theorem DataRun.eq_nil_of_padding {fields : List Field} {least : Nat} {c : Cursor}
    {rs : List (List Value)} (h : DataRun fields least c rs none)
    (hzero : Field.minWireLengths fields = 0) : rs = [] := by
  generalize hstop : (none : Option FieldError) = stop at h
  induction h with
  | padding _ => rfl
  | fault _ _ => cases hstop
  | record hleast hread hrun ih =>
    obtain rfl := stays_of_minWireLengths hzero hread
    obtain rfl := ih hstop
    subst hstop
    cases hrun with
    | padding hshort => exact absurd hleast (Nat.not_le.mpr hshort)

/-- **The records of a body that come to an end are at most as many as its octets.** -/
theorem DataRun.length_le_remaining {fields : List Field} {least : Nat} {c : Cursor}
    {rs : List (List Value)} {stop : Option FieldError} (h : DataRun fields least c rs stop) :
    rs.length ≤ c.remaining := by
  cases stop with
  | some e => exact h.length_le_of_fault
  | none =>
    rcases Nat.eq_zero_or_pos (Field.minWireLengths fields) with hzero | hpos
    · rw [h.eq_nil_of_padding hzero]
      exact Nat.zero_le _
    · exact h.length_le hpos

/-- **A loop that has `fuel` records before it still reads on** after as many readings. -/
theorem RecordsTo.readRecords?_eq_none {fields : List Field} {least fuel : Nat} {c d : Cursor}
    {rs : List (List Value)} (h : RecordsTo fields least c rs d) (hfuel : fuel ≤ rs.length)
    (read : List (List Value)) : readRecords? fields least fuel read c = none := by
  induction h generalizing fuel read with
  | here c =>
    obtain rfl := Nat.le_zero.mp hfuel
    rfl
  | record hleast hread _ ih =>
    cases fuel with
    | zero => rfl
    | succ fuel =>
      rw [readRecords?, if_pos (atLeast_iff.mpr hleast), hread]
      exact ih (Nat.le_of_succ_le_succ hfuel) _

/-- A record that leaves its place is followed by any number of the same. -/
theorem RecordsTo.replicate {fields : List Field} {least : Nat} {c : Cursor} {vs : List Value}
    (hleast : least ≤ c.remaining) (hread : readRecord fields c = .ok vs c) (n : Nat) :
    RecordsTo fields least c (List.replicate n vs) c := by
  induction n with
  | zero => exact .here c
  | succ n ih => exact .record hleast hread ih

namespace Template

variable {t : Template} {body : Bytes}

/-- The records of a body come to an end, after some number of readings. -/
def Terminates (t : Template) (body : Bytes) : Prop := ∃ fuel run, t.records? fuel body = some run

/-- The records take no octets, and all of their fields have values. -/
def IsVacuous (t : Template) : Prop := ∀ f ∈ t.fields, f.IsVacuous

instance (t : Template) : Decidable t.IsVacuous := by unfold IsVacuous; infer_instance

theorem IsVacuous.minRecordLength_eq_zero (h : t.IsVacuous) : t.minRecordLength = 0 :=
  minWireLengths_eq_zero_iff.mpr fun f hf => (h f hf).1

/-- The records of a body come to an end when it falls into records. -/
theorem terminates_of_dataRun {rs : List (List Value)} {stop : Option FieldError}
    (h : DataRun t.fields (max t.minRecordLength 1) (Cursor.ofBytes body) rs stop) :
    t.Terminates body :=
  ⟨rs.length + 1, _, readRecords?_of_dataRun h (Nat.lt_succ_self _) []⟩

/-- **No number of records of a vacuous template reaches the end of a body**, unless there is
nothing in it: they are all read where it begins. -/
theorem IsVacuous.recordsTo (h : t.IsVacuous) (hbody : body ≠ []) (n : Nat) :
    ∃ rs, rs.length = n ∧ RecordsTo t.fields (max t.minRecordLength 1) (Cursor.ofBytes body) rs
      (Cursor.ofBytes body) := by
  obtain ⟨vs, hvs⟩ := exists_readRecord_of_vacuous h (Cursor.ofBytes body)
  have hleast : max t.minRecordLength 1 ≤ (Cursor.ofBytes body).remaining := by
    rw [h.minRecordLength_eq_zero]
    exact List.length_pos_iff.mpr hbody
  exact ⟨List.replicate n vs, List.length_replicate, .replicate hleast hvs n⟩

/-- **The records of a body come to an end** when the body is empty, and when they take octets or
fail. -/
theorem terminates_iff : t.Terminates body ↔ body = [] ∨ ¬t.IsVacuous := by
  constructor
  · rintro ⟨fuel, run, hrun⟩
    by_contra hneither
    rw [not_or, not_not] at hneither
    obtain ⟨rs, hlength, hrecords⟩ := hneither.2.recordsTo hneither.1 fuel
    have hnone := hrecords.readRecords?_eq_none (Nat.le_of_eq hlength.symm) []
    rw [records?, hnone] at hrun
    cases hrun
  · intro h
    rcases Nat.eq_zero_or_pos t.minRecordLength with hzero | hpos
    · rcases Nat.lt_or_ge (Cursor.ofBytes body).remaining (max t.minRecordLength 1) with
        hshort | hleast
      · exact terminates_of_dataRun (.padding hshort)
      · cases hread : readRecord t.fields (Cursor.ofBytes body) with
        | error e c => exact terminates_of_dataRun (.fault hleast hread)
        | ok vs c =>
          rcases h with rfl | hnot
          · rw [hzero] at hleast
            exact absurd hleast (by decide)
          · exact absurd (vacuous_of_readRecord hzero hread) hnot
    · obtain ⟨rs, stop, hrun⟩ :=
        exists_dataRun (max t.minRecordLength 1) hpos (Cursor.ofBytes body)
      exact terminates_of_dataRun hrun

/-- A template that a packet can announce is not vacuous. -/
theorem WellFormed.not_isVacuous (h : t.WellFormed) : ¬t.IsVacuous := by
  intro hvacuous
  have hpos := h.minRecordLength_pos
  rw [hvacuous.minRecordLength_eq_zero] at hpos
  exact absurd hpos (Nat.lt_irrefl 0)

/-- Records that come to an end are read with one reading more than there are octets, and are at
most as many. -/
theorem Terminates.exists_run (h : t.Terminates body) :
    ∃ run, t.records? (body.length + 1) body = some run ∧ run.records.length ≤ body.length := by
  obtain ⟨fuel, run, hrun⟩ := h
  obtain ⟨rs, hrecords, hfalls⟩ := dataRun_of_readRecords? hrun
  have hlength : rs.length ≤ body.length := hfalls.length_le_remaining
  exact ⟨⟨rs, run.stop⟩, readRecords?_of_dataRun hfalls (Nat.lt_succ_of_le hlength) [], hlength⟩

end Template

/-! ## 2. Sessions without vacuous templates -/

/-- None of the templates that are bound is vacuous. -/
def Bindings.Productive (b : Bindings) : Prop := b.All fun _ t => ¬t.IsVacuous

/-- A set comes to an end when the records do that it holds of a template. -/
theorem Visit.finishes_eq_true_iff {v : Visit} :
    v.finishes = true ↔ ∀ t, v.set.kind = .data → v.bindings v.set.id = some t →
      t.Terminates v.set.body := by
  rw [finishes]
  split
  · rename_i t hkind hbound
    constructor
    · intro hsome t' _ ht'
      rw [hbound] at ht'
      obtain rfl := Option.some.inj ht'
      obtain ⟨run, hrun⟩ := Option.isSome_iff_exists.mp hsome
      exact ⟨_, run, hrun⟩
    · intro hends
      obtain ⟨run, hrun, -⟩ := (hends t hkind hbound).exists_run
      exact Option.isSome_iff_exists.mpr ⟨run, hrun⟩
  · rename_i hother
    exact ⟨fun _ t hkind hbound => (hother t hkind hbound).elim, fun _ => rfl⟩

/-- **Under templates that are not vacuous the sets of a packet come to an end.** -/
theorem Session.finishes_of_productive (elements : Registry) (h : Header) {s : Session}
    (hs : s.bindings.Productive) (sets : List RawSet) : s.finishes elements h sets = true := by
  rw [finishes_eq_visits, List.all_eq_true]
  intro v hv
  have hbound := Bindings.All.visits (fun _ ht => ht.1.not_isVacuous) hs sets v hv
  exact Visit.finishes_eq_true_iff.mpr fun t _ ht =>
    Template.terminates_iff.mpr (Or.inr (hbound _ t ht))

namespace SessionTable

/-- No session has a vacuous template. -/
def Productive (ss : SessionTable) : Prop := ∀ K, (ss.bindings K).Productive

namespace Productive

variable {ss : SessionTable}

theorem empty : Productive .empty := fun _ => Bindings.all_empty

/-- Packets come to an end, whatever octets they are. -/
theorem finishes (hss : ss.Productive) (elements : Registry) (now : Nat) (exporter : Address)
    (bs : Bytes) : ss.finishes elements now exporter bs = true := by
  rcases decode_cases bs with ⟨e, hfault⟩ | ⟨h, sets, hparse, hsplit⟩
  · exact (hfault elements ss now exporter).2
  · have hs := hss ⟨exporter, h.domain⟩
    rw [← bindings_current ss now] at hs
    rw [finishes_of_framed elements ss now exporter hparse hsplit]
    exact Session.finishes_of_productive elements h hs sets

theorem insert (hss : ss.Productive) {s : Session} (hs : s.bindings.Productive) :
    Productive (ss.insert s) := by
  intro K
  by_cases hkey : s.key = K
  · exact bindings_insert ss hkey ▸ hs
  · exact bindings_insert_of_ne ss hkey ▸ hss K

/-- Nor has any after a packet. -/
theorem decode (hss : ss.Productive) (elements : Registry) (now : Nat) (exporter : Address)
    (bs : Bytes) : Productive (ss.decode elements now exporter bs).1 := by
  intro K
  have hafter := bindings_decode elements ss K ⟨now, exporter, bs⟩
  exact hafter ▸ Bindings.All.announced (fun _ ht => ht.1.not_isVacuous) (hss K) _

theorem opened (hss : ss.Productive) (now : Nat) (K : SessionKey) :
    Productive (ss.opened now K) := by
  unfold SessionTable.opened
  split
  · exact hss
  · exact hss.insert Bindings.all_empty

theorem install (hss : ss.Productive) (now : Nat) (K : SessionKey) {t : Template}
    (ht : ¬t.IsVacuous) : Productive (ss.install now K t) := by
  have hs : (ss.session now K).bindings.Productive := bindings_session ss now K ▸ hss K
  have hafter := Session.bindings_apply .data ((ss.session now K).touch now) (.definition t)
  refine hss.insert (s := ((ss.session now K).touch now).install t) (hafter ▸ hs.after ?_)
  rintro t' ⟨⟩
  exact ht

theorem withdraw (hss : ss.Productive) (K : SessionKey) (id : UInt16) :
    Productive (ss.withdraw K id) := by
  unfold SessionTable.withdraw
  cases hget : ss.get? K with
  | none => exact hss
  | some s =>
    refine hss.insert fun id' t ht => hss K id' t ?_
    have hfound : s.template? id' = some t := by
      rw [Session.bindings, Session.template?, Session.withdraw, Keyed.get?_erase] at ht
      split at ht
      · cases ht
      · exact ht
    rw [bindings, template?, hget]
    exact hfound

end Productive

/-- Packets alone put no vacuous template in place. -/
theorem productive_ofArrivals (elements : Registry) (arrivals : List Arrival) :
    (ofArrivals elements arrivals).Productive := fun K id t ht =>
  (acceptable_ofArrivals elements arrivals K id t ht).2.1.not_isVacuous

/-- **Packets alone cannot make decoding go on for ever**, whatever octets they hold. -/
theorem finishes_ofArrivals (elements : Registry) (arrivals : List Arrival) (now : Nat)
    (exporter : Address) (bs : Bytes) :
    (ofArrivals elements arrivals).finishes elements now exporter bs = true :=
  (productive_ofArrivals elements arrivals).finishes elements now exporter bs

end SessionTable

/-! ## 3. Templates that are installed -/

theorem SessionTable.template?_install (ss : SessionTable) (now : Nat) (K : SessionKey)
    (t : Template) : (ss.install now K t).template? K t.id = some t := by
  have hkey : (((ss.session now K).touch now).install t).key = K := key_session ss now K
  rw [template?, install, Keyed.get?_insert, if_pos hkey]
  exact Session.template?_install _ t

/-- **Whatever template is installed, its data sets come to an end unless octets are left to records
that take none.**  Each way of installing puts any template in place.  When the records of a body
come to an end, they make at most as many messages as there are octets.  When they do not, any
number of records is read and the loop is where it began. -/
theorem SessionTable.installed_terminates_iff (elements : Registry) (h : Header) {set : RawSet}
    {t : Template} (hkind : set.kind = .data) (hid : set.id = t.id) :
    (∀ s : Session, (s.install t).template? set.id = some t) ∧
      (∀ (ss : SessionTable) (now : Nat) (K : SessionKey),
        (ss.install now K t).template? K set.id = some t) ∧
      (t.Terminates set.body ↔ set.body = [] ∨ ¬t.IsVacuous) ∧
      (t.Terminates set.body → ∀ s : Session, s.template? set.id = some t →
        ∃ run, t.records? (set.body.length + 1) set.body = some run ∧
          (s.decodeSet elements h set).2.messages
            = run.records.map ((s.context h).message t) ∧
          (s.decodeSet elements h set).2.messages.length ≤ set.body.length) ∧
      (¬t.Terminates set.body → ∀ n, ∃ rs, rs.length = n ∧
        RecordsTo t.fields (max t.minRecordLength 1) (Cursor.ofBytes set.body) rs
          (Cursor.ofBytes set.body)) := by
  refine ⟨?_, ?_, Template.terminates_iff, ?_, ?_⟩
  · intro s
    rw [hid]
    exact s.template?_install t
  · intro ss now K
    rw [hid]
    exact ss.template?_install now K t
  · intro hends s ht
    obtain ⟨run, hrun, hlength⟩ := hends.exists_run
    have hrecords : t.records set.body = run := by
      rw [Template.records, hrun]
      rfl
    have hmessages : (s.decodeSet elements h set).2.messages
        = run.records.map ((s.context h).message t) := by
      rw [Session.decodeSet, hkind]
      simp only [ht, hrecords, MessageContext.messages_eq]
    refine ⟨run, hrun, hmessages, ?_⟩
    rw [hmessages, List.length_map]
    exact hlength
  · intro hnever n
    have hvacuous := mt Template.terminates_iff.mpr hnever
    rw [not_or, not_not] at hvacuous
    exact hvacuous.2.recordsTo hvacuous.1 n

/-- A name without octets in a set of two octets: three records are read, and both octets stay. -/
theorem third_record_of_two_octets :
    let t : Template := ⟨256, .options, 1, [⟨⟨0, 82, "interfaceName", .string⟩, 0⟩]⟩
    let set : RawSet := ⟨256, [0, 0]⟩
    set.kind = .data ∧ set.id = t.id ∧ ¬t.Terminates set.body ∧
      ∃ rs, rs.length = 3 ∧ RecordsTo t.fields (max t.minRecordLength 1)
        (Cursor.ofBytes set.body) rs (Cursor.ofBytes set.body) := by
  intro t set
  have hkind : set.kind = .data := rfl
  obtain ⟨-, -, hiff, -, hnever⟩ :=
    SessionTable.installed_terminates_iff .empty ⟨10, 22, 0, 0, 0⟩ (t := t) hkind rfl
  have hvacuous : t.IsVacuous := by decide
  have hends : ¬t.Terminates set.body := by
    intro hends
    rcases hiff.mp hends with hnil | hnot
    · cases hnil
    · exact hnot hvacuous
  exact ⟨hkind, rfl, hends, hnever hends 3⟩

/-- A name without octets in a set of one octet: no number of readings reaches the end, and with the
second there are more records than octets. -/
theorem names_without_octets_never_end :
    let t : Template := ⟨256, .data, 0, [⟨⟨0, 82, "interfaceName", .string⟩, 0⟩]⟩
    let K : SessionKey := ⟨.v4 ⟨[192, 0, 2, 1], rfl⟩, 0⟩
    let set : RawSet := ⟨256, [0]⟩
    set.kind = .data ∧ ((Session.new K 0).install t).template? set.id = some t ∧
      (SessionTable.install .empty 0 K t).template? K set.id = some t ∧
      (∀ fuel, t.records? fuel set.body = none) ∧
      ∃ rs, set.body.length < rs.length ∧ RecordsTo t.fields (max t.minRecordLength 1)
        (Cursor.ofBytes set.body) rs (Cursor.ofBytes set.body) := by
  intro t K set
  have hvacuous : t.IsVacuous := by decide
  refine ⟨rfl, Session.template?_install _ t, SessionTable.template?_install .empty 0 K t, ?_, ?_⟩
  · intro fuel
    obtain ⟨rs, hlength, hrecords⟩ := hvacuous.recordsTo (List.cons_ne_nil 0 []) fuel
    exact hrecords.readRecords?_eq_none (Nat.le_of_eq hlength.symm) []
  · obtain ⟨rs, hlength, hrecords⟩ := hvacuous.recordsTo (List.cons_ne_nil 0 []) 2
    have hmore : set.body.length < rs.length := by
      rw [hlength]
      decide
    exact ⟨rs, hmore, hrecords⟩

end FlowIntake
