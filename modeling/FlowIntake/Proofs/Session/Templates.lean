/-
# Every template that a session learns is well-formed

Exporters are not trusted: a template set may be cut short, may define nonsense, and may replace or
withdraw what was announced before.  Whatever packets come, each template in force is bound to its
own identifier, lays out records of at least one octet and has the scope fields that its kind calls
for; and each message has as many scopes as its template has scope fields.

* `Bindings.All`, `Bindings.Acceptable`: bindings to templates with a property, and to acceptable
  ones, each under its own identifier;
* `Bindings.All.after`, `Bindings.All.fold`: what one record keeps, and what many do;
* `Bindings.All.visits`: the bindings in force at every set of a packet;
* `SessionTable.acceptable_ofArrivals`: whole runs, from no sessions at all;
* `SessionTable.templates_wellFormed`: the sessions and the messages of a run.
-/
import FlowIntake.Proofs.Packet.Contents
import FlowIntake.Proofs.Packet.RoundTrip
import FlowIntake.Proofs.Template.WellFormed

namespace FlowIntake

/-! ## 1. Bindings -/

/-- Every template that is bound has a property, which may depend on its identifier. -/
def Bindings.All (P : UInt16 → Template → Prop) (b : Bindings) : Prop :=
  ∀ id t, b id = some t → P id t

/-- Every template is bound to its own identifier and is acceptable. -/
def Bindings.Acceptable (elements : Registry) (b : Bindings) : Prop :=
  b.All fun id t => t.id = id ∧ t.Acceptable elements

/-- What a template set announces is acceptable, however it ends. -/
theorem Visit.acceptable_announcements (elements : Registry) (v : Visit) :
    ∀ a ∈ v.announcements elements, ∀ t, a.record = .definition t → t.Acceptable elements := by
  intro a ha
  rw [announcements] at ha
  split at ha
  · rename_i kind _
    obtain ⟨r, hr, rfl⟩ := List.mem_map.mp ha
    intro t ht
    have hdefined : r = .definition t := ht
    rw [hdefined] at hr
    exact (TemplateRecord.templateRun_readAll kind elements v.set.body).acceptable hr
  · cases ha
  · cases ha

namespace Bindings

variable {elements : Registry} {P : UInt16 → Template → Prop} {b : Bindings}

theorem all_empty : empty.All P := fun _ _ h => nomatch h

/-- **A record keeps what holds of all templates**, when it holds of its own: it binds a definition
to its own identifier or takes bindings away. -/
theorem All.after (hb : b.All P) {a : Announcement}
    (ha : ∀ t, a.record = .definition t → P t.id t) : (b.after a).All P := by
  obtain ⟨kind, t | withdrawn⟩ := a
  · intro id t' h
    simp only [Bindings.after, Function.update_apply] at h
    split at h
    · rename_i hid
      cases h
      exact hid ▸ ha t rfl
    · exact hb id t' h
  · intro id t' h
    simp only [Bindings.after] at h
    split at h
    · exact hb id t' (Option.filter_eq_some_iff.mp h).1
    · rw [Function.update_apply] at h
      split at h
      · cases h
      · exact hb id t' h

/-- **So do records one after another**, by induction on them. -/
theorem All.fold (hb : b.All P) {as : List Announcement}
    (has : ∀ a ∈ as, ∀ t, a.record = .definition t → P t.id t) : (b.fold as).All P := by
  induction as generalizing b with
  | nil => exact hb
  | cons a as ih =>
    have hfirst := hb.after (has a List.mem_cons_self)
    exact ih hfirst fun a' ha' => has a' (List.mem_cons_of_mem a ha')

section Packets

variable (hP : ∀ t : Template, t.Acceptable elements → P t.id t)
include hP

/-- A set leaves what holds of acceptable templates as it is. -/
theorem All.set (hb : b.All P) (set : RawSet) :
    (b.fold ((Visit.mk set b).announcements elements)).All P :=
  hb.fold fun a ha t ht => hP t ((Visit.mk set b).acceptable_announcements elements a ha t ht)

/-- **Every set of a packet is read under bindings that have what acceptable templates have**, by
induction on the sets. -/
theorem All.visits (hb : b.All P) (sets : List RawSet) :
    ∀ v ∈ b.visits elements sets, v.bindings.All P := by
  induction sets generalizing b with
  | nil => exact fun v hv => nomatch hv
  | cons set sets ih =>
    intro v hv
    by_cases hover : (Visit.mk set b).overruns = true
    · rw [visits_overruns elements hover, List.mem_singleton] at hv
      rw [hv]
      exact hb
    · rw [visits_cons elements hover] at hv
      rcases List.mem_cons.mp hv with rfl | hlater
      · exact hb
      · exact ih (All.set hP hb set) v hlater

/-- And it leaves such bindings. -/
theorem All.announced (hb : b.All P) (sets : List RawSet) :
    (b.fold (b.announced elements sets)).All P := by
  refine hb.fold fun a ha t ht => ?_
  obtain ⟨v, -, hv⟩ := List.mem_flatMap.mp ha
  exact hP t (v.acceptable_announcements elements a hv t ht)

end Packets

/-- **Every set of a packet is read under acceptable bindings.** -/
theorem Acceptable.visits (hb : b.Acceptable elements) (sets : List RawSet) :
    ∀ v ∈ b.visits elements sets, v.bindings.Acceptable elements :=
  All.visits (fun _ ht => ⟨rfl, ht⟩) hb sets

end Bindings

/-! ## 2. Runs -/

/-- **Whatever packets have come, each key has acceptable bindings**, by induction on the packets,
the latest last. -/
theorem SessionTable.acceptable_ofArrivals (elements : Registry) (arrivals : List Arrival)
    (K : SessionKey) : ((ofArrivals elements arrivals).bindings K).Acceptable elements := by
  induction arrivals using List.reverseRecOn with
  | nil => exact Bindings.all_empty
  | append_singleton arrivals a ih =>
    rw [ofArrivals_eq, after_append, ← ofArrivals_eq]
    have hafter := bindings_decode elements (ofArrivals elements arrivals) K a
    refine hafter ▸ ?_
    exact Bindings.All.announced (fun _ ht => ⟨rfl, ht⟩) ih (a.setsFor K)

/-! ## 3. Messages -/

/-- An acceptable template has no more scope fields than fields. -/
theorem Template.WellFormed.scopeCount_le {t : Template} (h : t.WellFormed) :
    t.scopeCount ≤ t.fields.length := by
  cases hkind : t.kind with
  | data =>
    rw [h.scope_data hkind]
    exact Nat.zero_le _
  | options => exact (h.scope_options hkind).2

/-- **A message has as many scopes as its template has scope fields.** -/
theorem Message.Reports.length_scopes {m : Message} {c : MessageContext} {t : Template}
    {values : List Value} (h : m.Reports c t values) (ht : t.WellFormed) :
    m.scopes.length = t.scopeCount := by
  rw [h.scopes, List.length_take, t.length_keys, Nat.min_eq_left ht.scopeCount_le]

/-- A message of a set reports a record of the template that the identifier of the set is bound
to. -/
theorem Visit.reports_of_mem_report {elements : Registry} {c : MessageContext} {v : Visit}
    (hv : v.bindings.Acceptable elements) {m : Message} (hm : m ∈ (v.report elements c).1) :
    ∃ t values, v.bindings v.set.id = some t ∧ t.WellFormed ∧ m.Reports c t values := by
  rw [report] at hm
  split at hm
  · cases hm
  · split at hm
    · cases hm
    · rename_i t hbound
      obtain ⟨-, hwell, -⟩ := hv _ t hbound
      simp only [MessageContext.messages_eq, List.mem_map] at hm
      obtain ⟨values, hvalues, rfl⟩ := hm
      have hrun := Template.dataRun_records hwell.minRecordLength_pos v.set.body
      exact ⟨t, values, hbound, hwell,
        MessageContext.reports_message c (hrun.length_of_mem hvalues)⟩
  · cases hm

namespace SessionTable

/-- **Every template that packets have made a session learn is well-formed.**  After any packets
whatsoever each session is kept under its own key, and each template of it under its own identifier,
which is none of a set's; it has fields, the smallest of its records has an octet, it has the scope
fields its kind calls for, and the elements of its fields are those resolved for identifiers of
fifteen bits.  And each message of the next packet that is accepted stands in a set which is read
with such a template, and has as many scopes as that has scope fields: none under a data
template. -/
theorem templates_wellFormed (elements : Registry) (arrivals : List Arrival) :
    let ss := ofArrivals elements arrivals
    (∀ K s, ss.get? K = some s → s.key = K ∧
      ∀ id t, s.template? id = some t → t.id = id ∧ t.WellFormed ∧
        ∀ f ∈ t.fields, f.Resolved elements) ∧
    ∀ (a : Arrival) (h : Header) (sets : List RawSet), Carries a.packet h sets →
      ∃ ss' p, ss.decode elements a.now a.exporter a.packet = (ss', .ok p) ∧
        ∀ m ∈ p.messages, ∃ v ∈ (ss.bindings ⟨a.exporter, h.domain⟩).visits elements sets,
          ∃ t values, v.bindings v.set.id = some t ∧ t.WellFormed ∧
            m.Reports ⟨a.exporter, h.domain, h.exportTime, h.sequence⟩ t values ∧
            m.scopes.length = t.scopeCount ∧ (t.kind = .data → m.scopes = []) := by
  intro ss
  refine ⟨fun K s hs => ⟨Keyed.key_of_get? hs, fun id t ht => ?_⟩, ?_⟩
  · have hbound : ss.bindings K id = some t := by
      rw [bindings, template?, hs]
      exact ht
    obtain ⟨hid, hwell, hresolved⟩ := acceptable_ofArrivals elements arrivals K id t hbound
    exact ⟨hid, hwell, hresolved⟩
  · intro a h sets hcarries
    obtain ⟨ss', p, hdecode, hfollows, -⟩ :=
      follows_decode elements ss a.now a.exporter hcarries
    refine ⟨ss', p, hdecode, fun m hm => ?_⟩
    rw [hfollows.messages, List.mem_flatMap] at hm
    obtain ⟨v, hv, hm⟩ := hm
    have hacceptable :=
      (acceptable_ofArrivals elements arrivals ⟨a.exporter, h.domain⟩).visits sets v hv
    obtain ⟨t, values, hbound, hwell, hreports⟩ := Visit.reports_of_mem_report hacceptable hm
    have hscopes := hreports.length_scopes hwell
    refine ⟨v, hv, t, values, hbound, hwell, hreports, hscopes, fun hkind => ?_⟩
    rw [← List.length_eq_zero_iff, hscopes, hwell.scope_data hkind]

/-- An options template of two fields, the first of which is its scope, and in the next packet a
record of it. -/
theorem options_record_has_scope :
    let K : SessionKey := ⟨.v4 ⟨[192, 0, 2, 1], rfl⟩, 0⟩
    let announced : Builder := ({} : Builder).optionsTemplate 257 1 [⟨10, none, 4⟩, ⟨41, none, 1⟩]
    let sent : Builder := ({} : Builder).data 257 [[0, 0, 0, 3, 9]]
    let ss := ofArrivals .empty [⟨0, K.exporter, announced.build⟩]
    (∃ t, ss.template? K 257 = some t ∧ t.WellFormed) ∧
      ∃ ss' p, ss.decode .empty 1 K.exporter sent.build = (ss', .ok p) ∧
        ∃ m ∈ p.messages, m.scopes.length = 1 := by
  intro K announced sent
  have hannounced : Carries announced.build announced.header announced.sets :=
    Builder.carries_build rfl (by decide)
  have hsent : Carries sent.build sent.header sent.sets := Builder.carries_build rfl (by decide)
  have hss : ofArrivals .empty [⟨0, K.exporter, announced.build⟩]
      = Keyed.insert (.empty : SessionTable)
          ((current .empty 0 K).receive .empty announced.header announced.sets).1 :=
    congrArg Prod.fst (decode_of_carries .empty .empty 0 K.exporter hannounced)
  have hrun := templates_wellFormed .empty [⟨0, K.exporter, announced.build⟩]
  -- the sessions are computed from `hss` alone
  generalize ofArrivals .empty [⟨0, K.exporter, announced.build⟩] = ss at hss hrun ⊢
  obtain ⟨hsessions, hnext⟩ := hrun
  have hscopes : (ss.template? K 257).map Template.scopeCount = some 1 := by
    rw [hss]
    decide
  obtain ⟨t, ht, hone⟩ := Option.map_eq_some_iff.mp hscopes
  obtain ⟨s, hs, hst⟩ := Option.bind_eq_some_iff.mp ht
  obtain ⟨-, hwell, -⟩ := (hsessions K s hs).2 257 t hst
  refine ⟨⟨t, ht, hwell⟩, ?_⟩
  obtain ⟨ss', p, hdecode, hmessages⟩ := hnext ⟨1, K.exporter, sent.build⟩ _ _ hsent
  refine ⟨ss', p, hdecode, ?_⟩
  have hlength : p.messages.length = 1 := by
    rw [received_of_decode hsent hdecode, hss]
    decide
  obtain ⟨m, hm⟩ := List.exists_mem_of_length_pos (l := p.messages) (by omega)
  obtain ⟨v, hv, t', values, hbound, -, -, hcount, -⟩ := hmessages m hm
  have hsets : sent.sets = [⟨257, [0, 0, 0, 3, 9]⟩] := rfl
  rw [hsets, Bindings.visits_singleton, List.mem_singleton] at hv
  rw [hv] at hbound
  have hsame : t' = t := Option.some.inj (hbound.symm.trans ht)
  rw [hsame, hone] at hcount
  exact ⟨m, hm, hcount⟩

end SessionTable

end FlowIntake
