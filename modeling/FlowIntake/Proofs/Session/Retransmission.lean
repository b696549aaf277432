/-
# Templates that are sent again

Exporters send their templates again and again, since packets get lost.  A packet may bind an
identifier and take it back, once or many times, so that the second time begins from other templates
than the first; and yet it ends at the same ones.  To each identifier on its own a record does one
of two things: it settles what is bound, whatever was bound before, or it keeps what is bound if
that is of a certain kind.  Records one after another do one of these two things again, and to do
either twice is to do it once.

* `Effect`: what records do to one identifier, and that one after another they do no more;
* `Effect.on_on`: to do it twice is to do it once;
* `Bindings.after_eq_effect`, `Bindings.fold_eq_effect`: this is what one record does, and many;
* `Bindings.fold_fold`: records that come again change nothing;
* `Bindings.announced_same`, `Bindings.reports_same`: sets without data say the same under any
  templates;
* `SessionTable.decode_again`: packets.
-/
import FlowIntake.Proofs.Packet.Joining

namespace FlowIntake

/-! ## 1. What is done to one identifier -/

/-- What template records do to one identifier. -/
inductive Effect where
  /-- What is bound is settled, whatever was bound before. -/
  | settles (bound : Option Template)
  /-- What is bound stays if its kind passes, and is taken away otherwise. -/
  | keeps (passes : TemplateKind → Bool)

namespace Effect

/-- Whatever is bound stays. -/
def nothing : Effect := keeps fun _ => true

/-- What is bound afterwards. -/
def on : Effect → Option Template → Option Template
  | settles bound, _ => bound
  | keeps passes, bound => bound.filter fun t => passes t.kind

@[simp] theorem on_nothing (bound : Option Template) : nothing.on bound = bound := by
  cases bound <;> rfl

/-- One effect after another. -/
def andThen : Effect → Effect → Effect
  | _, settles bound => settles bound
  | settles bound, keeps passes => settles ((keeps passes).on bound)
  | keeps passes, keeps later => keeps fun kind => passes kind && later kind

theorem on_andThen (e later : Effect) (bound : Option Template) :
    (e.andThen later).on bound = later.on (e.on bound) := by
  cases later with
  | settles last => cases e <;> rfl
  | keeps passes =>
    cases e with
    | settles first => rfl
    | keeps before => simp only [andThen, on, Option.filter_filter, Bool.and_comm]

/-- **To do it twice is to do it once.** -/
theorem on_on (e : Effect) (bound : Option Template) : e.on (e.on bound) = e.on bound := by
  cases e with
  | settles last => rfl
  | keeps passes => simp only [on, Option.filter_filter, Bool.and_self]

end Effect

/-- What a record does to an identifier. -/
def Announcement.effect (a : Announcement) (id : UInt16) : Effect :=
  match a.record with
  | .definition t => if id = t.id then .settles (some t) else .nothing
  | .withdrawal withdrawn =>
    if withdrawn = a.kind.setId then .keeps fun kind => kind ≠ a.kind
    else if id = withdrawn then .settles none else .nothing

namespace Bindings

/-- What records do to an identifier, one after another. -/
def effect (id : UInt16) : List Announcement → Effect
  | [] => .nothing
  | a :: as => (a.effect id).andThen (effect id as)

/-- **A record does one of the two things to each identifier**, whatever is bound to others. -/
theorem after_eq_effect (b : Bindings) (a : Announcement) (id : UInt16) :
    b.after a id = (a.effect id).on (b id) := by
  obtain ⟨kind, t | withdrawn⟩ := a
  · simp only [after, Announcement.effect, Function.update_apply]
    by_cases hid : id = t.id
    · simp only [if_pos hid, Effect.on]
    · simp only [if_neg hid, Effect.on_nothing]
  · simp only [after, Announcement.effect]
    by_cases hall : withdrawn = kind.setId
    · simp only [if_pos hall, Effect.on]
    · simp only [if_neg hall, Function.update_apply]
      by_cases hid : id = withdrawn
      · simp only [if_pos hid, Effect.on]
      · simp only [if_neg hid, Effect.on_nothing]

/-- **Records do one of the two things to each identifier**, by induction on them. -/
theorem fold_eq_effect (b : Bindings) (as : List Announcement) (id : UInt16) :
    b.fold as id = (effect id as).on (b id) := by
  induction as generalizing b with
  | nil => exact (Effect.on_nothing (b id)).symm
  | cons a as ih =>
    have hlater : b.fold (a :: as) id = (b.after a).fold as id := rfl
    rw [hlater, ih, after_eq_effect, effect, Effect.on_andThen]

/-- **Records that come again change nothing.** -/
theorem fold_fold (b : Bindings) (as : List Announcement) : (b.fold as).fold as = b.fold as := by
  funext id
  simp only [fold_eq_effect, Effect.on_on]

end Bindings

/-! ## 2. Sets without data

Only what a data set says depends on the templates that are bound. -/

/-- A set without data reports the same under any templates, in any packet. -/
theorem Visit.report_of_kind_ne (elements : Registry) (c c' : MessageContext) {set : RawSet}
    (hkind : set.kind ≠ .data) (b b' : Bindings) :
    (Visit.mk set b).report elements c = (Visit.mk set b').report elements c' := by
  unfold report
  cases h : set.kind with
  | template kind => rfl
  | reserved => rfl
  | data => exact absurd h hkind

/-- A set without data does not end its packet. -/
theorem Visit.not_overruns_of_kind_ne {set : RawSet} (hkind : set.kind ≠ .data) (b : Bindings) :
    ¬(Visit.mk set b).overruns = true := by
  simp [overruns, hkind]

/-- It has no records that could be without end. -/
theorem Visit.finishes_of_kind_ne {set : RawSet} (hkind : set.kind ≠ .data) (b : Bindings) :
    (Visit.mk set b).finishes = true := by
  rw [finishes]
  split
  · rename_i hdata _
    exact absurd hdata hkind
  · rfl

namespace Bindings

variable (elements : Registry) {sets : List RawSet} (hkinds : ∀ set ∈ sets, set.kind ≠ .data)
include hkinds

/-- **Sets without data announce the same under any templates**, by induction on the sets. -/
theorem announced_same (b b' : Bindings) :
    b.announced elements sets = b'.announced elements sets := by
  induction sets generalizing b b' with
  | nil => rfl
  | cons set sets ih =>
    obtain ⟨hfirst, hothers⟩ := List.forall_mem_cons.mp hkinds
    have hgo := Visit.not_overruns_of_kind_ne hfirst
    rw [announced_cons elements (hgo b), announced_cons elements (hgo b')]
    exact congrArg _ (ih hothers _ _)

/-- **Sets without data report the same under any templates**, by induction on the sets. -/
theorem reports_same (c c' : MessageContext) (b b' : Bindings) :
    b.reports elements c sets = b'.reports elements c' sets := by
  induction sets generalizing b b' with
  | nil => rfl
  | cons set sets ih =>
    obtain ⟨hfirst, hothers⟩ := List.forall_mem_cons.mp hkinds
    have hgo := Visit.not_overruns_of_kind_ne hfirst
    rw [reports, visits_cons elements (hgo b), reports, visits_cons elements (hgo b'),
      List.map_cons, List.map_cons, Visit.report_of_kind_ne elements c c' hfirst b b']
    exact congrArg _ (ih hothers _ _)

/-- Sets without data come to an end, by induction on the sets. -/
theorem finishes_visits (b : Bindings) : (b.visits elements sets).all Visit.finishes = true := by
  induction sets generalizing b with
  | nil => rfl
  | cons set sets ih =>
    obtain ⟨hfirst, hothers⟩ := List.forall_mem_cons.mp hkinds
    rw [visits_cons elements (Visit.not_overruns_of_kind_ne hfirst b), List.all_cons,
      Visit.finishes_of_kind_ne hfirst, ih hothers, Bool.and_self]

end Bindings

/-- The issues of sets are what they report. -/
theorem Bindings.issues_told (elements : Registry) (exporter : Address) (h : Header) (b : Bindings)
    (sets : List RawSet) :
    (b.told elements exporter h sets).issues
      = (b.reports elements ⟨exporter, h.domain, h.exportTime, 0⟩ sets).reduceOption := by
  rw [told, reports, List.reduceOption, List.filterMap_map]
  rfl

/-! ## 3. Packets -/

namespace SessionTable

/-- **Templates that are sent again change nothing.**  A packet without data sets is accepted and,
some time later, another with the same sets, such as the packet itself, for the same exporter and
domain.  Whatever the templates were, the second leaves those that the first has left, under every
key; it installs as many, and has the same issues but for a gap in the sequence numbers. -/
theorem decode_again (elements : Registry) (ss : SessionTable) (now now' : Nat)
    (exporter : Address) {bs bs' : Bytes} {h h' : Header} {sets : List RawSet}
    (hbs : Carries bs h sets) (hbs' : Carries bs' h' sets) (hdomain : h'.domain = h.domain)
    (hkinds : ∀ set ∈ sets, set.kind ≠ .data) :
    ∃ ss₁ p ss₂ p', ss.decode? elements now exporter bs = some (ss₁, .ok p) ∧
      ss₁.decode? elements now' exporter bs' = some (ss₂, .ok p') ∧
      (∀ K, ss₂.bindings K = ss₁.bindings K ∧ ss₂.templateCount K = ss₁.templateCount K) ∧
      p'.changes.installed = p.changes.installed ∧
      (p'.issues.filter fun i => !i.isGap) = p.issues.filter fun i => !i.isGap := by
  obtain ⟨ss₁, p, hdecode, hfollows, -⟩ := follows_decode elements ss now exporter hbs
  obtain ⟨ss₂, p', hdecode', hfollows', -⟩ := follows_decode elements ss₁ now' exporter hbs'
  have hfirst := bindings_decode_of_carries elements ss now exporter hbs
  have hsecond := bindings_decode_of_carries elements ss₁ now' exporter hbs'
  simp only [hdecode] at hfirst
  simp only [hdecode', hdomain] at hsecond
  have hends : ss.finishes elements now exporter bs = true := by
    rw [finishes_of_carries elements ss now exporter hbs]
    exact Bindings.finishes_visits elements hkinds _
  have hends' : ss₁.finishes elements now' exporter bs' = true := by
    rw [finishes_of_carries elements ss₁ now' exporter hbs']
    exact Bindings.finishes_visits elements hkinds _
  refine ⟨ss₁, p, ss₂, p', decode?_eq_some_iff.mpr ⟨hends, hdecode⟩,
    decode?_eq_some_iff.mpr ⟨hends', hdecode'⟩, fun K => ?_, ?_, ?_⟩
  · have hsame : ss₂.bindings K = ss₁.bindings K := by
      rw [hsecond, hfirst]
      by_cases hkey : K = ⟨exporter, h.domain⟩
      · -- the records are those of the first time, although the templates are others
        have hrecords := Bindings.announced_same elements hkinds
          ((ss.bindings K).fold ((ss.bindings K).announced elements sets)) (ss.bindings K)
        simp only [if_pos hkey, hrecords, Bindings.fold_fold]
      · simp only [if_neg hkey]
    refine ⟨hsame, ?_⟩
    rw [← size_bindings, ← size_bindings, hsame]
  · rw [hfollows'.installed, hfollows.installed]
    exact congrArg _ (Bindings.announced_same elements hkinds _ _)
  · have hsaid := congrArg DecodedPacket.issues (unnumbered_of_decode hbs hdecode)
    have hsaid' := congrArg DecodedPacket.issues (unnumbered_of_decode hbs' hdecode')
    rw [Bindings.issues_told] at hsaid hsaid'
    rw [Bindings.reports_same elements hkinds] at hsaid'
    exact hsaid'.trans hsaid.symm

/-- All data templates are withdrawn and one is defined: the second time one is withdrawn indeed. -/
theorem definition_outlives_withdrawal :
    let exporter : Address := .v4 ⟨[192, 0, 2, 1], rfl⟩
    let K : SessionKey := ⟨exporter, 0⟩
    let announced : Builder := (({} : Builder).withdrawal 2 2).template 256 [⟨1, none, 8⟩]
    ∃ ss₁ p ss₂ p', decode? .empty .empty 0 exporter announced.build = some (ss₁, .ok p) ∧
      ss₁.decode? .empty 1 exporter announced.build = some (ss₂, .ok p') ∧
      ss₂.bindings = ss₁.bindings ∧ (ss₁.template? K 256).isSome ∧ p.changes = ⟨1, 0⟩ ∧
      p'.changes = ⟨1, 1⟩ ∧ p'.issues = [] := by
  intro exporter K announced
  have hcarries : Carries announced.build announced.header announced.sets :=
    Builder.carries_build rfl (by decide)
  obtain ⟨ss₁, p, ss₂, p', hdecode, hdecode', hsame, -, -⟩ :=
    decode_again .empty .empty 0 1 exporter hcarries hcarries rfl (by decide)
  obtain ⟨-, hfirst⟩ := decode?_eq_some_iff.mp hdecode
  obtain ⟨-, hsecond⟩ := decode?_eq_some_iff.mp hdecode'
  have hreceived := received_of_decode hcarries hfirst
  have hreceived' := received_of_decode hcarries hsecond
  rw [decode_of_carries .empty .empty 0 exporter hcarries] at hfirst
  obtain ⟨rfl, -⟩ := Prod.mk.inj hfirst
  refine ⟨_, p, ss₂, p', hdecode, hdecode', funext fun K => (hsame K).1, ?_, ?_, ?_, ?_⟩
  · decide
  · rw [hreceived]
    decide
  · rw [hreceived']
    decide
  · rw [hreceived']
    decide

end SessionTable

end FlowIntake
