/-
# Sessions do not interfere

A collector keeps the sessions of all exporters and domains in one table.  What it answers on
behalf of one key depends on nothing but the calls made on behalf of that key.  A call that does not
return is the one exception, since nothing is asked after it; and that takes a template which was
installed and whose records take no octets.

* `SessionTable.Call`, `SessionTable.Call.key?`: what can be asked, and on whose behalf;
* `SessionTable.run`: calls one after another, up to one that does not return;
* `SessionTable.step_local`: a call looks at the session under its key and at no other;
* `SessionTable.get?_step_of_ne`: a call for another key leaves what is under a key as it is;
* `SessionTable.step_congr`: a call for a key sees nothing but what is under that key;
* `SessionTable.productive_run`: calls that all return;
* `SessionTable.run_isolated`: a run, seen from one key, is the run of that key's calls alone.
-/
import FlowIntake.Proofs.Packet.Progress

namespace FlowIntake.SessionTable

/-! ## 1. Calls -/

/-- What can be asked of the sessions of a collector. -/
inductive Call where
  | decode (exporter : Address) (packet : Bytes)
  | session (key : SessionKey)
  | install (key : SessionKey) (template : Template)
  | withdraw (key : SessionKey) (id : UInt16)
  | resolve (key : SessionKey) (id : UInt16)

/-- The key that a call is made for: that of a packet is its exporter and the domain its header
names.  A packet without a header is for nobody. -/
def Call.key? : Call → Option SessionKey
  | decode exporter packet =>
    match Header.parse packet with
    | .ok h => some ⟨exporter, h.domain⟩
    | .error _ => none
  | session key | install key _ | withdraw key _ | resolve key _ => some key

/-- What a call answers. -/
inductive Answer where
  | decoded (result : Except PacketError DecodedPacket)
  | session (s : Session)
  | installed
  | withdrawn (found : Bool)
  | resolved (template : Option Template)

/-- A call and the instant at which it is made. -/
structure TimedCall where
  now : Nat
  call : Call

namespace TimedCall

/-- The key that the call is made for. -/
def key? (e : TimedCall) : Option SessionKey := e.call.key?

end TimedCall

/-- Makes one call.  Gives nothing when it does not return, which a packet can bring about. -/
def step? (elements : Registry) (ss : SessionTable) (e : TimedCall) :
    Option (SessionTable × Answer) :=
  match e.call with
  | .decode exporter packet =>
    (ss.decode? elements e.now exporter packet).map fun (ss, result) => (ss, .decoded result)
  | .session key => some (ss.opened e.now key, .session (ss.session e.now key))
  | .install key t => some (ss.install e.now key t, .installed)
  | .withdraw key id => some (ss.withdraw key id, .withdrawn (ss.template? key id).isSome)
  | .resolve key id => some (ss, .resolved (ss.template? key id))

/-- What calls have come to that were made one after another: the sessions, the calls that have
returned with their answers, and the one that does not return, if there is one.  No call is made
after that. -/
structure Run where
  sessions : SessionTable
  answers : List (TimedCall × Answer)
  stuck : Option TimedCall

/-- The answers to the calls for a key. -/
def Run.answersFor (r : Run) (K : SessionKey) : List (TimedCall × Answer) :=
  r.answers.filter fun x => x.1.key? = some K

/-- Makes calls one after another. -/
def run (elements : Registry) (ss : SessionTable) : List TimedCall → Run
  | [] => ⟨ss, [], none⟩
  | e :: es =>
    match ss.step? elements e with
    | none => ⟨ss, [], some e⟩
    | some (ss, a) =>
      let later := ss.run elements es
      { later with answers := (e, a) :: later.answers }

/-! ## 2. One call -/

variable {ss ss' : SessionTable} {K : SessionKey}

/-- The sessions with one of them put in its place, if it is there. -/
def put (ss : SessionTable) : Option Session → SessionTable
  | none => ss
  | some s => ss.insert s

/-- **A call looks at the session under its key alone, and puts none but that.**  Either it changes
nothing and answers the same to any sessions, or it has a key, and whether it returns, what it puts
and what it answers is made of the session under the key. -/
theorem step_local (elements : Registry) (e : TimedCall) :
    (∃ a, ∀ ss : SessionTable, ss.step? elements e = some (ss, a)) ∨
    ∃ (K : SessionKey) (act : Option Session → Option (Option Session × Answer)),
      e.key? = some K ∧ ∀ ss : SessionTable,
        ss.step? elements e = (act (ss.get? K)).map (fun x => (ss.put x.1, x.2)) ∧
          ∀ o a, act (ss.get? K) = some (o, a) → ∀ s, o = some s → s.key = K := by
  obtain ⟨now, call⟩ := e
  cases call with
  | decode exporter packet =>
    rcases decode_cases packet with ⟨e, hfault⟩ | ⟨h, sets, hparse, hsplit⟩
    · refine Or.inl ⟨.decoded (.error e), fun ss => ?_⟩
      obtain ⟨hdecode, hends⟩ := hfault elements ss now exporter
      simp only [step?, decode?_eq_some_iff.mpr ⟨hends, hdecode⟩, Option.map_some]
    · let K : SessionKey := ⟨exporter, h.domain⟩
      let current (o : Option Session) := (o.getD (.new K now)).touch now
      let received (o : Option Session) := (current o).receive elements h sets
      refine Or.inr ⟨K, fun o => if (current o).finishes elements h sets then
        some (some (received o).1, .decoded (.ok (received o).2)) else none, ?_, ?_⟩
      · simp only [TimedCall.key?, Call.key?, hparse]
        rfl
      · intro ss
        constructor
        · simp only [step?, decode?, finishes_of_framed elements ss now exporter hparse hsplit,
            decode_of_framed elements ss now exporter hparse hsplit]
          rw [apply_ite (Option.map _), apply_ite (Option.map _)]
          rfl
        · intro o a hact s hs
          rw [Option.ite_none_right_eq_some] at hact
          obtain ⟨-, hact⟩ := hact
          cases hact
          cases hs
          exact key_received elements ss now K h sets
  | session key =>
    refine Or.inr ⟨key, fun o => some (if o.isSome then none else some (.new key now),
      .session (o.getD (.new key now))), rfl, fun ss => ⟨?_, ?_⟩⟩
    · simp only [step?, opened, session]
      cases ss.get? key <;> rfl
    · rintro o a hact s rfl
      cases hget : ss.get? key with
      | none =>
        rw [hget] at hact
        cases hact
        rfl
      | some s' =>
        rw [hget] at hact
        cases hact
  | install key t =>
    refine Or.inr ⟨key, fun o => some (some (((o.getD (.new key now)).touch now).install t),
      .installed), rfl, fun ss => ⟨rfl, ?_⟩⟩
    rintro o a ⟨⟩ s ⟨⟩
    exact key_session ss now key
  | withdraw key id =>
    refine Or.inr ⟨key, fun o => some (o.map fun s => s.withdraw id,
      .withdrawn (o.bind fun s => s.template? id).isSome), rfl, fun ss => ⟨?_, ?_⟩⟩
    · simp only [step?, withdraw, template?]
      cases ss.get? key <;> rfl
    · rintro o a ⟨⟩ s hs
      obtain ⟨s', hget, rfl⟩ := Option.map_eq_some_iff.mp hs
      have hkey : s'.key = key := Keyed.key_of_get? hget
      exact hkey
  | resolve key id =>
    refine Or.inr ⟨key, fun o => some (none, .resolved (o.bind fun s => s.template? id)), rfl,
      fun ss => ⟨rfl, ?_⟩⟩
    rintro o a ⟨⟩ s ⟨⟩

theorem get?_put {o : Option Session} (h : ∀ s, o = some s → s.key = K) :
    (ss.put o).get? K = o.or (ss.get? K) := by
  cases o with
  | none => rfl
  | some s =>
    rw [put, Keyed.get?_insert, if_pos (h s rfl)]
    rfl

theorem get?_put_of_ne {o : Option Session} {K' : SessionKey} (h : ∀ s, o = some s → s.key = K')
    (hne : K' ≠ K) : (ss.put o).get? K = ss.get? K := by
  cases o with
  | none => rfl
  | some s =>
    rw [put, Keyed.get?_insert, h s rfl]
    exact if_neg hne

/-- **A call for another key leaves what is under a key as it is.** -/
theorem get?_step_of_ne {elements : Registry} {e : TimedCall} {a : Answer}
    (hne : e.key? ≠ some K) (hstep : ss.step? elements e = some (ss', a)) :
    ss'.get? K = ss.get? K := by
  rcases step_local elements e with ⟨a', hany⟩ | ⟨K', act, hkey, hown⟩
  · cases (hany ss).symm.trans hstep
    rfl
  · obtain ⟨heq, hput⟩ := hown ss
    obtain ⟨⟨o, a'⟩, hact, hresult⟩ := Option.map_eq_some_iff.mp (heq.symm.trans hstep)
    cases hresult
    have hkeys : K' ≠ K := fun h => hne (hkey.trans (congrArg some h))
    exact get?_put_of_ne (hput o _ hact) hkeys

/-- **A call for a key sees nothing but what is under that key**: to tables that agree there it does
not return, or it gives the same answer and they agree there afterwards. -/
theorem step_congr (elements : Registry) {e : TimedCall} (hkey : e.key? = some K)
    (h : ss.get? K = ss'.get? K) :
    (ss.step? elements e = none ∧ ss'.step? elements e = none) ∨
      ∃ t t' a, ss.step? elements e = some (t, a) ∧ ss'.step? elements e = some (t', a) ∧
        t.get? K = t'.get? K := by
  rcases step_local elements e with ⟨a, hany⟩ | ⟨K', act, hkey', hown⟩
  · exact Or.inr ⟨ss, ss', a, hany ss, hany ss', h⟩
  · cases hkey.symm.trans hkey'
    obtain ⟨heq, hput⟩ := hown ss
    obtain ⟨heq', hput'⟩ := hown ss'
    rw [← h] at heq' hput'
    cases hact : act (ss.get? K) with
    | none =>
      rw [hact] at heq heq'
      exact Or.inl ⟨heq, heq'⟩
    | some x =>
      obtain ⟨o, a⟩ := x
      rw [hact] at heq heq'
      refine Or.inr ⟨_, _, a, heq, heq', ?_⟩
      rw [get?_put (hput o a hact), get?_put (hput' o a hact), h]

/-! ## 3. Runs -/

theorem run_stuck {elements : Registry} {e : TimedCall} (h : ss.step? elements e = none)
    (es : List TimedCall) : ss.run elements (e :: es) = ⟨ss, [], some e⟩ := by
  rw [run, h]

theorem run_cons {elements : Registry} {e : TimedCall} {a : Answer}
    (h : ss.step? elements e = some (ss', a)) (es : List TimedCall) :
    ss.run elements (e :: es)
      = ⟨(ss'.run elements es).sessions, (e, a) :: (ss'.run elements es).answers,
          (ss'.run elements es).stuck⟩ := by
  rw [run, h]

/-- Two tables that agree on a key answer its calls alike, one with and one without the calls for
other keys, as far as the first run goes; and unless one of those others does not return, it goes as
far as the second, and they agree on the key afterwards. -/
theorem run_filter (elements : Registry) (es : List TimedCall) (h : ss.get? K = ss'.get? K) :
    let whole := ss.run elements es
    let own := ss'.run elements (es.filter fun e => e.key? = some K)
    whole.answersFor K <+: own.answers ∧
      ((∀ e, whole.stuck = some e → e.key? = some K) →
        whole.answersFor K = own.answers ∧ whole.sessions.get? K = own.sessions.get? K ∧
          whole.stuck = own.stuck) := by
  -- the tables agree on the key at every point where both runs have made the same of its calls
  induction es generalizing ss ss' with
  | nil => exact ⟨List.prefix_rfl, fun _ => ⟨rfl, h, rfl⟩⟩
  | cons e es ih =>
    intro whole own
    by_cases hkey : e.key? = some K
    · have hown : (e :: es).filter (fun e => e.key? = some K)
          = e :: es.filter fun e => e.key? = some K :=
        List.filter_cons_of_pos (by simpa using hkey)
      rcases step_congr elements hkey h with ⟨hstep, hstep'⟩ | ⟨t, t', a, hstep, hstep', hafter⟩
      · simp only [whole, own, hown, run_stuck hstep, run_stuck hstep']
        exact ⟨List.prefix_rfl, fun _ => ⟨rfl, h, trivial⟩⟩
      · obtain ⟨hinitial, hall⟩ := ih hafter
        have hfirst : whole.answersFor K = (e, a) :: (t.run elements es).answersFor K := by
          simp only [whole, run_cons hstep]
          exact List.filter_cons_of_pos (by simpa using hkey)
        rw [hfirst]
        simp only [whole, own, hown, run_cons hstep, run_cons hstep']
        refine ⟨List.cons_prefix_cons.mpr ⟨rfl, hinitial⟩, fun hothers => ?_⟩
        obtain ⟨hanswers, hlast, hstuck⟩ := hall hothers
        exact ⟨congrArg _ hanswers, hlast, hstuck⟩
    · have hown : (e :: es).filter (fun e => e.key? = some K)
          = es.filter fun e => e.key? = some K :=
        List.filter_cons_of_neg (by simpa using hkey)
      cases hstep : ss.step? elements e with
      | none =>
        simp only [whole, own, hown, run_stuck hstep]
        exact ⟨List.nil_prefix, fun hothers => absurd (hothers e rfl) hkey⟩
      | some x =>
        obtain ⟨t, a⟩ := x
        have hrest : whole.answersFor K = (t.run elements es).answersFor K := by
          simp only [whole, run_cons hstep]
          exact List.filter_cons_of_neg (by simpa using hkey)
        rw [hrest]
        simp only [whole, own, hown, run_cons hstep]
        exact ih ((get?_step_of_ne hkey hstep).trans h)

/-- The call installs no vacuous template. -/
def Call.IsProductive : Call → Prop
  | install _ t => ¬t.IsVacuous
  | _ => True

/-- A call returns where no template is vacuous, and none is afterwards unless it installs one. -/
theorem productive_step (elements : Registry) {e : TimedCall} (hss : ss.Productive)
    (he : e.call.IsProductive) :
    ∃ ss' a, ss.step? elements e = some (ss', a) ∧ ss'.Productive := by
  obtain ⟨now, call⟩ := e
  cases call with
  | decode exporter packet =>
    have hends := hss.finishes elements now exporter packet
    refine ⟨_, .decoded (ss.decode elements now exporter packet).2, ?_,
      hss.decode elements now exporter packet⟩
    simp only [step?, decode?_eq_some_iff.mpr ⟨hends, rfl⟩, Option.map_some]
  | session key => exact ⟨_, _, rfl, hss.opened now key⟩
  | install key t => exact ⟨_, _, rfl, hss.install now key he⟩
  | withdraw key id => exact ⟨_, _, rfl, hss.withdraw key id⟩
  | resolve key id => exact ⟨_, _, rfl, hss⟩

/-- A call that brings a packet is made for its exporter and its domain. -/
theorem key?_of_carries (now : Nat) (exporter : Address) {bs : Bytes} {h : Header}
    {sets : List RawSet} (hbs : Carries bs h sets) :
    TimedCall.key? ⟨now, .decode exporter bs⟩ = some ⟨exporter, h.domain⟩ := by
  simp only [TimedCall.key?, Call.key?, hbs.parse]

/-- What a call comes to that brings a packet. -/
theorem step?_of_carries (elements : Registry) (hss : ss.Productive) (now : Nat)
    (exporter : Address) {bs : Bytes} {h : Header} {sets : List RawSet} (hbs : Carries bs h sets) :
    ss.step? elements ⟨now, .decode exporter bs⟩
      = some (ss.insert ((ss.current now ⟨exporter, h.domain⟩).receive elements h sets).1,
          .decoded (.ok ((ss.current now ⟨exporter, h.domain⟩).receive elements h sets).2)) := by
  have hends := hss.finishes elements now exporter bs
  simp only [step?, decode?_eq_some_iff.mpr ⟨hends, rfl⟩, Option.map_some,
    decode_of_carries elements ss now exporter hbs]

/-- **All calls return where no template is vacuous**, by induction on them. -/
theorem productive_run (elements : Registry) {es : List TimedCall} (hss : ss.Productive)
    (hes : ∀ e ∈ es, e.call.IsProductive) :
    (ss.run elements es).stuck = none ∧ (ss.run elements es).sessions.Productive := by
  induction es generalizing ss with
  | nil => exact ⟨rfl, hss⟩
  | cons e es ih =>
    obtain ⟨ss', a, hstep, hafter⟩ := productive_step elements hss (hes e List.mem_cons_self)
    rw [run_cons hstep]
    exact ih hafter fun e' he' => hes e' (List.mem_cons_of_mem e he')

/-- **Sessions do not interfere.**  The answers to the calls for a key, and the session under it at
the end, are those of the run of these calls alone, which stops at a call that does not return if
the whole run does; only when a call for another key does not return, the answers are the first of
these.  All calls return where no template is installed whose records take no octets.  And a packet
with a fault, whenever it arrives, changes no session at all. -/
theorem run_isolated (elements : Registry) (ss : SessionTable) (es : List TimedCall)
    (K : SessionKey) :
    let whole := ss.run elements es
    let own := ss.run elements (es.filter fun e => e.key? = some K)
    ((∀ e, whole.stuck = some e → e.key? = some K) →
      whole.answersFor K = own.answers ∧ whole.sessions.get? K = own.sessions.get? K ∧
        whole.stuck = own.stuck) ∧
    whole.answersFor K <+: own.answers ∧
    (ss.Productive → (∀ e ∈ es, e.call.IsProductive) →
      whole.stuck = none ∧ own.stuck = none) ∧
    ∀ (now : Nat) (exporter : Address) (bs : Bytes) (ss' : SessionTable) (e : PacketError),
      whole.sessions.decode? elements now exporter bs = some (ss', .error e) →
        ss' = whole.sessions := by
  intro whole own
  obtain ⟨hfirst, hall⟩ := run_filter elements es (rfl : ss.get? K = ss.get? K)
  refine ⟨hall, hfirst, fun hss hes => ⟨(productive_run elements hss hes).1, ?_⟩, ?_⟩
  · exact (productive_run elements hss fun e he => hes e (List.mem_filter.mp he).1).1
  · intro now exporter bs ss' e hdecode
    obtain ⟨-, hresult⟩ := decode?_eq_some_iff.mp hdecode
    have herror := decode_of_error (congrArg Prod.snd hresult)
    rw [hresult] at herror
    exact herror

/-- Two exporters announce different templates under one identifier, and each sends a record.  What
the first is answered, and what is kept for it, is what it would be without the second; and it stays
when a packet without octets arrives from it. -/
theorem exporters_share_identifier :
    let a : SessionKey := ⟨.v4 ⟨[192, 0, 2, 1], rfl⟩, 0⟩
    let b : SessionKey := ⟨.v4 ⟨[192, 0, 2, 2], rfl⟩, 0⟩
    let octet : Builder := ({} : Builder).template 256 [⟨1, none, 1⟩]
    let octets : Builder := ({} : Builder).template 256 [⟨1, none, 2⟩]
    let small : Builder := ({} : Builder).data 256 [[7]]
    let large : Builder := ({} : Builder).data 256 [[1, 0]]
    let announced : TimedCall := ⟨0, .decode a.exporter octet.build⟩
    let announced' : TimedCall := ⟨1, .decode b.exporter octets.build⟩
    let sent : TimedCall := ⟨2, .decode a.exporter small.build⟩
    let sent' : TimedCall := ⟨3, .decode b.exporter large.build⟩
    let whole := run .empty .empty [announced, announced', sent, sent']
    let own := run .empty .empty [announced, sent]
    whole.stuck = none ∧ whole.answersFor a = own.answers ∧
      whole.sessions.get? a = own.sessions.get? a ∧
      (∃ p, (sent, .decoded (.ok p)) ∈ whole.answersFor a ∧
        p.messages.map (fun m => m.fields.map Prod.snd) = [[.octets [7]]]) ∧
      whole.sessions.decode? .empty 4 a.exporter []
        = some (whole.sessions, .error (.truncatedHeader 0)) := by
  intro a b octet octets small large announced announced' sent sent' whole own
  have hoctet : Carries octet.build octet.header octet.sets := Builder.carries_build rfl (by decide)
  have hoctets : Carries octets.build octets.header octets.sets :=
    Builder.carries_build rfl (by decide)
  have hsmall : Carries small.build small.header small.sets := Builder.carries_build rfl (by decide)
  have hlarge : Carries large.build large.header large.sets := Builder.carries_build rfl (by decide)
  have hb : b ≠ a := by decide
  have hown : [announced, announced', sent, sent'].filter (fun e => e.key? = some a)
      = [announced, sent] := by
    have hannounced : announced.key? = some a := key?_of_carries 0 a.exporter hoctet
    have hannounced' : announced'.key? = some b := key?_of_carries 1 b.exporter hoctets
    have hsent : sent.key? = some a := key?_of_carries 2 a.exporter hsmall
    have hsent' : sent'.key? = some b := key?_of_carries 3 b.exporter hlarge
    simp [hannounced, hannounced', hsent, hsent', hb]
  obtain ⟨hall, -, hreturn, hfault⟩ :=
    run_isolated .empty .empty [announced, announced', sent, sent'] a
  rw [hown] at hall hreturn
  have hrecords : ∀ e ∈ [announced, announced', sent, sent'], e.call.IsProductive := by
    simp [announced, announced', sent, sent', Call.IsProductive]
  obtain ⟨hwhole, -⟩ := hreturn .empty hrecords
  obtain ⟨hanswers, hlast, -⟩ := hall fun e he => nomatch hwhole.symm.trans he
  refine ⟨hwhole, hanswers, hlast, ?_, ?_⟩
  · have hfirst : step? .empty .empty announced = some (_, .decoded (.ok _)) :=
      step?_of_carries .empty .empty 0 a.exporter hoctet
    have hkept := Productive.empty.decode .empty 0 a.exporter octet.build
    rw [decode_of_carries .empty .empty 0 a.exporter hoctet] at hkept
    have hsecond : step? .empty _ sent = some (_, .decoded (.ok _)) :=
      step?_of_carries .empty hkept 2 a.exporter hsmall
    rw [hanswers]
    simp only [run_cons hfirst, run_cons hsecond]
    exact ⟨_, List.mem_cons_of_mem _ List.mem_cons_self, by decide⟩
  · have hends := (productive_run .empty .empty hrecords).2.finishes .empty 4 a.exporter []
    obtain ⟨ss', hrefused⟩ : ∃ ss', whole.sessions.decode? .empty 4 a.exporter []
        = some (ss', .error (.truncatedHeader 0)) := ⟨_, decode?_eq_some_iff.mpr ⟨hends, rfl⟩⟩
    rw [hfault 4 a.exporter [] ss' _ hrefused] at hrefused
    exact hrefused

end FlowIntake.SessionTable
