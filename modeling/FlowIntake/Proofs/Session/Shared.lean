/-
# Sessions that several tasks use at once

What a call does in two steps is what `SessionTable` does in one go, when nothing comes in between.
When something does, a session changes by the work of those who hold its handle alone, and a key
loses its session to a sweep that finds it idle alone.

* `SharedSessions.shows_install`, `SharedSessions.shows_decode`, `SharedSessions.shows_expire`:
  calls and sweeps in one go;
* `SharedSessions.State.act_cases`: what a step does;
* `SharedSessions.State.sessions_act`: what becomes of a session;
* `SharedSessions.State.handle_act`, `SharedSessions.State.handle_run`: what becomes of a key;
* `SharedSessions.State.held_act`, `SharedSessions.State.held_run`: what becomes of a call.
-/
import FlowIntake.Proofs.Packet.Sets
import FlowIntake.Session.Shared

namespace FlowIntake.SharedSessions

/-! ## 1. Looking up -/

variable {ss : SharedSessions} {K : SessionKey} {i : Nat} {s : Session}

/-- Every handle under a key is that of a session with the key. -/
def Sound (ss : SharedSessions) : Prop :=
  ∀ ⦃K : SessionKey⦄ ⦃i : Nat⦄, ss.handle? K = some i →
    ∃ s, ss.sessions[i]? = some s ∧ s.key = K

theorem find?_of_handle (h : ss.handle? K = some i) : ss.find? K = ss.sessions[i]? := by
  rw [find?, h]
  rfl

/-- Looking up changes nothing, or a session begins under a key that had none. -/
theorem lookUp_cases (ss : SharedSessions) (now : Nat) (K : SessionKey) :
    (∃ i, ss.handle? K = some i ∧ ss.lookUp now K = (ss, i)) ∨
      (ss.handle? K = none ∧ ss.lookUp now K
        = ({ ss.point K (some ss.sessions.length) with
            sessions := ss.sessions ++ [Session.new K now] }, ss.sessions.length)) := by
  unfold lookUp
  cases h : ss.handle? K with
  | none => exact Or.inr ⟨rfl, rfl⟩
  | some i => exact Or.inl ⟨i, rfl, rfl⟩

/-- A session stays behind its handle when others are looked up. -/
theorem sessions_lookUp (now : Nat) (K : SessionKey) (h : ss.sessions[i]? = some s) :
    (ss.lookUp now K).1.sessions[i]? = some s := by
  rcases lookUp_cases ss now K with ⟨j, -, heq⟩ | ⟨-, heq⟩
  · rw [heq]
    exact h
  · rw [heq]
    exact (List.getElem?_append_left (List.getElem?_eq_some_iff.mp h).1).trans h

/-- A handle stays under its key when others are looked up. -/
theorem handle_lookUp (now : Nat) (K' : SessionKey) (h : ss.handle? K = some i) :
    (ss.lookUp now K').1.handle? K = some i := by
  rcases lookUp_cases ss now K' with ⟨j, -, heq⟩ | ⟨hnone, heq⟩
  · rw [heq]
    exact h
  · have hne : K ≠ K' := by
      rintro rfl
      cases h.symm.trans hnone
    rw [heq]
    exact (if_neg hne).trans h

/-- The handle that is looked up is under the key from then on. -/
theorem handle_lookUp_self (ss : SharedSessions) (now : Nat) (K : SessionKey) :
    (ss.lookUp now K).1.handle? K = some (ss.lookUp now K).2 := by
  rcases lookUp_cases ss now K with ⟨i, hi, heq⟩ | ⟨-, heq⟩
  · rw [heq]
    exact hi
  · rw [heq]
    exact if_pos rfl

/-- It is the handle of the session under the key, which begins now when there is none. -/
theorem sessions_lookUp_self (hss : ss.Sound) (now : Nat) (K : SessionKey) :
    (ss.lookUp now K).1.sessions[(ss.lookUp now K).2]? = some ((ss.find? K).getD (.new K now)) := by
  rcases lookUp_cases ss now K with ⟨i, hi, heq⟩ | ⟨hnone, heq⟩
  · obtain ⟨s, hs, -⟩ := hss hi
    rw [heq, find?_of_handle hi, hs]
    rfl
  · rw [heq, find?, hnone]
    exact List.getElem?_concat_length

/-- No other key notices. -/
theorem find?_lookUp_of_ne (hss : ss.Sound) (now : Nat) {K' : SessionKey} (hne : K' ≠ K) :
    (ss.lookUp now K).1.find? K' = ss.find? K' := by
  rcases lookUp_cases ss now K with ⟨i, -, heq⟩ | ⟨-, heq⟩
  · rw [heq]
  · have hfind : (ss.lookUp now K).1.find? K'
        = (ss.handle? K').bind fun j => (ss.lookUp now K).1.sessions[j]? := by
      rw [heq, find?]
      exact congrArg (Option.bind · _) (if_neg hne)
    rw [hfind, find?]
    cases hj : ss.handle? K' with
    | none => rfl
    | some j =>
      obtain ⟨s, hs, -⟩ := hss hj
      exact (sessions_lookUp now K hs).trans hs.symm

theorem sound_lookUp (hss : ss.Sound) (now : Nat) (K : SessionKey) : (ss.lookUp now K).1.Sound := by
  intro K' i hi
  by_cases hkey : K' = K
  · have hself := sessions_lookUp_self hss now K
    rw [hkey, handle_lookUp_self] at hi
    cases hi
    refine ⟨_, hself, ?_⟩
    rw [hkey]
    cases hget : ss.find? K with
    | none => rfl
    | some s =>
      rw [find?, Option.bind_eq_some_iff] at hget
      obtain ⟨j, hj, hs⟩ := hget
      obtain ⟨s', hs', hown⟩ := hss hj
      cases hs.symm.trans hs'
      exact hown
  · have hold : ss.handle? K' = some i := by
      rcases lookUp_cases ss now K with ⟨j, -, heq⟩ | ⟨-, heq⟩
      · rwa [heq] at hi
      · rw [heq] at hi
        exact (if_neg hkey).symm.trans hi
    obtain ⟨s, hs, hown⟩ := hss hold
    exact ⟨s, sessions_lookUp now K hs, hown⟩

theorem getElem?_modify (ss : SharedSessions) (i j : Nat) (f : Session → Session) :
    (ss.modify i f).sessions[j]? = (ss.sessions[j]?).map fun s => if i = j then f s else s := by
  rw [modify, List.getElem?_modify]
  rfl

/-- Behind a handle that no key shares a session may change under its key. -/
theorem find?_modify (hss : ss.Sound) (hi : ss.handle? K = some i) {f : Session → Session}
    (K' : SessionKey) :
    (ss.modify i f).find? K' = if K' = K then (ss.find? K).map f else ss.find? K' := by
  have hfind : (ss.modify i f).find? K'
      = (ss.handle? K').bind fun j => (ss.modify i f).sessions[j]? := rfl
  simp only [hfind, getElem?_modify]
  by_cases hkey : K' = K
  · rw [if_pos hkey, hkey, hi, find?_of_handle hi]
    simp only [Option.bind_some, if_true]
  · rw [if_neg hkey, find?]
    cases hj : ss.handle? K' with
    | none => rfl
    | some j =>
      -- sessions behind one handle would have both keys
      have hne : i ≠ j := by
        rintro rfl
        obtain ⟨s, hs, hown⟩ := hss hi
        obtain ⟨s', hs', hown'⟩ := hss hj
        cases hs.symm.trans hs'
        exact hkey (hown'.symm.trans hown)
      simp only [Option.bind_some, if_neg hne, Option.map_id']

/-! ## 2. Two steps in a row -/

/-- The keys lead to the sessions of a table. -/
def Shows (ss : SharedSessions) (table : SessionTable) : Prop := ∀ K, ss.find? K = table.get? K

variable {table : SessionTable}

/-- **A call in one go**: when nothing comes in between, what is under its key becomes what the call
makes of it, and nothing else changes. -/
theorem shows_call (hss : ss.Sound) (h : ss.Shows table) (now : Nat) {f : Session → Session}
    (hf : (f (table.session now K)).key = K) :
    ((ss.lookUp now K).1.modify (ss.lookUp now K).2 f).Shows
      (table.insert (f (table.session now K))) := by
  intro K'
  have hself : (ss.lookUp now K).1.find? K = some (table.session now K) := by
    rw [find?_of_handle (handle_lookUp_self ss now K), sessions_lookUp_self hss, h K]
    rfl
  rw [find?_modify (sound_lookUp hss now K) (handle_lookUp_self ss now K), hself,
    Keyed.get?_insert, hf]
  by_cases hkey : K' = K
  · rw [if_pos hkey, if_pos hkey.symm]
    rfl
  · rw [if_neg hkey, if_neg (Ne.symm hkey), find?_lookUp_of_ne hss now hkey]
    exact h K'

/-- A template that is installed in two steps is installed. -/
theorem shows_install (elements : Registry) (hss : ss.Sound) (h : ss.Shows table) (now : Nat)
    (K : SessionKey) (t : Template) :
    ((ss.lookUp now K).1.modify (ss.lookUp now K).2 fun s =>
        ((Call.install K t).work elements now s).1).Shows (table.install now K t) :=
  shows_call hss h now (SessionTable.key_session table now K)

/-- A well-framed packet that is decoded in two steps is decoded. -/
theorem shows_decode (elements : Registry) (hss : ss.Sound) (h : ss.Shows table) (now : Nat)
    (exporter : Address) {bs : Bytes} {hd : Header} {sets : List RawSet}
    (hparse : Header.parse bs = .ok hd) (hsplit : splitSets hd bs = .ok sets) :
    let call := Call.decode exporter hd sets
    ((ss.lookUp now call.key).1.modify (ss.lookUp now call.key).2 fun s =>
        (call.work elements now s).1).Shows (table.decode elements now exporter bs).1 := by
  intro call
  rw [SessionTable.decode_of_framed elements table now exporter hparse hsplit]
  exact shows_call hss h now (SessionTable.key_received elements table now call.key hd sets)

/-- What a sweep leaves of a session. -/
def spared (now timeout : Nat) (o : Option Session) : Option Session :=
  o.filter fun s => ¬s.IsIdle now timeout

theorem spared_spared (now timeout : Nat) (o : Option Session) :
    spared now timeout (spared now timeout o) = spared now timeout o := by
  rw [spared, spared, Option.filter_filter]
  simp only [Bool.and_self]

/-- A sweep of one key takes its session away when it is idle. -/
theorem find?_sweep (ss : SharedSessions) (now timeout : Nat) (K K' : SessionKey) :
    (ss.sweep now timeout K).find? K'
      = if K' = K then spared now timeout (ss.find? K) else ss.find? K' := by
  have hspared : ∀ o : Option Session, spared now timeout o
      = if o.any fun s => s.IsIdle now timeout then none else o := by
    rintro (_ | s)
    · rfl
    · by_cases hidle : s.IsIdle now timeout <;> simp [spared, hidle]
  have hpoint : (ss.point K none).find? K' = if K' = K then none else ss.find? K' := by
    unfold find? point
    dsimp only
    split <;> rfl
  rw [hspared, sweep]
  split
  · exact hpoint
  · split
    · rename_i hkey
      rw [hkey]
    · rfl

/-- A sweep of several keys takes their sessions away when they are idle. -/
theorem find?_foldl_sweep (ss : SharedSessions) (now timeout : Nat) (Ks : List SessionKey)
    (K : SessionKey) :
    (Ks.foldl (fun ss K => ss.sweep now timeout K) ss).find? K
      = if K ∈ Ks then spared now timeout (ss.find? K) else ss.find? K := by
  induction Ks generalizing ss with
  | nil => rfl
  | cons K' Ks ih =>
    rw [List.foldl_cons, ih, find?_sweep]
    by_cases hkey : K = K'
    · have hmem : K ∈ K' :: Ks := hkey ▸ List.mem_cons_self
      rw [if_pos hkey, if_pos hmem, ← hkey]
      split
      · exact spared_spared now timeout _
      · rfl
    · have hmem : K ∈ K' :: Ks ↔ K ∈ Ks := by simp only [List.mem_cons, hkey, false_or]
      rw [if_neg hkey]
      simp only [hmem]

/-- **A sweep in one go**: when nothing comes in between, checking one session after another leaves
those that are not idle. -/
theorem shows_expire (h : ss.Shows table) (now timeout : Nat) {Ks : List SessionKey}
    (hall : ∀ K, (table.get? K).isSome → K ∈ Ks) :
    (Ks.foldl (fun ss K => ss.sweep now timeout K) ss).Shows (table.expire now timeout []) := by
  intro K
  have hexpire : (table.expire now timeout []).get? K = spared now timeout (table.get? K) := by
    rw [SessionTable.expire, Keyed.get?_filter]
    simp only [List.not_mem_nil, false_or]
    rfl
  rw [find?_foldl_sweep, hexpire, h K]
  split
  · rfl
  · rename_i hnone
    cases hget : table.get? K with
    | none => rfl
    | some s => exact absurd (hall K (hget ▸ rfl)) hnone

/-! ## 3. Steps -/

theorem Call.key_work (elements : Registry) (now : Nat) (s : Session) (call : Call) :
    (call.work elements now s).1.key = s.key := by
  cases call with
  | install key t => rfl
  | decode exporter h sets => exact Session.key_receive elements h (s.touch now) sets

theorem sound_modify (hss : ss.Sound) (i : Nat) {f : Session → Session}
    (hf : ∀ s, (f s).key = s.key) : (ss.modify i f).Sound := by
  intro K j hj
  obtain ⟨s, hs, hown⟩ := hss hj
  rw [getElem?_modify, hs]
  refine ⟨_, rfl, ?_⟩
  split
  · exact (hf s).trans hown
  · exact hown

theorem sessions_sweep (ss : SharedSessions) (now timeout : Nat) (K : SessionKey) :
    (ss.sweep now timeout K).sessions = ss.sessions := by
  unfold sweep
  split <;> rfl

theorem handle_of_sweep {now timeout i : Nat} {K K' : SessionKey}
    (h : (ss.sweep now timeout K).handle? K' = some i) : ss.handle? K' = some i := by
  unfold sweep at h
  split at h
  · simp only [point] at h
    split at h
    · cases h
    · exact h
  · exact h

theorem sound_sweep (hss : ss.Sound) (now timeout : Nat) (K : SessionKey) :
    (ss.sweep now timeout K).Sound := by
  intro K' i hi
  rw [sessions_sweep]
  exact hss (handle_of_sweep hi)

namespace State

variable {elements : Registry} {calls : Nat → Call} {σ : State} {K : SessionKey} {c i : Nat}
  {s : Session}

/-- The session behind the handle that a call holds. -/
def session? (σ : State) (c : Nat) : Option Session :=
  (σ.held c).bind fun i => σ.shared.sessions[i]?

/-- Handles under keys and in calls are those of sessions with the keys. -/
structure Sound (calls : Nat → Call) (σ : State) : Prop where
  shared : σ.shared.Sound
  held : ∀ ⦃c i : Nat⦄, σ.held c = some i →
    ∃ s, σ.shared.sessions[i]? = some s ∧ s.key = (calls c).key

/-- **What a step does**: nothing, or it looks up a session for a call that holds none, lets a call
work on the session it holds, or sweeps one session. -/
theorem act_cases (elements : Registry) (calls : Nat → Call) (σ : State) (a : Action) :
    σ.act elements calls a = σ ∨
    (∃ c now, a = .lookUp c now ∧ σ.held c = none ∧ σ.act elements calls a
      = { σ with shared := (σ.shared.lookUp now (calls c).key).1 }.hold c
          (some (σ.shared.lookUp now (calls c).key).2)) ∨
    (∃ c now i, a = .work c now ∧ σ.held c = some i ∧ σ.act elements calls a
      = { σ with shared := σ.shared.modify i fun s =>
            ((calls c).work elements now s).1 }.hold c none) ∨
    ∃ K now timeout, a = .sweep K now timeout ∧
      σ.act elements calls a = { σ with shared := σ.shared.sweep now timeout K } := by
  cases a with
  | lookUp c now =>
    cases hheld : σ.held c with
    | none => exact Or.inr (Or.inl ⟨c, now, rfl, hheld, by rw [act, hheld]⟩)
    | some i => exact Or.inl (by rw [act, hheld])
  | work c now =>
    cases hheld : σ.held c with
    | none => exact Or.inl (by rw [act, hheld])
    | some i => exact Or.inr (Or.inr (Or.inl ⟨c, now, i, rfl, hheld, by rw [act, hheld]⟩))
  | sweep K now timeout => exact Or.inr (Or.inr (Or.inr ⟨K, now, timeout, rfl, rfl⟩))

/-- **A session changes by the work of a call that holds it, and by nothing else.** -/
theorem sessions_act (elements : Registry) (calls : Nat → Call) (a : Action)
    (h : σ.shared.sessions[i]? = some s) :
    (σ.act elements calls a).shared.sessions[i]? = some s ∨
      ∃ c now, a = .work c now ∧ σ.held c = some i ∧
        (σ.act elements calls a).shared.sessions[i]?
          = some ((calls c).work elements now s).1 := by
  rcases act_cases elements calls σ a with
    heq | ⟨c, now, -, -, heq⟩ | ⟨c, now, j, rfl, hheld, heq⟩ | ⟨K, now, timeout, -, heq⟩
  · rw [heq]
    exact Or.inl h
  · rw [heq]
    exact Or.inl (sessions_lookUp now (calls c).key h)
  · have hmodify := getElem?_modify σ.shared j i fun s => ((calls c).work elements now s).1
    rw [h, Option.map_some] at hmodify
    rw [heq]
    by_cases hij : j = i
    · rw [if_pos hij] at hmodify
      exact Or.inr ⟨c, now, rfl, hij ▸ hheld, hmodify⟩
    · rw [if_neg hij] at hmodify
      exact Or.inl hmodify
  · rw [heq]
    exact Or.inl ((congrArg (·[i]?) (sessions_sweep σ.shared now timeout K)).trans h)

/-- Whether the step is a sweep that finds the session under a key idle. -/
def Removes (σ : State) (K : SessionKey) : Action → Prop
  | .sweep K' now timeout => K' = K ∧ (σ.shared.find? K).any fun s => s.IsIdle now timeout
  | .lookUp .. | .work .. => False

instance (σ : State) (K : SessionKey) : (a : Action) → Decidable (σ.Removes K a)
  | .sweep .. => inferInstanceAs (Decidable (_ ∧ _))
  | .lookUp .. | .work .. => inferInstanceAs (Decidable False)

/-- **A key loses its session to a sweep that finds it idle, and to nothing else.** -/
theorem handle_act {a : Action} (h : σ.shared.handle? K = some i) (hspared : ¬σ.Removes K a) :
    (σ.act elements calls a).shared.handle? K = some i := by
  rcases act_cases elements calls σ a with
    heq | ⟨c, now, -, -, heq⟩ | ⟨c, now, j, -, -, heq⟩ | ⟨K', now, timeout, rfl, heq⟩
  · rw [heq]
    exact h
  · rw [heq]
    exact handle_lookUp now (calls c).key h
  · rw [heq]
    exact h
  · rw [heq]
    simp only [sweep]
    split
    · rename_i hidle
      have hne : K ≠ K' := by
        rintro rfl
        exact hspared ⟨rfl, hidle⟩
      exact (if_neg hne).trans h
    · exact h

/-- A call holds its handle until it works. -/
theorem held_act {a : Action} (h : σ.held c = some i) (hwaits : ∀ now, a ≠ .work c now) :
    (σ.act elements calls a).held c = some i := by
  rcases act_cases elements calls σ a with
    heq | ⟨c', now, -, hfree, heq⟩ | ⟨c', now, j, rfl, -, heq⟩ | ⟨K, now, timeout, -, heq⟩
  · rw [heq]
    exact h
  · have hne : c ≠ c' := by
      rintro rfl
      cases h.symm.trans hfree
    rw [heq]
    exact (if_neg hne).trans h
  · have hne : c ≠ c' := by
      rintro rfl
      exact hwaits now rfl
    rw [heq]
    exact (if_neg hne).trans h
  · rw [heq]
    exact h

/-- A step leaves every session under its key. -/
theorem key_act (elements : Registry) (calls : Nat → Call) (a : Action)
    (h : σ.shared.sessions[i]? = some s) :
    ∃ s', (σ.act elements calls a).shared.sessions[i]? = some s' ∧ s'.key = s.key := by
  rcases sessions_act elements calls a h with hsame | ⟨c, now, -, -, hwork⟩
  · exact ⟨s, hsame, rfl⟩
  · exact ⟨_, hwork, Call.key_work elements now s (calls c)⟩

theorem sound_act (h : σ.Sound calls) (a : Action) : (σ.act elements calls a).Sound calls := by
  have hold : ∀ ⦃c i : Nat⦄, σ.held c = some i →
      ∃ s, (σ.act elements calls a).shared.sessions[i]? = some s ∧ s.key = (calls c).key := by
    intro c i hi
    obtain ⟨s, hs, hown⟩ := h.held hi
    obtain ⟨s', hs', hkey⟩ := key_act elements calls a hs
    exact ⟨s', hs', hkey.trans hown⟩
  rcases act_cases elements calls σ a with
    heq | ⟨c, now, -, -, heq⟩ | ⟨c, now, j, -, -, heq⟩ | ⟨K, now, timeout, -, heq⟩
  · rw [heq]
    exact h
  · have hshared := sound_lookUp h.shared now (calls c).key
    rw [heq] at hold ⊢
    refine ⟨hshared, fun c' i hi => ?_⟩
    by_cases hc : c' = c
    · have hnew : (σ.shared.lookUp now (calls c).key).2 = i :=
        Option.some.inj ((if_pos hc).symm.trans hi)
      rw [hc, ← hnew]
      exact hshared (handle_lookUp_self σ.shared now (calls c).key)
    · exact hold ((if_neg hc).symm.trans hi)
  · rw [heq] at hold ⊢
    refine ⟨sound_modify h.shared j fun s => Call.key_work elements now s (calls c),
      fun c' i hi => ?_⟩
    by_cases hc : c' = c
    · cases (if_pos hc).symm.trans hi
    · exact hold ((if_neg hc).symm.trans hi)
  · rw [heq] at hold ⊢
    exact ⟨sound_sweep h.shared now timeout K, hold⟩

/-! ## 4. Runs -/

theorem run_cons (σ : State) (a : Action) (as : List Action) :
    σ.run elements calls (a :: as) = (σ.act elements calls a).run elements calls as := rfl

/-- Whether none of the steps is a sweep that finds the session under a key idle. -/
def Spares (elements : Registry) (calls : Nat → Call) (K : SessionKey) : State → List Action → Prop
  | _, [] => True
  | σ, a :: as => ¬σ.Removes K a ∧ Spares elements calls K (σ.act elements calls a) as

instance decidableSpares (elements : Registry) (calls : Nat → Call) (K : SessionKey) :
    (σ : State) → (as : List Action) → Decidable (Spares elements calls K σ as)
  | _, [] => inferInstanceAs (Decidable True)
  | σ, a :: as =>
    have := decidableSpares elements calls K (σ.act elements calls a) as
    inferInstanceAs (Decidable (_ ∧ _))

theorem spares_append {as as' : List Action} :
    Spares elements calls K σ (as ++ as') ↔
      Spares elements calls K σ as ∧ Spares elements calls K (σ.run elements calls as) as' := by
  induction as generalizing σ with
  | nil => exact ⟨fun h => ⟨trivial, h⟩, And.right⟩
  | cons a as ih =>
    rw [List.cons_append, Spares, Spares, ih, run_cons, and_assoc]

theorem sound_start : Sound calls {} where
  shared _ _ hi := by cases hi
  held _ _ hi := by cases hi

theorem sound_run (h : σ.Sound calls) (as : List Action) :
    (σ.run elements calls as).Sound calls := by
  induction as generalizing σ with
  | nil => exact h
  | cons a as ih => exact ih (sound_act h a)

/-- A key keeps its session while no sweep finds it idle. -/
theorem handle_run {as : List Action} (h : σ.shared.handle? K = some i)
    (hspared : Spares elements calls K σ as) :
    (σ.run elements calls as).shared.handle? K = some i := by
  induction as generalizing σ with
  | nil => exact h
  | cons a as ih => exact ih (handle_act h hspared.1) hspared.2

/-- A call keeps its handle while it does not work. -/
theorem held_run {as : List Action} (h : σ.held c = some i) (hidle : ∀ now, .work c now ∉ as) :
    (σ.run elements calls as).held c = some i := by
  induction as generalizing σ with
  | nil => exact h
  | cons a as ih =>
    refine ih (held_act h fun now ha => hidle now (ha ▸ List.mem_cons_self)) fun now hmem => ?_
    exact hidle now (List.mem_cons_of_mem a hmem)

/-- A call that looks up its session holds the handle under its key. -/
theorem held_lookUp (elements : Registry) (h : σ.held c = none) (now : Nat) :
    ∃ i, (σ.act elements calls (.lookUp c now)).held c = some i ∧
      (σ.act elements calls (.lookUp c now)).shared.handle? (calls c).key = some i := by
  rw [act, h]
  exact ⟨_, if_pos rfl, handle_lookUp_self σ.shared now (calls c).key⟩

/-- A call that works leaves what it makes of its session behind its handle. -/
theorem sessions_work (elements : Registry) (calls : Nat → Call) (h : σ.held c = some i)
    (hs : σ.shared.sessions[i]? = some s) (now : Nat) :
    (σ.act elements calls (.work c now)).shared.sessions[i]?
      = some ((calls c).work elements now s).1 := by
  have hmodify := getElem?_modify σ.shared i i fun s => ((calls c).work elements now s).1
  rw [hs, Option.map_some, if_pos rfl] at hmodify
  rw [act, h]
  exact hmodify

end State

end FlowIntake.SharedSessions
