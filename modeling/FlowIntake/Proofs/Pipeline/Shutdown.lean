/-
# The tasks can always come to an end

A listener that is told to stop receives no more, and its tasks end one after another: each worker
when nothing is left for it, the dispatch stage when no worker is left, and the listener when every
submission has been answered.

* `Pipeline.State.Ended`: all tasks have ended;
* `Pipeline.orderly_step`: a task only ends when nothing more can come to it;
* `Pipeline.exists_clear`: what waits for the dispatcher can be submitted, whatever the workers do;
* `Pipeline.exists_stopped`: a worker can decode and send all that waits for it, and end;
* `Pipeline.exists_ended`: from every orderly state the tasks have a schedule to their end.
-/
import FlowIntake.Proofs.Pipeline.Order
import Mathlib.Data.Finset.Insert
import Mathlib.Data.Fintype.Defs

namespace FlowIntake.Pipeline

open Relation (ReflTransGen)

variable {p : Pipeline} {s s' : State p} {i : Fin p.workers} {w : Worker}

/-! ## 1. The order in which tasks end -/

/-- All tasks have ended: the one that receives, the workers, the dispatch stage and every
submission. -/
structure State.Ended (s : State p) : Prop where
  receiving : s.receiving = false
  worker : ∀ i, (s.worker i).task = .ended
  stage : s.stage = .ended
  inFlight : s.inFlight = []

/-- A worker has only ended if nothing waits for it and nothing can come, and the dispatch stage
only closes when no worker is left that could send. -/
structure State.Orderly (s : State p) : Prop where
  worker : ∀ i, (s.worker i).task = .ended → (s.worker i).queue = [] ∧ s.receiving = false
  stage : s.stage = .closing ∨ s.stage = .ended →
    s.queue = [] ∧ ∀ i, (s.worker i).task = .ended

theorem setWorker_self (s : State p) (i : Fin p.workers) (w : Worker) :
    (s.setWorker i w).worker i = w := if_pos rfl

theorem setWorker_of_ne (s : State p) {i j : Fin p.workers} (w : Worker) (h : j ≠ i) :
    (s.setWorker i w).worker j = s.worker j := if_neg h

/-- What a worker does that has not ended leaves the order as it is. -/
theorem orderly_setWorker (h : s.Orderly) (live : (s.worker i).task ≠ .ended)
    (hw : w.task = .ended → w.queue = [] ∧ s.receiving = false) : (s.setWorker i w).Orderly := by
  constructor
  · intro j hj
    rcases eq_or_ne j i with rfl | hne
    · rw [setWorker_self] at hj ⊢
      exact hw hj
    · rw [setWorker_of_ne s w hne] at hj ⊢
      exact h.worker j hj
  · intro hstage
    exact absurd ((h.stage hstage).2 i) live

/-- **A step keeps the order in which tasks end.** -/
theorem orderly_step (h : s.Orderly) (step : p.Step s s') : s'.Orderly := by
  cases step with
  | @accept d receiving _ =>
    have live : (s.worker (p.workerFor d)).task ≠ .ended := by
      intro hended
      have hstopped := (h.worker _ hended).2
      rw [receiving] at hstopped
      cases hstopped
    have hset := orderly_setWorker (w := { s.worker (p.workerFor d) with
      queue := (s.worker (p.workerFor d)).queue ++ [d.cut p.bufferSize] }) h live
      fun hended => absurd hended live
    exact ⟨hset.worker, hset.stage⟩
  | @fetch i d ds idle next =>
    refine orderly_setWorker h (by simp [idle]) fun hended => ?_
    cases hended
  | @decode i d now holding =>
    have live : (s.worker i).task ≠ .ended := by simp [holding]
    have hset := orderly_setWorker (w := ⟨(s.worker i).queue, .sending (messagesOf
      (s.sessions.decode p.elements now d.exporter d.payload).2)⟩) h live
      fun hended => nomatch hended
    exact ⟨hset.worker, hset.stage⟩
  | @send i m ms sending room =>
    have live : (s.worker i).task ≠ .ended := by simp [sending]
    have hset := orderly_setWorker (w := ⟨(s.worker i).queue, .sending ms⟩) h live
      fun hended => nomatch hended
    exact ⟨hset.worker, fun hstage => absurd ((h.stage hstage).2 i) live⟩
  | @leave i idle empty stopped =>
    exact orderly_setWorker h (by simp [idle]) fun _ => ⟨rfl, stopped⟩
  | stop told receiving => exact ⟨fun i hi => ⟨(h.worker i hi).1, rfl⟩, h.stage⟩
  | pick idle next => exact ⟨h.worker, fun hstage => by simp at hstage⟩
  | spawn holding room => exact ⟨h.worker, fun hstage => by simp at hstage⟩
  | close idle empty left => exact ⟨h.worker, fun _ => ⟨empty, left⟩⟩
  | finish closing empty => exact ⟨h.worker, fun _ => h.stage (Or.inl closing)⟩
  | drop | fail | sweep | tell | submit | answer => exact ⟨h.worker, h.stage⟩

theorem orderly_start (p : Pipeline) (ss : SessionTable) : (State.start p ss).Orderly :=
  ⟨fun _ hended => (by cases hended), fun hstage => by rcases hstage with h | h <;> cases h⟩

theorem orderly_of_reachable {ss : SessionTable} (h : p.Reachable ss s) : s.Orderly := by
  induction h with
  | refl => exact orderly_start p ss
  | tail _ step ih => exact orderly_step ih step

/-! ## 2. The dispatch side -/

/-- Nothing waits to be submitted, and no submission is in flight. -/
structure State.Clear (s : State p) : Prop where
  queue : s.queue = []
  stage : s.stage = .receiving
  inFlight : s.inFlight = []

/-- Every submission in flight can be answered, by induction on them. -/
theorem exists_landed (s : State p) :
    ∃ s', ReflTransGen p.Step s s' ∧ s'.inFlight = [] ∧ s'.queue = s.queue ∧
      s'.stage = s.stage ∧ s'.worker = s.worker ∧ s'.receiving = s.receiving := by
  generalize hflight : s.inFlight = flight
  induction flight generalizing s with
  | nil => exact ⟨s, .refl, hflight, rfl, rfl, rfl, rfl⟩
  | cons x xs ih =>
    obtain ⟨m, begun⟩ := x
    let called : State p := { s with
      inFlight := ⟨m, true⟩ :: xs
      submitted := if begun then s.submitted else s.submitted ++ [m] }
    have hcall : ReflTransGen p.Step s called := by
      cases begun with
      | true =>
        have hsame : called = s := by
          simp only [called, if_true, ← hflight]
        rw [hsame]
      | false => exact .single (@Step.submit p s m [] xs hflight)
    let answered : State p := { called with inFlight := xs }.note [.ofAnswer (.ok ())]
    have hanswer : p.Step called answered := @Step.answer p called m [] xs (.ok ()) rfl
    obtain ⟨s', hrun, hempty, hsame⟩ := ih answered rfl
    exact ⟨s', (hcall.tail hanswer).trans hrun, hempty, hsame⟩

/-- A message that the dispatch stage holds can be submitted. -/
theorem exists_spawned {m : Message} (holding : s.stage = .holding m) :
    ∃ s', ReflTransGen p.Step s s' ∧ s'.inFlight = [] ∧ s'.queue = s.queue ∧
      s'.stage = .receiving ∧ s'.worker = s.worker ∧ s'.receiving = s.receiving := by
  obtain ⟨s₁, hrun, hflight, hqueue, hstage, hworker, hreceiving⟩ := exists_landed s
  have hspawn : p.Step s₁ { s₁ with stage := .receiving, inFlight := s₁.inFlight ++ [⟨m, false⟩] } := by
    refine .spawn (hstage.trans holding) ?_
    rw [hflight]
    exact p.permits_pos
  obtain ⟨s', hrun', hflight', hqueue', hstage', hworker', hreceiving'⟩ := exists_landed
    { s₁ with stage := .receiving, inFlight := s₁.inFlight ++ [⟨m, false⟩] }
  exact ⟨s', (hrun.tail hspawn).trans hrun', hflight', hqueue'.trans hqueue, hstage',
    hworker'.trans hworker, hreceiving'.trans hreceiving⟩

/-- **All that waits for the dispatcher can be submitted**, by induction on the queue. -/
theorem exists_clear (hopen : s.stage ≠ .closing ∧ s.stage ≠ .ended) :
    ∃ s', ReflTransGen p.Step s s' ∧ s'.Clear ∧ s'.worker = s.worker ∧
      s'.receiving = s.receiving := by
  -- First a state in which the stage waits for the next message.
  obtain ⟨s₀, hrun₀, hstage₀, hqueue₀, hworker₀, hreceiving₀⟩ :
      ∃ s₀, ReflTransGen p.Step s s₀ ∧ s₀.stage = .receiving ∧ s₀.queue = s.queue ∧
        s₀.worker = s.worker ∧ s₀.receiving = s.receiving := by
    cases hstage : s.stage with
    | receiving => exact ⟨s, .refl, hstage, rfl, rfl, rfl⟩
    | holding m =>
      obtain ⟨s₀, hrun, -, hqueue, hreceiving, hrest⟩ := exists_spawned hstage
      exact ⟨s₀, hrun, hreceiving, hqueue, hrest⟩
    | closing => exact absurd hstage hopen.1
    | ended => exact absurd hstage hopen.2
  have hall : ∀ (ms : List Message) (r : State p), r.stage = .receiving → r.queue = ms →
      ∃ r', ReflTransGen p.Step r r' ∧ r'.Clear ∧ r'.worker = r.worker ∧
        r'.receiving = r.receiving := by
    intro ms
    induction ms with
    | nil =>
      intro r hstage hqueue
      obtain ⟨r', hrun, hflight, hqueue', hstage', hsame⟩ := exists_landed r
      exact ⟨r', hrun, ⟨hqueue'.trans hqueue, hstage'.trans hstage, hflight⟩, hsame⟩
    | cons m ms ih =>
      intro r hstage hqueue
      let picked : State p := { r with queue := ms, stage := .holding m }
      have hpick : p.Step r picked := .pick hstage hqueue
      obtain ⟨r₁, hrun, -, hqueue₁, hstage₁, hworker₁, hreceiving₁⟩ :=
        exists_spawned (s := picked) rfl
      obtain ⟨r', hrun', hclear, hworker', hreceiving'⟩ := ih r₁ hstage₁ hqueue₁
      exact ⟨r', (ReflTransGen.head hpick hrun).trans hrun', hclear, hworker'.trans hworker₁,
        hreceiving'.trans hreceiving₁⟩
  obtain ⟨s', hrun, hclear, hworker, hreceiving⟩ := hall s.queue s₀ hstage₀ hqueue₀
  exact ⟨s', hrun₀.trans hrun, hclear, hworker.trans hworker₀, hreceiving.trans hreceiving₀⟩

theorem State.Clear.open (h : s.Clear) : s.stage ≠ .closing ∧ s.stage ≠ .ended := by
  rw [h.stage]
  exact ⟨nofun, nofun⟩

/-! ## 3. The workers -/

/-- A worker can send all its messages, by induction on them; each is submitted at once, so that
there is room for the next. -/
theorem exists_sent {q : List Datagram} {ms : List Message} (hclear : s.Clear)
    (hworker : s.worker i = ⟨q, .sending ms⟩) :
    ∃ s', ReflTransGen p.Step s s' ∧ s'.Clear ∧ s'.receiving = s.receiving ∧
      s'.worker i = ⟨q, .sending []⟩ ∧ ∀ j, j ≠ i → s'.worker j = s.worker j := by
  induction ms generalizing s with
  | nil => exact ⟨s, .refl, hclear, rfl, hworker, fun _ _ => rfl⟩
  | cons m ms ih =>
    have hroom : s.queue.length < p.dispatchSize := by
      rw [hclear.queue]
      exact p.dispatchSize_pos
    have hsend : p.Step s (s.send i m ms) := .send (congrArg Worker.task hworker) hroom
    obtain ⟨s₁, hrun, hclear₁, hworker₁, hreceiving₁⟩ :=
      exists_clear (s := s.send i m ms) hclear.open
    have hown : s₁.worker i = ⟨q, .sending ms⟩ := by
      rw [hworker₁]
      have hset : (s.send i m ms).worker i = ⟨(s.worker i).queue, .sending ms⟩ := if_pos rfl
      rw [hset, hworker]
    have hothers : ∀ j, j ≠ i → s₁.worker j = s.worker j := by
      intro j hj
      rw [hworker₁]
      exact if_neg hj
    obtain ⟨s', hrun', hclear', hreceiving', hown', hothers'⟩ := ih hclear₁ hown
    exact ⟨s', (ReflTransGen.head hsend hrun).trans hrun', hclear', hreceiving'.trans hreceiving₁,
      hown', fun j hj => (hothers' j hj).trans (hothers j hj)⟩

/-- A worker that holds a datagram can decode it and send its messages. -/
theorem exists_decoded {q : List Datagram} {d : Datagram} (hclear : s.Clear)
    (hworker : s.worker i = ⟨q, .holding d⟩) :
    ∃ s', ReflTransGen p.Step s s' ∧ s'.Clear ∧ s'.receiving = s.receiving ∧
      s'.worker i = ⟨q, .sending []⟩ ∧ ∀ j, j ≠ i → s'.worker j = s.worker j := by
  have hdecode : p.Step s (s.decode i 0 d) := .decode (congrArg Worker.task hworker)
  have hclear₁ : (s.decode i 0 d).Clear := ⟨hclear.queue, hclear.stage, hclear.inFlight⟩
  have hown : (s.decode i 0 d).worker i = ⟨q, .sending (messagesOf
      (s.sessions.decode p.elements 0 d.exporter d.payload).2)⟩ := by
    have hset : (s.decode i 0 d).worker i = ⟨(s.worker i).queue, .sending (messagesOf
      (s.sessions.decode p.elements 0 d.exporter d.payload).2)⟩ := if_pos rfl
    rw [hset, hworker]
  obtain ⟨s', hrun, hclear', hreceiving, hown', hothers⟩ := exists_sent hclear₁ hown
  refine ⟨s', .head hdecode hrun, hclear', hreceiving, hown', fun j hj => ?_⟩
  rw [hothers j hj]
  exact if_neg hj

/-- **A worker can do all that waits for it, and end**, by induction on its queue, once no more can
come. -/
theorem exists_stopped (hclear : s.Clear) (hstopped : s.receiving = false) (i : Fin p.workers) :
    ∃ s', ReflTransGen p.Step s s' ∧ s'.Clear ∧ s'.receiving = false ∧
      (s'.worker i).task = .ended ∧ ∀ j, j ≠ i → s'.worker j = s.worker j := by
  have hall : ∀ (q : List Datagram) (r : State p), r.Clear → r.receiving = false →
      r.worker i = ⟨q, .sending []⟩ → ∃ r', ReflTransGen p.Step r r' ∧ r'.Clear ∧
        r'.receiving = false ∧ (r'.worker i).task = .ended ∧ ∀ j, j ≠ i → r'.worker j = r.worker j := by
    intro q
    induction q with
    | nil =>
      intro r hclear hstopped hworker
      have hleave : p.Step r (r.setWorker i ⟨[], .ended⟩) :=
        .leave (congrArg Worker.task hworker) (congrArg Worker.queue hworker) hstopped
      refine ⟨_, .single hleave, ⟨hclear.queue, hclear.stage, hclear.inFlight⟩, hstopped, ?_,
        fun j hj => setWorker_of_ne r _ hj⟩
      rw [setWorker_self]
    | cons d q ih =>
      intro r hclear hstopped hworker
      let fetched : State p := r.setWorker i ⟨q, .holding d⟩
      have hfetch : p.Step r fetched :=
        .fetch (congrArg Worker.task hworker) (congrArg Worker.queue hworker)
      obtain ⟨r₁, hrun, hclear₁, hreceiving₁, hown, hothers⟩ := exists_decoded (s := fetched)
        ⟨hclear.queue, hclear.stage, hclear.inFlight⟩ (setWorker_self r i _)
      obtain ⟨r', hrun', hclear', hstopped', hended, hothers'⟩ :=
        ih r₁ hclear₁ (hreceiving₁.trans hstopped) hown
      refine ⟨r', (ReflTransGen.head hfetch hrun).trans hrun', hclear', hstopped', hended, ?_⟩
      intro j hj
      rw [hothers' j hj, hothers j hj]
      exact setWorker_of_ne r _ hj
  obtain ⟨q, hq⟩ : ∃ q, (s.worker i).queue = q := ⟨_, rfl⟩
  have hworker : s.worker i = ⟨q, (s.worker i).task⟩ := by rw [← hq]
  cases htask : (s.worker i).task with
  | ended => exact ⟨s, .refl, hclear, hstopped, htask, fun _ _ => rfl⟩
  | sending ms =>
    rw [htask] at hworker
    obtain ⟨s₁, hrun, hclear₁, hreceiving₁, hown, hothers⟩ := exists_sent hclear hworker
    obtain ⟨s', hrun', hclear', hstopped', hended, hothers'⟩ :=
      hall q s₁ hclear₁ (hreceiving₁.trans hstopped) hown
    exact ⟨s', hrun.trans hrun', hclear', hstopped', hended,
      fun j hj => (hothers' j hj).trans (hothers j hj)⟩
  | holding d =>
    rw [htask] at hworker
    obtain ⟨s₁, hrun, hclear₁, hreceiving₁, hown, hothers⟩ := exists_decoded hclear hworker
    obtain ⟨s', hrun', hclear', hstopped', hended, hothers'⟩ :=
      hall q s₁ hclear₁ (hreceiving₁.trans hstopped) hown
    exact ⟨s', hrun.trans hrun', hclear', hstopped', hended,
      fun j hj => (hothers' j hj).trans (hothers j hj)⟩

/-- All workers can end, by induction on those that have to. -/
theorem exists_allStopped (hclear : s.Clear) (hstopped : s.receiving = false)
    (is : Finset (Fin p.workers)) :
    ∃ s', ReflTransGen p.Step s s' ∧ s'.Clear ∧ s'.receiving = false ∧
      ∀ i ∈ is, (s'.worker i).task = .ended := by
  induction is using Finset.induction_on with
  | empty => exact ⟨s, .refl, hclear, hstopped, fun i hi => absurd hi (Finset.notMem_empty i)⟩
  | insert i is _ ih =>
    obtain ⟨s₁, hrun, hclear₁, hstopped₁, hended₁⟩ := ih
    obtain ⟨s', hrun', hclear', hstopped', hended, hothers⟩ := exists_stopped hclear₁ hstopped₁ i
    refine ⟨s', hrun.trans hrun', hclear', hstopped', fun j hj => ?_⟩
    rcases eq_or_ne j i with rfl | hne
    · exact hended
    · rw [hothers j hne]
      exact hended₁ j (Finset.mem_of_mem_insert_of_ne hj hne)

/-! ## 4. The end -/

/-- The listener can be told to stop at any time, and stops receiving. -/
theorem exists_told (s : State p) :
    ∃ s', ReflTransGen p.Step s s' ∧ s'.receiving = false ∧ s'.queue = s.queue ∧
      s'.stage = s.stage ∧ s'.worker = s.worker := by
  have htell : p.Step s { s with told := true } := .tell
  cases hreceiving : s.receiving with
  | false => exact ⟨s, .refl, hreceiving, rfl, rfl, rfl⟩
  | true =>
    have hstop := Step.stop (s := { s with told := true }) rfl hreceiving
    exact ⟨_, (ReflTransGen.single htell).tail hstop, rfl, rfl, rfl, rfl⟩

/-- The dispatch stage can end once no worker is left. -/
theorem exists_finished (hstopped : s.receiving = false)
    (hworker : ∀ i, (s.worker i).task = .ended) (hstage : s.stage = .closing ∨ s.stage = .ended) :
    ∃ s', ReflTransGen p.Step s s' ∧ s'.Ended := by
  obtain ⟨s₁, hrun, hflight, -, hstage₁, hworker₁, hreceiving₁⟩ := exists_landed s
  have hended : ∀ i, (s₁.worker i).task = .ended := by
    intro i
    rw [hworker₁]
    exact hworker i
  rcases hstage with hclosing | hlast
  · have hfinish : p.Step s₁ { s₁ with stage := .ended } :=
      .finish (hstage₁.trans hclosing) hflight
    exact ⟨_, hrun.tail hfinish, hreceiving₁.trans hstopped, hended, rfl, hflight⟩
  · exact ⟨s₁, hrun, hreceiving₁.trans hstopped, hended, hstage₁.trans hlast, hflight⟩

/-- **The tasks can always come to an end.** -/
theorem exists_ended (h : s.Orderly) : ∃ s', ReflTransGen p.Step s s' ∧ s'.Ended := by
  obtain ⟨s₁, hrun₁, hstopped₁, hqueue₁, hstage₁, hworker₁⟩ := exists_told s
  by_cases hopen : s.stage ≠ .closing ∧ s.stage ≠ .ended
  · rw [← hstage₁] at hopen
    obtain ⟨s₂, hrun₂, hclear₂, -, hreceiving₂⟩ := exists_clear hopen
    obtain ⟨s₃, hrun₃, hclear₃, hstopped₃, hended⟩ :=
      exists_allStopped hclear₂ (hreceiving₂.trans hstopped₁) Finset.univ
    have hleft : ∀ i, (s₃.worker i).task = .ended := fun i => hended i (Finset.mem_univ i)
    have hclose : p.Step s₃ { s₃ with stage := .closing } := .close hclear₃.stage hclear₃.queue hleft
    obtain ⟨s', hrun', hlast⟩ :=
      exists_finished (s := { s₃ with stage := .closing }) hstopped₃ hleft (Or.inl rfl)
    exact ⟨s', (((hrun₁.trans hrun₂).trans hrun₃).tail hclose).trans hrun', hlast⟩
  · have hclosed : s.stage = .closing ∨ s.stage = .ended := by
      by_contra hnot
      exact hopen (not_or.mp hnot)
    have hleft : ∀ i, (s₁.worker i).task = .ended := by
      intro i
      rw [hworker₁]
      exact (h.stage hclosed).2 i
    rw [← hstage₁] at hclosed
    obtain ⟨s', hrun', hlast⟩ := exists_finished hstopped₁ hleft hclosed
    exact ⟨s', hrun₁.trans hrun', hlast⟩

end FlowIntake.Pipeline
