/-
# Templates and the expiry of sessions

A call looks up its session and works on it in two steps.  A sweep that comes in between may take
the session from its key, and what the call then installs is found by nobody.  Short of that, no
template is lost: what a call has installed is found by all that start after it has returned.

* `Announcement.Keeps`, `SharedSessions.Call.Keeps`: what neither replaces nor withdraws a template;
* `SharedSessions.State.template_run`: a session keeps a template through such calls;
* `SharedSessions.State.template_held`: what a call finds where a key leads to a template;
* `SharedSessions.State.template_found`: a template is found unless it was replaced, withdrawn, or
  swept away after its call had looked up the session;
* `SharedSessions.State.template_lost`: a sweep between the two steps of a call loses it.
-/
import FlowIntake.Proofs.Packet.Visits
import FlowIntake.Proofs.Session.Shared

namespace FlowIntake

/-! ## 1. What keeps a template -/

/-- Whether the record leaves a template bound: it neither defines another under its identifier nor
withdraws it, alone or with all of its kind. -/
def Announcement.Keeps (t : Template) (a : Announcement) : Prop :=
  match a.record with
  | .definition t' => t'.id = t.id → t' = t
  | .withdrawal id => if id = a.kind.setId then t.kind ≠ a.kind else id ≠ t.id

theorem Bindings.after_of_keeps {b : Bindings} {t : Template} {a : Announcement}
    (h : a.Keeps t) (hb : b t.id = some t) : b.after a t.id = some t := by
  obtain ⟨kind, t' | id⟩ := a
  · simp only [after, Function.update_apply]
    split
    · rename_i hid
      rw [h hid.symm]
    · exact hb
  · simp only [Announcement.Keeps] at h
    simp only [after]
    split
    · rename_i hall
      rw [if_pos hall] at h
      exact (congrArg (Option.filter _) hb).trans (if_pos (decide_eq_true h))
    · rename_i hone
      rw [if_neg hone] at h
      rw [Function.update_apply, if_neg (Ne.symm h)]
      exact hb

theorem Bindings.fold_of_keeps {b : Bindings} {t : Template} {as : List Announcement}
    (h : ∀ a ∈ as, a.Keeps t) (hb : b t.id = some t) : b.fold as t.id = some t := by
  induction as generalizing b with
  | nil => exact hb
  | cons a as ih =>
    exact ih (fun a' ha' => h a' (List.mem_cons_of_mem a ha'))
      (after_of_keeps (h a List.mem_cons_self) hb)

/-- The sets that are read are sets of the packet. -/
theorem Bindings.set_mem_of_mem_visits {elements : Registry} {b : Bindings} {sets : List RawSet}
    {v : Visit} (h : v ∈ b.visits elements sets) : v.set ∈ sets := by
  induction sets generalizing b with
  | nil => cases h
  | cons set sets ih =>
    by_cases hover : (Visit.mk set b).overruns = true
    · rw [visits_overruns elements hover] at h
      rw [List.mem_singleton.mp h]
      exact List.mem_cons_self
    · rw [visits_cons elements hover] at h
      rcases List.mem_cons.mp h with rfl | hlater
      · exact List.mem_cons_self
      · exact List.mem_cons_of_mem set (ih hlater)

namespace SharedSessions

/-- Whether a call leaves a template bound, whatever else is: it neither replaces nor withdraws
it. -/
def Call.Keeps (elements : Registry) (t : Template) : Call → Prop
  | install _ t' => t'.id = t.id → t' = t
  | decode _ _ sets =>
    ∀ set ∈ sets, ∀ a ∈ (Visit.mk set .empty).announcements elements, a.Keeps t

theorem Call.template?_work {elements : Registry} {t : Template} {call : Call} {s : Session}
    (now : Nat) (h : call.Keeps elements t) (hs : s.template? t.id = some t) :
    (call.work elements now s).1.template? t.id = some t := by
  cases call with
  | install key t' =>
    have hinsert : ((s.touch now).install t').template? t.id
        = if t'.id = t.id then some t' else s.template? t.id := Keyed.get?_insert _ _ _
    refine hinsert.trans ?_
    split
    · rename_i hid
      rw [h hid]
    · exact hs
  | decode exporter hd sets =>
    have hbindings := Session.bindings_receive elements hd (s.touch now) sets
    refine (congrFun hbindings t.id).trans (Bindings.fold_of_keeps (fun a ha => ?_) hs)
    obtain ⟨v, hv, ha⟩ := List.mem_flatMap.mp ha
    exact h v.set (Bindings.set_mem_of_mem_visits hv) a ha

namespace State

variable {elements : Registry} {calls : Nat → Call} {σ : State} {K : SessionKey} {i : Nat}
  {s : Session}

/-- Whether no call for a key that works among the steps replaces or withdraws a template. -/
def KeptBy (elements : Registry) (calls : Nat → Call) (K : SessionKey) (t : Template)
    (as : List Action) : Prop :=
  ∀ c now, .work c now ∈ as → (calls c).key = K → (calls c).Keeps elements t

/-- **A session keeps a template while no call for its key replaces or withdraws it**, whether or
not the key still leads to it. -/
theorem template_run {as : List Action} {t : Template} (hσ : σ.Sound calls)
    (h : σ.shared.sessions[i]? = some s) (hkey : s.key = K) (ht : s.template? t.id = some t)
    (hkept : KeptBy elements calls K t as) :
    ∃ s', (σ.run elements calls as).shared.sessions[i]? = some s' ∧ s'.key = K ∧
      s'.template? t.id = some t := by
  induction as generalizing σ s with
  | nil => exact ⟨s, h, hkey, ht⟩
  | cons a as ih =>
    have hlater : KeptBy elements calls K t as := fun c now hmem =>
      hkept c now (List.mem_cons_of_mem a hmem)
    rcases sessions_act elements calls a h with hsame | ⟨c, now, rfl, hc, hwork⟩
    · exact ih (sound_act hσ a) hsame hkey ht hlater
    · obtain ⟨s', hs', hown⟩ := hσ.held hc
      cases h.symm.trans hs'
      have hkeeps := hkept c now List.mem_cons_self (hown.symm.trans hkey)
      exact ih (sound_act hσ _) hwork ((Call.key_work elements now s (calls c)).trans hkey)
        (Call.template?_work now hkeeps ht) hlater

/-- A call that looks up its session where a key leads to a template works on a session with it. -/
theorem template_held {c n : Nat} {later : List Action} {t : Template} (hσ : σ.Sound calls)
    (hi : σ.shared.handle? K = some i) (hs : σ.shared.sessions[i]? = some s) (hkey : s.key = K)
    (ht : s.template? t.id = some t) (hfree : σ.held c = none) (hfor : (calls c).key = K)
    (hwaits : ∀ n, .work c n ∉ later) (hkept : KeptBy elements calls K t later) :
    ∃ s, ((σ.act elements calls (.lookUp c n)).run elements calls later).session? c = some s ∧
      s.template? t.id = some t := by
  obtain ⟨j, hj, hnow⟩ := held_lookUp elements hfree n
  rw [hfor] at hnow
  cases (handle_act hi (a := .lookUp c n) id).symm.trans hnow
  have hlooked : (σ.act elements calls (.lookUp c n)).shared.sessions[i]? = some s := by
    rcases sessions_act elements calls (.lookUp c n) hs with hlooked | ⟨c', n', hwork, -⟩
    · exact hlooked
    · cases hwork
  obtain ⟨s', hs', -, ht'⟩ := template_run (sound_act hσ _) hlooked hkey ht hkept
  refine ⟨s', ?_, ht'⟩
  rw [session?, held_run hj hwaits]
  exact hs'

/-! ## 2. What is found -/

/-- When a call has looked up its session, after some steps. -/
def entered (elements : Registry) (calls : Nat → Call) (before : List Action) (c now : Nat) :
    State :=
  (run elements calls {} before).act elements calls (.lookUp c now)

/-- When it has worked on its session and returned, after others. -/
def returned (elements : Registry) (calls : Nat → Call) (before during : List Action)
    (c now now' : Nat) : State :=
  ((entered elements calls before c now).run elements calls during).act elements calls
    (.work c now')

/-- A call looks up its session, works on it after other steps, and leaves a template bound. -/
structure Installs (elements : Registry) (calls : Nat → Call) (before during : List Action)
    (c now now' : Nat) (t : Template) : Prop where
  begins : (run elements calls {} before).held c = none
  waits : ∀ n, .work c n ∉ during
  bound : ∃ s,
    ((entered elements calls before c now).run elements calls during).session? c = some s ∧
      ((calls c).work elements now' s).1.template? t.id = some t

/-- **No template is lost while its session is in use.**  A template that a call has left bound is
found under its key by all that starts after the call has returned, however the steps of calls and
sweeps interleave: by asking for it, and by every other call in the session that it works on.  This
holds unless a call for the key has replaced or withdrawn it since, or a sweep that came after the
call had looked up its session found the session idle. -/
theorem template_found (elements : Registry) (calls : Nat → Call)
    {before during after : List Action} {c now now' : Nat} {t : Template}
    (h : Installs elements calls before during c now now' t)
    (hkept : KeptBy elements calls (calls c).key t after)
    (hspared : Spares elements calls (calls c).key (entered elements calls before c now)
      (during ++ .work c now' :: after)) :
    let σ := (returned elements calls before during c now now').run elements calls after
    σ.shared.template? (calls c).key t.id = some t ∧
      ∀ (c' n : Nat) (later : List Action), σ.held c' = none → (calls c').key = (calls c).key →
        (∀ n, .work c' n ∉ later) → KeptBy elements calls (calls c).key t later →
        ∃ s, ((σ.act elements calls (.lookUp c' n)).run elements calls later).session? c' = some s ∧
          s.template? t.id = some t := by
  intro σ
  let K := (calls c).key
  let ready := (entered elements calls before c now).run elements calls during
  obtain ⟨i, hheld, hhandle⟩ := held_lookUp elements h.begins now
  obtain ⟨hduring, hwork, hafter⟩ := spares_append.mp hspared
  have hready : ready.Sound calls := sound_run (sound_act (sound_run sound_start before) _) during
  have hc : ready.held c = some i := held_run hheld h.waits
  -- what the call leaves behind its handle
  obtain ⟨s, hs, ht⟩ := h.bound
  rw [session?, hc, Option.bind_some] at hs
  have hown : s.key = K := by
    obtain ⟨s', hs', hkey⟩ := hready.held hc
    cases hs.symm.trans hs'
    exact hkey
  have hleft : (returned elements calls before during c now now').shared.sessions[i]?
      = some ((calls c).work elements now' s).1 := sessions_work elements calls hc hs now'
  have hreturned : (returned elements calls before during c now now').Sound calls :=
    sound_act hready _
  have hkey : ((calls c).work elements now' s).1.key = K :=
    (Call.key_work elements now' s (calls c)).trans hown
  -- the key leads to the same session all the time
  have hσ : σ.shared.handle? K = some i :=
    handle_run (handle_act (handle_run hhandle hduring) hwork) hafter
  obtain ⟨s', hs', hkey', ht'⟩ := template_run hreturned hleft hkey ht hkept
  refine ⟨?_, fun c' n later hfree hfor hwaits hlater => ?_⟩
  · rw [template?, find?_of_handle hσ, hs']
    exact ht'
  · exact template_held (sound_run hreturned after) hσ hs' hkey' ht' hfree hfor hwaits hlater

/-- Two calls install templates while sweeps come and find the session in use. -/
theorem template_found_between_sweeps :
    let K : SessionKey := ⟨.v4 ⟨[192, 0, 2, 1], rfl⟩, 0⟩
    let t : Template := ⟨257, .data, 0, [⟨Element.undeclared 0 2, 8⟩]⟩
    let calls (c : Nat) : Call :=
      if c = 0 then .install K ⟨256, .data, 0, [⟨Element.undeclared 0 1, 8⟩]⟩ else .install K t
    let before : List Action := [.lookUp 0 0, .work 0 0]
    let during : List Action := [.lookUp 0 40, .sweep K 40 50, .work 0 40]
    let σ := returned .empty calls before during 1 40 90
    Installs .empty calls before during 1 40 90 t ∧
      (σ.run .empty calls [.sweep K 130 50]).shared.template? K 257 = some t := by
  intro K t calls before during σ
  have hinstalls : Installs .empty calls before during 1 40 90 t := by
    refine ⟨rfl, fun n hn => ?_, _, rfl, rfl⟩
    simp [during] at hn
  have hkept : KeptBy .empty calls K t [.sweep K 130 50] := by
    intro c n hn
    simp at hn
  exact ⟨hinstalls, (template_found .empty calls hinstalls hkept (by decide)).1⟩

/-- **A sweep between the two steps of a call loses its template.**  A session has been idle for
100; a call looks it up, a sweep takes it away, and the call installs a template and returns.  No
step comes after it, and nobody finds the template: a packet that comes next has its data
skipped. -/
theorem template_lost :
    let K : SessionKey := ⟨.v4 ⟨[192, 0, 2, 1], rfl⟩, 0⟩
    let t : Template := ⟨257, .data, 0, [⟨Element.undeclared 0 2, 8⟩]⟩
    let calls (c : Nat) : Call :=
      if c = 0 then .install K ⟨256, .data, 0, [⟨Element.undeclared 0 1, 8⟩]⟩
      else if c = 1 then .install K t
      else .decode K.exporter ⟨10, 21, 0, 0, 0⟩ [⟨257, [7]⟩]
    let before : List Action := [.lookUp 0 0, .work 0 0]
    let during : List Action := [.sweep K 100 50]
    let σ := returned .empty calls before during 1 100 100
    Installs .empty calls before during 1 100 100 t ∧ σ.shared.template? K 257 = none ∧
      ∃ s, (σ.act .empty calls (.lookUp 2 101)).session? 2 = some s ∧
        ((calls 2).work .empty 101 s).2.map DecodedPacket.issues
          = some [.missingTemplate 257] := by
  intro K t calls before during σ
  refine ⟨⟨rfl, fun n hn => ?_, _, rfl, rfl⟩, rfl, _, rfl, rfl⟩
  simp [during] at hn

end State

end SharedSessions

end FlowIntake
