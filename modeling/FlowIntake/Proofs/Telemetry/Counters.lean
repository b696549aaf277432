/-
# What a counter says

A counter is changed by the increments that name it and by nothing else, so that after any events
it is the sum of what they add, modulo 2^64.

* `Metrics.count`: the count under a key;
* `Metrics.count_recordAll`: a counter after changes is the sum of their increments;
* `count_metricsOf_received`: the messages received are those that packets were decoded to.
-/
import FlowIntake.Telemetry.Event
import Mathlib.Algebra.BigOperators.Group.List.Basic
import Mathlib.Algebra.GroupWithZero.Nat

namespace FlowIntake

/-! ## 1. One counter -/

/-- What a change adds to the counter under a key. -/
def Measurement.added (key : MetricKey) : Measurement → Nat
  | .increment key' amount => if key' = key then amount else 0
  | .set .. => 0

/-- Whether a change makes a gauge of what stands under a key. -/
def Measurement.sets (key : MetricKey) : Measurement → Prop
  | .increment .. => False
  | .set key' _ => key' = key

namespace Metrics

/-- The count under a key, which is zero before the counter is first touched. -/
def count (ms : Metrics) (key : MetricKey) : UInt64 :=
  match ms.get? key with
  | some ⟨_, .counter n⟩ => n
  | _ => 0

theorem count_of_get? {ms : Metrics} {key key' : MetricKey} {n : UInt64}
    (h : ms.get? key = some ⟨key', .counter n⟩) : ms.count key = n := by
  rw [count, h]

theorem count_congr {ms ms' : Metrics} {key : MetricKey} (h : ms'.get? key = ms.get? key) :
    ms'.count key = ms.count key := by
  rw [count, h, count]

/-- An increment adds to whatever was counted before. -/
theorem incremented_eq (ms : Metrics) (key : MetricKey) (amount : Nat) :
    incremented (ms.get? key) amount = .counter (ms.count key + UInt64.ofNat amount) := by
  unfold incremented count
  split <;> simp_all

/-- A change adds to a counter what it says, unless it makes a gauge of it. -/
theorem count_record (ms : Metrics) {key : MetricKey} {change : Measurement}
    (h : ¬change.sets key) :
    (ms.record change).count key = ms.count key + UInt64.ofNat (change.added key) := by
  cases change with
  | increment key' amount =>
    by_cases hkey : key' = key
    · subst hkey
      have hget : (ms.record (.increment key' amount)).get? key'
          = some ⟨key', .counter (ms.count key' + UInt64.ofNat amount)⟩ := by
        rw [record, Keyed.get?_insert, if_pos rfl, incremented_eq]
      simp [count_of_get? hget, Measurement.added]
    · have hget : (ms.record (.increment key' amount)).get? key = ms.get? key := by
        rw [record, Keyed.get?_insert, if_neg hkey]
      simp [count_congr hget, Measurement.added, hkey]
  | set key' value =>
    have hget : (ms.record (.set key' value)).get? key = ms.get? key := by
      rw [record, Keyed.get?_insert]
      exact if_neg h
    simp [count_congr hget, Measurement.added]

/-- **A counter after changes is the sum of what they add**, modulo 2^64, by induction on them. -/
theorem count_recordAll (ms : Metrics) {key : MetricKey} {changes : List Measurement}
    (h : ∀ change ∈ changes, ¬change.sets key) :
    (ms.recordAll changes).count key
      = ms.count key + UInt64.ofNat (changes.map (Measurement.added key)).sum := by
  induction changes generalizing ms with
  | nil => simp [recordAll]
  | cons change changes ih =>
    have hrest := ih (ms.record change) fun c hc => h c (List.mem_cons_of_mem change hc)
    have hfirst := count_record ms (h change List.mem_cons_self)
    have hcons : ms.recordAll (change :: changes) = (ms.record change).recordAll changes := rfl
    rw [hcons, hrest, hfirst, List.map_cons, List.sum_cons, UInt64.ofNat_add, UInt64.add_assoc]

end Metrics

/-! ## 2. Messages received -/

/-- The counter of the messages that packets were decoded to. -/
def receivedEvents : MetricKey := ⟨"component_received_events_total", []⟩

/-- How many messages an event says were decoded. -/
def Event.received : Event → Nat
  | .messagesDecoded count _ _ _ => count
  | _ => 0

namespace Event

theorem not_sets_receivedEvents (e : Event) {change : Measurement} (h : change ∈ e.measurements) :
    ¬change.sets receivedEvents := by
  cases e <;>
    simp [measurements, ownMeasurements, failure?, Failure.count, discarded] at h <;>
    grind [Measurement.sets, receivedEvents]

/-- Only a decoded packet adds to the messages received. -/
theorem added_measurements (e : Event) :
    (e.measurements.map (Measurement.added receivedEvents)).sum = e.received := by
  cases e <;>
    simp [measurements, ownMeasurements, failure?, Failure.count, discarded, Measurement.added,
      receivedEvents, received]
  split <;> simp [Measurement.added]

end Event

/-- **The messages received are those that packets were decoded to**, modulo 2^64. -/
theorem count_metricsOf_received (events : List Event) :
    (metricsOf events).count receivedEvents = UInt64.ofNat (events.map Event.received).sum := by
  have hkeeps : ∀ change ∈ events.flatMap Event.measurements, ¬change.sets receivedEvents := by
    intro change hchange
    obtain ⟨e, -, he⟩ := List.mem_flatMap.mp hchange
    exact e.not_sets_receivedEvents he
  have hsum : ((events.flatMap Event.measurements).map (Measurement.added receivedEvents)).sum
      = (events.map Event.received).sum := by
    clear hkeeps
    induction events with
    | nil => rfl
    | cons e events ih => simp [ih, Event.added_measurements]
  have hempty : Metrics.count .empty receivedEvents = 0 := rfl
  rw [metricsOf, Metrics.count_recordAll _ hkeeps, hsum, hempty, UInt64.zero_add]

end FlowIntake
