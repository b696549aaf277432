/-
# Metrics

Counters only grow, modulo 2^64; a gauge is what it was set to last.  Each stands under a name and
labels, and exists from the first time it is touched.

* `Measurement`: one change of one of them;
* `Metrics.record`: the metrics after a change.
-/
import FlowIntake.Field.Value.Text
import FlowIntake.Keyed

namespace FlowIntake

/-- What a metric is known by. -/
structure MetricKey where
  name : String
  labels : List (String × String) := []
deriving DecidableEq

/-- A change of a metric. -/
inductive Measurement where
  | increment (key : MetricKey) (amount : Nat)
  | set (key : MetricKey) (value : Nat)
deriving DecidableEq

/-- The value of a metric. -/
inductive MetricValue where
  | counter (n : UInt64)
  /-- A double, by its bits. -/
  | gauge (bits : UInt64)
deriving DecidableEq

namespace MetricValue

/-- The name of the kind. -/
def kind : MetricValue → String
  | counter _ => "counter"
  | gauge _ => "gauge"

/-- The value in decimal. -/
def text : MetricValue → String
  | counter n => toString n.toNat
  | gauge bits => Value.numberStyle.text bits

end MetricValue

/-- A metric. -/
structure Metric where
  key : MetricKey
  value : MetricValue
deriving DecidableEq

/-- Every metric touched. -/
abbrev Metrics := Keyed Metric Metric.key

namespace Metrics

/-- A counter after an increment. -/
def incremented (old : Option Metric) (amount : Nat) : MetricValue :=
  match old with
  | some ⟨_, .counter n⟩ => .counter (n + UInt64.ofNat amount)
  | _ => .counter (UInt64.ofNat amount)

/-- The metrics after a change. -/
def record (ms : Metrics) : Measurement → Metrics
  | .increment key amount => ms.insert ⟨key, incremented (ms.get? key) amount⟩
  | .set key value => ms.insert ⟨key, .gauge (Binary64.ofNat value)⟩

/-- The metrics after changes. -/
def recordAll (ms : Metrics) (changes : List Measurement) : Metrics := changes.foldl record ms

/-- The order of labels: pair by pair, names before values. -/
def labelsLe : List (String × String) → List (String × String) → Bool
  | [], _ => true
  | _ :: _, [] => false
  | (k, v) :: xs, (k', v') :: ys =>
    if k = k' then if v = v' then labelsLe xs ys else v < v' else k < k'

/-- The order of metrics: by name, then by labels. -/
def keyLe (a b : Metric) : Bool :=
  if a.key.name = b.key.name then labelsLe a.key.labels b.key.labels else a.key.name < b.key.name

/-- The metrics in order. -/
def sorted (ms : Metrics) : List Metric := ms.entries.mergeSort keyLe

end Metrics

end FlowIntake
