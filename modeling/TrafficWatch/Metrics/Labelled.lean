import Std.Data.ExtTreeMap

/-!
Gauges of one name that differ in a label. A gauge is found by a hash of its label, and the label
itself is never looked at: labels with the same hash share a gauge, which keeps the label that it was
made for.
-/

namespace TrafficWatch.Metrics

/-- The hash FNV-1a in 64 bits. -/
def labelHash (label : String) : UInt64 :=
  label.toUTF8.data.foldl (fun hash byte => (hash ^^^ byte.toUInt64) * 0x100000001b3)
    0xcbf29ce484222325

structure LabelledGauge where
  label : String
  value : Nat

structure LabelledGauges where
  byHash : Std.ExtTreeMap UInt64 LabelledGauge := ∅

namespace LabelledGauges

def reset (g : LabelledGauges) : LabelledGauges := { g with byHash := ∅ }

/-- A gauge is made for the label if none is found. -/
def set (g : LabelledGauges) (label : String) (value : Nat) : LabelledGauges :=
  let hash := labelHash label
  { g with byHash := g.byHash.insert hash { label := (g.byHash[hash]?).elim label (·.label), value } }

def setAll (g : LabelledGauges) (counts : List (String × Nat)) : LabelledGauges :=
  counts.foldl (fun g (label, n) => g.set label n) g

/-- Each label with its value, in the order of the labels. -/
def readings (g : LabelledGauges) : List (String × Nat) :=
  let entries := g.byHash.toList.map fun (_, gauge) => (gauge.label, gauge.value)
  (Std.ExtTreeMap.ofList entries compare).toList

end LabelledGauges

end TrafficWatch.Metrics
