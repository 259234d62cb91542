import TrafficWatch.Outline
import TrafficWatch.Schema
import TrafficWatch.Stream.Backoff

/-!
Tuning of a stream reader.
-/

namespace TrafficWatch.Stream

structure Config where
  /-- Recent messages that are kept. -/
  bufferLength : UInt64 := 200
  minRetryMs : UInt64 := 1000
  maxRetryMs : UInt64 := 30000
deriving DecidableEq, Repr

namespace Config

def backoff (c : Config) : Backoff := .create c.minRetryMs.toNat c.maxRetryMs.toNat

variable {V E : Type}

def schema (l : Leaves V E) : Schema V E Config where
  name := "StreamConfig"
  blank := {}
  fields := [
    .make .defaulted ["buffer_length"] (l.word "usize") fun n c => { c with bufferLength := n },
    .make .defaulted ["min_retry_interval_ms"] (l.word "u64") fun n c => { c with minRetryMs := n },
    .make .defaulted ["max_retry_interval_ms"] (l.word "u64") fun n c => { c with maxRetryMs := n }]

def entries (c : Config) : List (String × Entry) := [
  ("buffer_length", .natural c.bufferLength.toNat),
  ("min_retry_interval_ms", .natural c.minRetryMs.toNat),
  ("max_retry_interval_ms", .natural c.maxRetryMs.toNat)]

def json (c : Config) : Json.Value := .object (c.entries.map fun (name, e) => (name, e.json))

end Config

end TrafficWatch.Stream
