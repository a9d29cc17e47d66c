import Metering.Kind
import Metering.Telemetry.Histogram

/-!
# The registry of measurements

Measurements have names. A histogram or a counter comes into being when it is
first used, and a listing of all goes by name. Counters are words of 64 bits
and start over behind the largest.
-/

namespace Metering.Telemetry

open Metering.Decimal (Binary64)

structure Registry where
  histograms : List (String × Histogram)
  counters : List (String × UInt64)
deriving DecidableEq, Repr

/-- Something that happened to a snapshot and is measured. -/
inductive Observation where
  | generated (kind : Kind)
  | failed (kind : Kind)
deriving DecidableEq, Repr

/-- Changes the value of a name, or a first value where the name is new. -/
def change {α : Type} (name : String) (first : α) (f : α → α) :
    List (String × α) → List (String × α)
  | [] => [(name, f first)]
  | (n, a) :: rest => if n = name then (n, f a) :: rest else (n, a) :: change name first f rest

namespace Registry

def empty : Registry := ⟨[], []⟩

instance : Inhabited Registry := ⟨empty⟩

/-- How many values a histogram of the registry remembers. -/
def maxSamples : Nat := 1024

def observe (name : String) (value : Binary64) (r : Registry) : Registry :=
  { r with histograms :=
      change name (Histogram.new name maxSamples) (Histogram.record value) r.histograms }

def add (name : String) (delta : UInt64) (r : Registry) : Registry :=
  { r with counters := change name 0 (· + delta) r.counters }

def increment (name : String) (r : Registry) : Registry :=
  r.add name 1

/-- The value of a counter, zero before its first use. -/
def counter (name : String) (r : Registry) : UInt64 :=
  (r.counters.lookup name).getD 0

def histogram? (name : String) (r : Registry) : Option HistogramSummary :=
  (r.histograms.lookup name).map Histogram.summary

/-- The histograms by name. -/
def histogramList (r : Registry) : List HistogramSummary :=
  (r.histograms.mergeSort fun a b => a.1 ≤ b.1).map fun h => h.2.summary

/-- The counters by name. -/
def counterList (r : Registry) : List (String × UInt64) :=
  r.counters.mergeSort fun a b => a.1 ≤ b.1

/-- Records an observation; generating took so many seconds. -/
def record (seconds : Binary64) : Observation → Registry → Registry
  | .generated k, r => r.observe k.durationMetric seconds
  | .failed k, r => r.increment k.failureMetric

/-- The registry in a word, for a log. -/
def describe (r : Registry) : String :=
  "MetricRegistry \x7b histograms: " ++ toString r.histograms.length ++
    ", counters: " ++ toString r.counters.length ++ " \x7d"

end Registry

end Metering.Telemetry
