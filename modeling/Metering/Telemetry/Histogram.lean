import Metering.Decimal.Binary64

/-!
# Histograms

A histogram remembers the last values it was given, so many at most, and of
all values ever their number, their sum and the smallest and largest of them.
Quantiles are read off the remembered values in the total order of binary64
words, where every value has its place; the mean is over all values.
-/

namespace Metering.Telemetry

open Metering.Decimal (Binary64)

structure Histogram where
  name : String
  /-- The values remembered, oldest first. -/
  samples : List Binary64
  maxSamples : Nat
  count : Nat
  sum : Binary64
  min : Binary64
  max : Binary64
deriving DecidableEq, Repr

/-- What a histogram tells. -/
structure HistogramSummary where
  name : String
  count : Nat
  retained : Nat
  mean : Option Binary64
  min : Option Binary64
  max : Option Binary64
  p50 : Option Binary64
  p95 : Option Binary64
  p99 : Option Binary64
deriving DecidableEq, Repr

namespace Histogram

/-- A histogram that remembers at least one value. -/
def new (name : String) (maxSamples : Nat) : Histogram :=
  ⟨name, [], Nat.max maxSamples 1, 0, ⟨0⟩, Binary64.infinity, Binary64.negInfinity⟩

/-- The smaller of two values, the first of equal ones; not-a-number gives way. -/
def smaller (a b : Binary64) : Binary64 :=
  if a.isNaN then b else if b.toFloat < a.toFloat then b else a

/-- The larger of two values, the first of equal ones; not-a-number gives way. -/
def larger (a b : Binary64) : Binary64 :=
  if a.isNaN then b else if a.toFloat < b.toFloat then b else a

def record (value : Binary64) (h : Histogram) : Histogram :=
  let kept := if h.maxSamples ≤ h.samples.length then h.samples.drop 1 else h.samples
  { h with
    samples := kept ++ [value]
    count := h.count + 1
    sum := Binary64.ofFloat (h.sum.toFloat + value.toFloat)
    min := smaller h.min value
    max := larger h.max value }

/-- The place of a quantile among so many values. The quantile is first brought between zero and
one; one that is no number is the lowest. -/
def quantileIndex (size : Nat) (q : Binary64) : Nat :=
  let q := q.toFloat
  let clamped := if q < 0.0 then 0.0 else if 1.0 < q then 1.0 else q
  Nat.min ((Float.ofNat size - 1.0) * clamped).toUInt64.toNat (size - 1)

/-- The value below which a share of the remembered values lies. -/
def quantile (q : Binary64) (h : Histogram) : Option Binary64 :=
  let sorted := h.samples.mergeSort fun a b => a.orderKey ≤ b.orderKey
  sorted[quantileIndex sorted.length q]?

/-- The mean of all values ever recorded. -/
def mean (h : Histogram) : Option Binary64 :=
  if h.count = 0 then none else some (Binary64.ofFloat (h.sum.toFloat / Float.ofNat h.count))

def summary (h : Histogram) : HistogramSummary where
  name := h.name
  count := h.count
  retained := h.samples.length
  mean := h.mean
  min := if h.count = 0 then none else some h.min
  max := if h.count = 0 then none else some h.max
  p50 := h.quantile (Binary64.ofFloat 0.5)
  p95 := h.quantile (Binary64.ofFloat 0.95)
  p99 := h.quantile (Binary64.ofFloat 0.99)

end Histogram

end Metering.Telemetry
