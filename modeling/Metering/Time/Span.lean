import Metering.Word

/-!
# Spans of time

A moment so many days or minutes before another, in milliseconds. Moments are
signed 64-bit numbers, and a span that leads out of their range stops at its
end.
-/

namespace Metering.Time

def millisPerDay : Int := 86400000

def millisPerMinute : Int := 60000

/-- The moment in range that is nearest. -/
def saturate (ms : Int) : Int :=
  max Word.minSigned (min Word.maxSigned ms)

/-- The moment so many days earlier. -/
def daysBefore (now : Int) (days : Nat) : Int :=
  saturate (now - saturate (days * millisPerDay))

/-- The moment so many minutes earlier. -/
def minutesBefore (now : Int) (minutes : Nat) : Int :=
  saturate (now - saturate (minutes * millisPerMinute))

theorem saturate_of_mem {ms : Int} (low : Word.minSigned ≤ ms) (high : ms ≤ Word.maxSigned) :
    saturate ms = ms := by
  unfold saturate
  omega

theorem saturate_mono {a b : Int} (h : a ≤ b) : saturate a ≤ saturate b := by
  unfold saturate
  omega

/-- A span that leads out of the range stops at an end that no moment in range
is before, so being earlier than it means the same. -/
theorem lt_saturate_sub {t now span : Int} (ht : Word.minSigned ≤ t) (hnow : now ≤ Word.maxSigned)
    (hspan : 0 ≤ span) (hlong : span ≤ Word.maxSigned) :
    t < saturate (now - saturate span) ↔ t < now - span := by
  rw [saturate_of_mem (Int.le_trans (by decide) hspan) hlong]
  unfold saturate
  omega

theorem lt_daysBefore {t now : Int} {days : Nat} (ht : Word.minSigned ≤ t)
    (hnow : now ≤ Word.maxSigned) (hdays : days ≤ Word.max32) :
    t < daysBefore now days ↔ t < now - days * millisPerDay := by
  unfold Word.max32 at hdays
  refine lt_saturate_sub ht hnow ?_ ?_
  · unfold millisPerDay
    omega
  · unfold millisPerDay Word.maxSigned
    omega

theorem lt_minutesBefore {t now : Int} {minutes : Nat} (ht : Word.minSigned ≤ t)
    (hnow : now ≤ Word.maxSigned) (hminutes : minutes ≤ Word.max32) :
    t < minutesBefore now minutes ↔ t < now - minutes * millisPerMinute := by
  unfold Word.max32 at hminutes
  refine lt_saturate_sub ht hnow ?_ ?_
  · unfold millisPerMinute
    omega
  · unfold millisPerMinute Word.maxSigned
    omega

end Metering.Time
