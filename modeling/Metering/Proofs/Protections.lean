import Mathlib.Data.List.Basic
import Mathlib.Logic.Relation
import Metering.Proofs.Registry
import Metering.Proofs.Retention

/-!
# Protections only protect

An event may have many reasons to be kept, and each of them is read twice: for the
event itself, and for the closing event that it waits for. So it is not plain that a
run spares no fewer events when its policy keeps more, its moment is earlier or more
consumers are registered. It is so since both readings turn on the same few facts,
and each of these can only go one way. `Stricter` lists them. What keeps an event
under the laxer terms then keeps it under the stricter ones, be it the event that is
judged or its closing one (`Stricter.isUnprotected`), and the closing event, which is
the one thing that lets go, has to pass the same test.

A consumer's watermark is the delicate part. It counts only if its event is in the
ledger, so a consumer that is put back to an event that is gone would protect nothing
any more. Put back to an event that is there, the consumer protects all that it did.
-/

namespace Metering.Retention

open Metering.Time (daysBefore)

/-- All that the selection of a run depends on, but for the kind. -/
structure Occasion where
  policy : Policy
  mode : Mode
  now : Int
  books : Books

namespace Occasion

/-- From this moment on events are kept. -/
def cutoff (s : Occasion) : Int := daysBefore s.now s.policy.cutoffAgeDays

/-- The events that a run selects. -/
def candidates (k : Kind) (s : Occasion) : List EventRow :=
  Retention.candidates s.policy k s.mode s.cutoff s.books

/-- Ways to protect more, one at a time: to turn a protection on, to let events get
older, to look at an earlier moment, to register a consumer, to put a consumer back
from an event to an earlier one, and to go by normal rules. -/
inductive Tightens : Occasion → Occasion → Prop
  | keepNewest (s : Occasion) : Tightens s { s with policy.keepAtLeastOne := true }
  | keepRunning (s : Occasion) : Tightens s { s with policy.keepRunning := true }
  | keepUnprocessed (s : Occasion) : Tightens s { s with policy.keepUnprocessed := true }
  | older (s : Occasion) {days : Nat} (hdays : s.policy.cutoffAgeDays ≤ days) :
      Tightens s { s with policy.cutoffAgeDays := days }
  | earlier (s : Occasion) {now : Int} (hnow : now ≤ s.now) : Tightens s { s with now := now }
  | register (s : Occasion) (moment : Int) (consumer watermark : String)
      {new : Registration} {r : Registry}
      (hr : s.books.consumers.register moment consumer watermark = .ok (new, r)) :
      Tightens s { s with books.consumers := r }
  | rewind (s : Occasion) (moment : Int) {old new : Registration} {v w : EventRow}
      {r : Registry} (hold : old ∈ s.books.consumers) (hv : v ∈ s.books.ledger.rows)
      (hmark : old.watermark = v.guid) (hw : w ∈ s.books.ledger.rows) (hlt : w.id < v.id)
      (hr : s.books.consumers.update moment old.consumer w.guid = .ok (new, r)) :
      Tightens s { s with books.consumers := r }
  | normal (s : Occasion) : Tightens s { s with mode := .normal }

/-- The second of two occasions protects whatever the first one does, of the same
events. -/
structure Stricter (s t : Occasion) : Prop where
  ledger : t.books.ledger = s.books.ledger
  cutoff : t.cutoff ≤ s.cutoff
  mode : s.mode = .normal → t.mode = .normal
  newest : s.policy.keepAtLeastOne = true → t.policy.keepAtLeastOne = true
  running : s.policy.keepRunning = true → t.policy.keepRunning = true
  unprocessed : s.policy.keepUnprocessed = true → t.policy.keepUnprocessed = true
  watermarks : ∀ w ∈ s.books.ledger.rows, (∃ c ∈ s.books.consumers, c.watermark = w.guid) →
    ∃ v ∈ s.books.ledger.rows, (∃ c ∈ t.books.consumers, c.watermark = v.guid) ∧ v.id ≤ w.id

variable {s t : Occasion} {k : Kind}

theorem watermarks_of_subset {l : Ledger} {r r' : Registry} (h : r ⊆ r') :
    ∀ w ∈ l.rows, (∃ c ∈ r, c.watermark = w.guid) →
      ∃ v ∈ l.rows, (∃ c ∈ r', c.watermark = v.guid) ∧ v.id ≤ w.id := by
  rintro w hw ⟨c, hc, hguid⟩
  exact ⟨w, hw, ⟨c, h hc, hguid⟩, Int.le_refl _⟩

theorem cutoff_mono {now now' : Int} {days days' : Nat} (hnow : now' ≤ now)
    (hdays : days ≤ days') : daysBefore now' days' ≤ daysBefore now days := by
  have hspan : (days : Int) * Time.millisPerDay ≤ days' * Time.millisPerDay := by
    unfold Time.millisPerDay
    omega
  have := Time.saturate_mono hspan
  exact Time.saturate_mono (by omega)

theorem stricter_normal (s : Occasion) : Stricter s { s with mode := .normal } :=
  ⟨rfl, Int.le_refl _, fun _ => rfl, id, id, id, watermarks_of_subset (List.Subset.refl _)⟩

theorem watermarks_of_update {l : Ledger} (hl : l.WellFormed) {r r' : Registry}
    (hr : r.Distinct) {now : Int} {old new : Registration} {v w : EventRow} (hold : old ∈ r)
    (hv : v ∈ l.rows) (hmark : old.watermark = v.guid) (hw : w ∈ l.rows) (hlt : w.id < v.id)
    (hupdate : r.update now old.consumer w.guid = .ok (new, r')) :
    ∀ u ∈ l.rows, (∃ c ∈ r, c.watermark = u.guid) →
      ∃ u' ∈ l.rows, (∃ c ∈ r', c.watermark = u'.guid) ∧ u'.id ≤ u.id := by
  rintro u hu ⟨c, hc, hguid⟩
  obtain ⟨hnew, hat⟩ := Registry.find?_update_self hupdate
  by_cases hown : c.consumer = old.consumer
  · have hsame : c = old := by
      have hfound := hr.find?_eq_some hc
      rw [hown, hr.find?_eq_some hold] at hfound
      exact (Option.some.inj hfound).symm
    subst hsame
    obtain rfl := hl.eq_of_guid hu hv (hguid.symm.trans hmark)
    exact ⟨w, hw, ⟨new, (Registry.mem_of_find? hnew).1, hat⟩, by omega⟩
  · have hkept : c ∈ r' := by
      have hfound := Registry.find?_update (Ne.symm hown) hupdate
      rw [hr.find?_eq_some hc] at hfound
      exact (Registry.mem_of_find? hfound).1
    exact ⟨u, hu, ⟨c, hkept, hguid⟩, Int.le_refl _⟩

theorem Tightens.stricter (h : Tightens s t) (hl : s.books.ledger.WellFormed)
    (hr : s.books.consumers.Distinct) : Stricter s t := by
  have hsame : s.books.consumers ⊆ s.books.consumers := List.Subset.refl _
  cases h with
  | keepNewest =>
      exact ⟨rfl, Int.le_refl _, id, fun _ => rfl, id, id, watermarks_of_subset hsame⟩
  | keepRunning =>
      exact ⟨rfl, Int.le_refl _, id, id, fun _ => rfl, id, watermarks_of_subset hsame⟩
  | keepUnprocessed =>
      exact ⟨rfl, Int.le_refl _, id, id, id, fun _ => rfl, watermarks_of_subset hsame⟩
  | older hdays =>
      exact ⟨rfl, cutoff_mono (Int.le_refl _) hdays, id, id, id, id,
        watermarks_of_subset hsame⟩
  | earlier hnow =>
      exact ⟨rfl, cutoff_mono hnow (Nat.le_refl _), id, id, id, id,
        watermarks_of_subset hsame⟩
  | register _ _ _ hregister =>
      obtain ⟨-, -, -, rfl⟩ := Registry.register_ok hregister
      exact ⟨rfl, Int.le_refl _, id, id, id, id,
        watermarks_of_subset (List.subset_append_left _ _)⟩
  | rewind _ hold hv hmark hw hlt hupdate =>
      exact ⟨rfl, Int.le_refl _, id, id, id, id,
        watermarks_of_update hl hr hold hv hmark hw hlt hupdate⟩
  | normal => exact stricter_normal s

theorem Tightens.distinct (h : Tightens s t) (hr : s.books.consumers.Distinct) :
    t.books.consumers.Distinct := by
  cases h with
  | register _ _ _ hregister => exact hr.register hregister
  | rewind _ _ _ _ _ _ hupdate => exact hr.update hupdate
  | _ => exact hr

/-! ## What stricter terms let go -/

theorem Stricter.isUnprotected (h : Stricter s t) {r : EventRow}
    (hu : IsUnprotected t.policy t.mode t.cutoff t.books r) :
    IsUnprotected s.policy s.mode s.cutoff s.books r where
  old := Int.lt_of_lt_of_le hu.old h.cutoff
  outlived hkeep := by
    rw [← h.ledger]
    exact hu.outlived (h.newest hkeep)
  processed hm hkeep w hw hnamed := by
    obtain ⟨v, hv, hnamed, hle⟩ := h.watermarks w hw hnamed
    rw [← h.ledger] at hv
    exact Int.lt_of_lt_of_le (hu.processed (h.mode hm) (h.unprocessed hkeep) v hv hnamed) hle

theorem Stricter.isExpendable (h : Stricter s t) {r : EventRow}
    (hexp : IsExpendable t.policy k t.mode t.cutoff t.books r) :
    IsExpendable s.policy k s.mode s.cutoff s.books r where
  unprotected := h.isUnprotected hexp.unprotected
  closed hm hkeep hopen := by
    obtain ⟨c, hc, hown, hclosing, htime, hu⟩ :=
      hexp.closed (h.mode hm) (h.running hkeep) hopen
    rw [h.ledger] at hc
    exact ⟨c, hc, hown, hclosing, htime, h.isUnprotected hu⟩

theorem Stricter.candidates (h : Stricter s t) (k : Kind) :
    (t.candidates k).Sublist (s.candidates k) := by
  unfold Occasion.candidates
  rw [candidates_eq_filter, candidates_eq_filter, h.ledger]
  refine List.monotone_filter_right _ fun r hr => ?_
  rw [decide_eq_true_eq] at hr ⊢
  exact h.isExpendable hr

/-- However protections are added, one after the other, the events that a run selects
are some of those that it would have selected without them. -/
theorem tightened_candidates_sublist (hl : s.books.ledger.WellFormed)
    (hr : s.books.consumers.Distinct) (h : Relation.ReflTransGen Tightens s t) (k : Kind) :
    (t.candidates k).Sublist (s.candidates k) := by
  induction h using Relation.ReflTransGen.head_induction_on with
  | refl => exact List.Sublist.refl _
  | head hstep _ ih =>
      have hstricter := hstep.stricter hl hr
      refine (ih ?_ (hstep.distinct hr)).trans (hstricter.candidates k)
      rw [hstricter.ledger]
      exact hl

/-- A run over an overfull ledger under no protection, when every event is old. -/
def unprotected : Occasion :=
  ⟨⟨0, false, false, false, 1, 1⟩, .sizeExceeded, 50, stoppedAndRunning⟩

/-- The same with a second consumer, which has come to the second event, and under
normal rules that keep what is unprocessed. -/
def attended : Occasion :=
  ⟨⟨0, false, false, true, 1, 1⟩, .normal, 50,
    { stoppedAndRunning with consumers := [⟨"billing", "d", 0, 0⟩, ⟨"audit", "b", 7, 8⟩] }⟩

/-- The consumer is registered at the third event and put back by one. Of the four
events that might go one is left. -/
theorem candidates_attended :
    unprotected.candidates .process = stoppedAndRunning.ledger.rows ∧
    (attended.candidates .process).Sublist (unprotected.candidates .process) ∧
    (attended.candidates .process).map (·.id) = [1] := by
  let registered : Occasion := { unprotected with books.consumers :=
    [⟨"billing", "d", 0, 0⟩, ⟨"audit", "c", 7, 7⟩] }
  have hregister : unprotected.Tightens registered :=
    .register unprotected 7 "audit" "c" rfl
  have hold : (⟨"audit", "c", 7, 7⟩ : Registration) ∈ registered.books.consumers := by decide
  have hthird : (⟨3, "c", 30, "STARTED", "db", none, none, none, none, "{}"⟩ : EventRow) ∈
      registered.books.ledger.rows := by decide
  have hsecond : (⟨2, "b", 20, "STOPPED", "web", none, none, none, none, "{}"⟩ : EventRow) ∈
      registered.books.ledger.rows := by decide
  have hback := Tightens.rewind registered 8 hold hthird rfl hsecond (by decide) rfl
  have hchain : Relation.ReflTransGen Tightens unprotected attended :=
    (((Relation.ReflTransGen.single hregister).tail hback).tail (.normal _)).tail
      (.keepUnprocessed _)
  have hdistinct : unprotected.books.consumers.Distinct := List.pairwise_singleton _ _
  exact ⟨by decide, tightened_candidates_sublist stoppedAndRunning_wellFormed hdistinct
    hchain .process, by decide⟩

end Occasion

end Metering.Retention
