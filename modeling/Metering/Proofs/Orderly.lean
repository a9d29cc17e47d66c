import Metering.Proofs.Reading
import Metering.Proofs.Registry
import Metering.Proofs.Retention

/-!
# Books in order

Books are orderly when their ledger is well-formed, the times of its events do
not fall, and no consumer is registered twice. The empty books are orderly and
every operation keeps them so, as long as events come in with times that do not
fall.

`Spares` is what an operation may do to someone who reads on: it may add rows
at the end and take rows from the front, and as long as it leaves the reader's
registration it leaves the row that the reader has come to and all that
follows. There is one lemma for each operation. The one with an argument in it
is `run_spares`, and the argument is a different one in each mode. Under normal
rules nothing from the lowest watermark up may go. Where the ceiling is
exceeded everything may, but from the front of the ledger only, since with an
event all earlier ones may go as well; so a run that reaches past a reader has
reached the row of its watermark, and it has ended the reader's registration
before it deleted anything.
-/

namespace Metering

open Metering.Time (daysBefore)

structure Books.Orderly (b : Books) : Prop where
  ledger : b.ledger.WellFormed
  times : b.ledger.rows.Pairwise (·.createdAt ≤ ·.createdAt)
  consumers : b.consumers.Distinct

/-- Between two states of the books these rows were added at the end, and a
consumer that is still registered still finds everything from its watermark
on. -/
structure Spares (c : String) (new : List EventRow) (b b' : Books) : Prop where
  orderly : b'.Orderly
  rows : b'.ledger.rows.Sublist (b.ledger.rows ++ new)
  reader : ∀ x, b'.consumers.find? c = some x → b.consumers.find? c = some x ∧
    ∀ w rest, w.guid = x.watermark → w :: rest <:+ b.ledger.rows →
      w :: (rest ++ new) <:+ b'.ledger.rows

namespace Spares

variable {c : String} {b : Books}

theorem of_rows_eq {b' : Books} (hb : b'.Orderly)
    (hrows : b'.ledger.rows = b.ledger.rows)
    (hreader : b'.consumers.find? c = b.consumers.find? c) : Spares c [] b b' where
  orderly := hb
  rows := by
    rw [List.append_nil]
    exact hrows ▸ List.Sublist.refl _
  reader x hx := by
    refine ⟨hreader ▸ hx, fun w rest _ hw => ?_⟩
    rw [List.append_nil, hrows]
    exact hw

theorem refl (hb : b.Orderly) : Spares c [] b b := of_rows_eq hb rfl rfl

theorem of_registry (hb : b.Orderly) {r : Registry} (hdistinct : r.Distinct)
    (hreader : r.find? c = b.consumers.find? c) :
    Spares c [] b { b with consumers := r } :=
  of_rows_eq ⟨hb.ledger, hb.times, hdistinct⟩ rfl hreader

theorem of_guards (hb : b.Orderly) (guards : List String) :
    Spares c [] b { b with ledger := { b.ledger with guarded := guards } } :=
  of_rows_eq ⟨hb.ledger.withGuards guards, hb.times, hb.consumers⟩ rfl rfl

end Spares

theorem Ledger.append_spares {b : Books} (hb : b.Orderly) (c : String) (k : Kind)
    (now : Int) (fresh : String) (e : NewEvent)
    (hnew : b.ledger.contains (e.guid.getD fresh) = false)
    (htime : ∀ r ∈ b.ledger.rows,
      r.createdAt ≤ (e.toRow k now fresh (b.ledger.issued + 1)).createdAt) :
    Spares c [e.toRow k now fresh (b.ledger.issued + 1)] b
      { b with ledger := (b.ledger.append k now fresh e).2 } := by
  have hwf := hb.ledger.append k now fresh e
  rcases Ledger.append_cases k now fresh e b.ledger with ⟨htaken, -⟩ | ⟨-, heq⟩
  · rw [hnew] at htaken
    cases htaken
  · rw [heq] at hwf ⊢
    refine ⟨⟨hwf, ?_, hb.consumers⟩, List.Sublist.refl _, ?_⟩
    · refine List.pairwise_append.2 ⟨hb.times, List.pairwise_singleton _ _, ?_⟩
      intro r hr s hs
      rw [List.mem_singleton.1 hs]
      exact htime r hr
    · intro x hx
      refine ⟨hx, fun w rest _ hw => ?_⟩
      obtain ⟨front, hfront⟩ := hw
      refine ⟨front, ?_⟩
      rw [← hfront]
      simp

namespace Retention

variable {p : Policy} {k : Kind} {mode : Mode} {cutoff : Int} {b : Books}

/-- Events that may go stand before the event that a consumer has come to,
unless that event itself may go and the mode lets it. -/
theorem id_lt_watermark (hb : b.Orderly) {x : Registration} (hx : x ∈ b.consumers)
    {w : EventRow} (hw : w ∈ b.ledger.rows) (hguid : x.watermark = w.guid)
    (hkeep : mode = .normal → p.keepUnprocessed = true)
    (hstay : mode = .sizeExceeded → ¬ IsExpendable p k mode cutoff b w)
    {r : EventRow} (hr : r ∈ b.ledger.rows)
    (he : IsExpendable p k mode cutoff b r) : r.id < w.id := by
  cases mode with
  | normal => exact he.unprotected.processed rfl (hkeep rfl) w hw ⟨x, hx, hguid⟩
  | sizeExceeded =>
      have hord : b.ledger.rows.Pairwise fun x y =>
          x.id < y.id ∧ x.createdAt ≤ y.createdAt := hb.ledger.rising.and hb.times
      rcases eq_or_before hord hr hw with rfl | ⟨hlt, -⟩ | ⟨hlt, htime⟩
      · exact absurd he (hstay rfl)
      · exact hlt
      · -- with a later event, the one of the watermark may go too
        have hu := he.unprotected.earlier hr hlt htime
        exact absurd ⟨hu, by simp⟩ (hstay rfl)

theorem suffix_without (hl : b.ledger.WellFormed) {w : EventRow}
    {rest : List EventRow} (hw : w :: rest <:+ b.ledger.rows) {gone : List Int}
    (hgone : ∀ r ∈ b.ledger.rows, r.id ∈ gone → r.id < w.id) :
    w :: rest <:+ (b.ledger.without gone).rows := by
  obtain ⟨front, hfront⟩ := hw
  have hrising := hl.rising
  rw [← hfront] at hrising
  have hafter := List.pairwise_cons.1 (List.pairwise_append.1 hrising).2.1
  have hkeep : ∀ r ∈ w :: rest, (! gone.contains r.id) = true := by
    intro r hr
    rw [Bool.not_eq_true', Bool.eq_false_iff, Ne, List.contains_iff_mem]
    intro hid
    have hlt := hgone r (hfront ▸ List.mem_append_right _ hr) hid
    rcases List.mem_cons.1 hr with rfl | hr
    · omega
    · have := hafter.1 r hr
      omega
  refine ⟨front.filter fun r => ! gone.contains r.id, ?_⟩
  unfold Ledger.without
  rw [← hfront, List.filter_append, List.filter_eq_self.2 hkeep]

/-- Whatever becomes of a run, the consumers that it leaves registered lose
nothing, if it keeps what they have yet to read whenever its mode asks it. -/
theorem run_spares (hb : b.Orderly) (c : String) (estimator : Estimator) (now : Int)
    (hkeep : ∀ estimated, selectMode p k estimator b = .ok (.normal, estimated) →
      p.keepUnprocessed = true) :
    Spares c [] b (run p k estimator now b).2 := by
  rcases run_cases hb.ledger p k estimator now with
    ⟨e, -, herr⟩ | ⟨mode, estimated, gone, hmode, hpart, hleft, hstay, -⟩
  · rw [herr]
    exact Spares.refl hb
  · have hsub : (run p k estimator now b).2.ledger.rows.Sublist b.ledger.rows := by
      rw [hleft]
      exact List.filter_sublist
    refine ⟨⟨?_, hb.times.sublist hsub, ?_⟩, (List.append_nil _).symm ▸ hsub, ?_⟩
    · rw [hleft]
      exact hb.ledger.without gone
    · rw [hstay]
      exact hb.consumers.filter _
    · intro x hx
      rw [hstay] at hx
      obtain ⟨hx, hkept⟩ := hb.consumers.find?_filter hx
      refine ⟨hx, fun w rest hguid hw => ?_⟩
      have hwmem : w ∈ b.ledger.rows := hw.subset (by simp)
      rw [List.append_nil, hleft]
      refine suffix_without hb.ledger hw fun r hr hid => ?_
      obtain ⟨s, hs, hsame⟩ := List.mem_map.1 (hpart.subset hid)
      obtain ⟨hs, he⟩ := mem_candidates.1 hs
      rw [← hsame]
      refine id_lt_watermark hb (Registry.mem_of_find? hx).1 hwmem hguid.symm ?_ ?_ hs he
      · rintro rfl
        exact hkeep estimated hmode
      · rintro rfl hexp
        have horphan : isOrphaned (candidates p k .sizeExceeded
            (daysBefore now p.cutoffAgeDays) b) x = true := by
          unfold isOrphaned
          rw [List.any_eq_true]
          exact ⟨w, mem_candidates.2 ⟨hwmem, hexp⟩, by simpa using hguid⟩
        rw [horphan] at hkept
        cases hkept

end Retention

end Metering
