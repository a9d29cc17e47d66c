import Metering.Proofs.Batches
import Mathlib.Algebra.Order.Floor.Div
import Mathlib.Data.Finset.Sort
import Mathlib.Data.Int.ConditionallyCompleteOrder
import Mathlib.Order.ConditionallyCompleteLattice.Basic

/-!
# Where the batches lie

`Batches` leaves open how long the prefix is that has been deleted when a batch
fails. The batches are the stretches of so many identifiers of the set in rising
order, so what is gone then are those of the stretches before the one that
failed. `deleteRemaining_after` follows the loop through any number of batches
that do not fail, and all else is what the next batch does.

A batch may be told by its identifiers or by the two between which they lie:
above the highest one of the batch before, and up to its own highest. The second
is how a store is asked, with the border looked up anew for each batch.
`deleteInBatches_eq_deleteRanges` says that no gap in the identifiers makes a
difference between the two.
-/

namespace Metering

namespace Retention

/-! ## One batch after another -/

/-- How many identifiers a batch takes of so many. Zero counts as one, and a size past
the signed range takes all of them. -/
def batchLength (size count : Nat) : Nat :=
  if size < Page.signedBound then max size 1 else max count 1

theorem batchLength_pos (size count : Nat) : 0 < batchLength size count := by
  unfold batchLength
  split <;> omega

theorem take_eq_take {size count : Nat} {ids : List Int} (hcount : ids.length ≤ count) :
    Page.take (max size 1) ids = ids.take (batchLength size count) := by
  unfold Page.take batchLength
  by_cases hsize : size < Page.signedBound
  · have hone : max size 1 < Page.signedBound := by
      unfold Page.signedBound at hsize ⊢
      omega
    rw [if_pos hone, if_pos hsize]
  · rw [if_neg (by omega), if_neg hsize, List.take_of_length_le (by omega)]

theorem deleteRemaining_step (size count : Nat) {remaining : List Int}
    (hrising : remaining.Pairwise (· < ·)) (hne : remaining ≠ [])
    (hcount : remaining.length ≤ count) (done : BatchOutcome) (l : Ledger) :
    deleteRemaining (max size 1) remaining done l =
      match l.delete (remaining.take (batchLength size count)) with
      | .error e => (.error e, l)
      | .ok (n, l') =>
        deleteRemaining (max size 1) (remaining.drop (batchLength size count))
          (done.add n) l' := by
  have hlast : (Page.take (max size 1) remaining).getLast? ≠ none :=
    (getLast?_take_eq_none (by omega)).not.2 hne
  obtain ⟨upper, hlast⟩ := Option.ne_none_iff_exists'.1 hlast
  have hstep := deleteRemaining_of_last hlast done l
  rw [take_eq_take hcount] at hlast hstep
  rw [above_eq_rest (List.take_append_drop ..) hrising hlast] at hstep
  exact hstep

/-- The statement of the `k`-th batch of so many of the identifiers, from zero, fails with
an error when those of the batches before it are gone. -/
def FailsAt (n : Nat) (ids : List Int) (l : Ledger) (k : Nat) (e : Error) : Prop :=
  (l.without (ids.take (k * n))).delete ((ids.drop (k * n)).take n) = .error e

theorem FailsAt.lt_length {n : Nat} {ids : List Int} {l : Ledger} {k : Nat} {e : Error}
    (h : FailsAt n ids l k e) : k * n < ids.length := by
  by_contra hle
  rw [FailsAt, List.drop_of_length_le (Nat.le_of_not_lt hle), List.take_nil,
    Ledger.delete_nil] at h
  cases h

theorem length_rows_append (ids more : List Int) (l : Ledger) :
    (l.rows.filter fun r => ids.contains r.id).length +
        ((l.without ids).rows.filter fun r => more.contains r.id).length =
      (l.rows.filter fun r => (ids ++ more).contains r.id).length := by
  have hids := length_without ids l
  have hmore := length_without more (l.without ids)
  have hboth := length_without (ids ++ more) l
  rw [Ledger.without_append] at hmore
  omega

theorem deleteRemaining_after (size : Nat) {ids : List Int} (hrising : ids.Pairwise (· < ·))
    (l : Ledger) (k : Nat) :
    let n := batchLength size ids.length
    (∀ j < k, j * n < ids.length ∧ ∀ e, ¬ FailsAt n ids l j e) →
    deleteRemaining (max size 1) ids .none l =
      deleteRemaining (max size 1) (ids.drop (k * n))
        ⟨(l.rows.filter fun r => (ids.take (k * n)).contains r.id).length, k⟩
        (l.without (ids.take (k * n))) := by
  intro n hall
  induction k with
  | zero => simp [BatchOutcome.none]
  | succ k ih =>
      obtain ⟨hmore, hfine⟩ := hall k (Nat.lt_succ_self k)
      have hbefore := ih fun j hj => hall j (Nat.lt_succ_of_lt hj)
      have hne : ids.drop (k * n) ≠ [] := by
        rw [Ne, List.drop_eq_nil_iff]
        omega
      have htake : ids.take ((k + 1) * n) = ids.take (k * n) ++ (ids.drop (k * n)).take n := by
        rw [Nat.succ_mul, List.take_add]
      have hdrop : ids.drop ((k + 1) * n) = (ids.drop (k * n)).drop n := by
        rw [Nat.succ_mul, List.drop_drop]
      rw [hbefore, deleteRemaining_step size ids.length hrising.drop hne
        (by rw [List.length_drop]; omega)]
      rcases Ledger.delete_cases ((ids.drop (k * n)).take n) (l.without (ids.take (k * n)))
        with hdel | hdel
      · exact absurd hdel (hfine _)
      · rw [hdel, hdrop, htake]
        simp only []
        rw [Ledger.without_append, BatchOutcome.add, length_rows_append]

/-- Either no batch fails and all identifiers are gone, or those of the batches before the
first that does. -/
theorem deleteRemaining_cases (size : Nat) {ids : List Int}
    (hrising : ids.Pairwise (· < ·)) (l : Ledger) :
    let n := batchLength size ids.length
    ((∀ k e, ¬ FailsAt n ids l k e) ∧
      deleteRemaining (max size 1) ids .none l =
        (.ok ⟨(l.rows.filter fun r => ids.contains r.id).length, ids.length ⌈/⌉ n⟩,
          l.without ids)) ∨
    ∃ k e, FailsAt n ids l k e ∧ (∀ j < k, ∀ e, ¬ FailsAt n ids l j e) ∧
      deleteRemaining (max size 1) ids .none l =
        (.error e, l.without (ids.take (k * n))) := by
  classical
  intro n
  have hn : 0 < n := batchLength_pos size ids.length
  by_cases hfails : ∃ k e, FailsAt n ids l k e
  · obtain ⟨e, hfail⟩ := Nat.find_spec hfails
    have hfirst : ∀ j < Nat.find hfails, ∀ e, ¬ FailsAt n ids l j e :=
      fun j hj e he => Nat.find_min hfails hj ⟨e, he⟩
    refine Or.inr ⟨Nat.find hfails, e, hfail, hfirst, ?_⟩
    have hlt := hfail.lt_length
    have hbefore := deleteRemaining_after size hrising l (Nat.find hfails)
      fun j hj => ⟨Nat.lt_of_le_of_lt (Nat.mul_le_mul_right n hj.le) hlt, hfirst j hj⟩
    have hne : ids.drop (Nat.find hfails * n) ≠ [] := by
      rw [Ne, List.drop_eq_nil_iff]
      omega
    rw [hbefore, deleteRemaining_step size ids.length hrising.drop hne
      (by rw [List.length_drop]; omega), show Ledger.delete _ _ = _ from hfail]
  · have hnever : ∀ k e, ¬ FailsAt n ids l k e := fun k e he => hfails ⟨k, e, he⟩
    refine Or.inl ⟨hnever, ?_⟩
    have hbelow : ∀ j < ids.length ⌈/⌉ n, j * n < ids.length := fun j hj => by
      rw [Nat.mul_comm]
      exact Nat.lt_of_not_le fun hle => Nat.not_le.2 hj ((ceilDiv_le_iff_le_mul hn).2 hle)
    have hall : ids.length ≤ ids.length ⌈/⌉ n * n := by
      rw [Nat.mul_comm]
      exact (ceilDiv_le_iff_le_mul hn).1 (Nat.le_refl _)
    rw [deleteRemaining_after size hrising l (ids.length ⌈/⌉ n)
        fun j hj => ⟨hbelow j hj, hnever j⟩,
      List.drop_of_length_le hall, List.take_of_length_le hall,
      deleteRemaining_of_none ((getLast?_take_eq_none (by omega)).2 rfl)]

/-! ## Batches as ranges -/

/-- The identifiers above one and up to another. -/
def between (last upper : Int) (ids : List Int) : List Int :=
  ids.filter fun id => last < id && id ≤ upper

theorem mem_above {last id : Int} {ids : List Int} :
    id ∈ above last ids ↔ id ∈ ids ∧ last < id := by
  rw [above, List.mem_filter, decide_eq_true_eq]

theorem mem_between {last upper id : Int} {ids : List Int} :
    id ∈ between last upper ids ↔ id ∈ ids ∧ last < id ∧ id ≤ upper := by
  rw [between, List.mem_filter, Bool.and_eq_true, decide_eq_true_eq, decide_eq_true_eq]

theorem nodup_above {ids : List Int} (hids : ids.Nodup) (last : Int) :
    (above last ids).Nodup :=
  hids.filter _

theorem above_above {last upper : Int} (h : last < upper) (ids : List Int) :
    above upper (above last ids) = above upper ids := by
  unfold above
  rw [List.filter_filter]
  refine List.filter_congr fun id _ => ?_
  rw [Bool.eq_iff_iff, Bool.and_eq_true, decide_eq_true_eq, decide_eq_true_eq]
  omega

theorem above_mergeSort {ids : List Int} (hids : ids.Nodup) (upper : Int) :
    above upper ids.mergeSort = (above upper ids).mergeSort := by
  refine ((rising_mergeSort hids).filter _).eq_of_mem_iff
    (rising_mergeSort (nodup_above hids upper)) fun id => ?_
  rw [List.mem_mergeSort]
  exact mem_above.trans ((and_congr_left' List.mem_mergeSort).trans mem_above.symm)

theorem mem_above_of_max? {size : Nat} {ids : List Int} {last upper : Int}
    (h : (Page.take size (above last ids).mergeSort).max? = some upper) :
    upper ∈ above last ids :=
  List.mem_mergeSort.1 ((Page.take_prefix ..).subset (List.max?_eq_some_iff.1 h).1)

theorem length_above_max_lt {size : Nat} {ids : List Int} {last upper : Int}
    (h : (Page.take size (above last ids).mergeSort).max? = some upper) :
    (above upper ids).length < (above last ids).length := by
  have hmem := mem_above_of_max? h
  rw [← above_above (mem_above.1 hmem).2]
  exact List.length_filter_lt_length_iff_exists.2 ⟨upper, hmem, by simp⟩

/-- Deletes the identifiers above the last one, so many at a time: a batch goes up to the
highest of the next so many in order, and deletes what lies between. -/
def deleteRanges (size : Nat) (ids : List Int) (last : Int) (done : BatchOutcome)
    (l : Ledger) : Except Error BatchOutcome × Ledger :=
  match _h : (Page.take size (above last ids).mergeSort).max? with
  | none => (.ok done, l)
  | some upper =>
    match l.delete (between last upper ids) with
    | .error e => (.error e, l)
    | .ok (n, l') => deleteRanges size ids upper (done.add n) l'
termination_by (above last ids).length
decreasing_by exact length_above_max_lt ‹_›

theorem max?_eq_getLast? {ids : List Int} (h : ids.Pairwise (· < ·)) :
    ids.max? = ids.getLast? := by
  cases hlast : ids.getLast? with
  | none =>
      rw [List.getLast?_eq_none_iff.1 hlast]
      rfl
  | some upper =>
      obtain ⟨init, rfl⟩ := List.getLast?_eq_some_iff.1 hlast
      refine List.max?_eq_some_iff.2 ⟨by simp, fun id hid => ?_⟩
      rcases List.mem_append.1 hid with hid | hid
      · have := (List.pairwise_append.1 h).2.2 id hid upper (by simp)
        omega
      · rw [List.mem_singleton.1 hid]

theorem mem_between_iff {size : Nat} {ids : List Int} (hids : ids.Nodup) {last upper : Int}
    (h : (Page.take size (above last ids).mergeSort).max? = some upper) (id : Int) :
    id ∈ between last upper ids ↔ id ∈ Page.take size (above last ids).mergeSort := by
  obtain ⟨hupper, hmax⟩ := List.max?_eq_some_iff.1 h
  have hfront := Page.take_prefix size (above last ids).mergeSort
  rw [mem_between]
  constructor
  · rintro ⟨hin, hlt, hle⟩
    rcases Int.lt_or_eq_of_le hle with hbelow | rfl
    · exact mem_of_prefix_of_lt hfront (rising_mergeSort (nodup_above hids last)) hupper
        (List.mem_mergeSort.2 (mem_above.2 ⟨hin, hlt⟩)) hbelow
    · exact hupper
  · intro hid
    obtain ⟨hin, hlt⟩ := mem_above.1 (List.mem_mergeSort.1 (hfront.subset hid))
    exact ⟨hin, hlt, hmax id hid⟩

theorem deleteRanges_eq (size : Nat) {ids : List Int} (hids : ids.Nodup) (last : Int)
    (done : BatchOutcome) (l : Ledger) :
    deleteRanges size ids last done l =
      deleteRemaining size (above last ids).mergeSort done l := by
  have hrising : ∀ last, (above last ids).mergeSort.Pairwise (· < ·) := fun last =>
    rising_mergeSort (nodup_above hids last)
  have hmax : ∀ last, (Page.take size (above last ids).mergeSort).max? =
      (Page.take size (above last ids).mergeSort).getLast? := fun last =>
    max?_eq_getLast? ((hrising last).sublist (Page.take_prefix ..).sublist)
  fun_induction deleteRanges size ids last done l with
  | case1 last done l hnone =>
      rw [deleteRemaining_of_none ((hmax last).symm.trans hnone)]
  | case2 last done l upper hupper e hdel =>
      rw [deleteRemaining_of_last ((hmax last).symm.trans hupper),
        ← Ledger.delete_congr (mem_between_iff hids hupper), hdel]
  | case3 last done l upper hupper n l' hdel ih =>
      have hlt : last < upper := (mem_above.1 (mem_above_of_max? hupper)).2
      rw [deleteRemaining_of_last ((hmax last).symm.trans hupper),
        ← Ledger.delete_congr (mem_between_iff hids hupper), hdel]
      simp only []
      rw [above_mergeSort (nodup_above hids last), above_above hlt, ih]

/-- A batch is the same whether its identifiers are named or the borders between which
they lie. -/
theorem deleteInBatches_eq_deleteRanges (size : Nat) (ids : List Int) (l : Ledger) :
    deleteInBatches size ids l =
      deleteRanges (max size 1) ids.eraseDups Word.minSigned .none l := by
  have hids := nodup_eraseDups ids
  have hsame : candidateIds ids = (above Word.minSigned ids.eraseDups).mergeSort := by
    refine candidateIds_eq (rising_mergeSort (nodup_above hids _)) fun id => ?_
    rw [List.mem_mergeSort, mem_above, List.mem_eraseDups]
  rw [deleteInBatches, deleteRanges_eq _ hids, hsame]

/-! ## How a deletion in batches ends -/

/-- Deleting a set of identifiers in batches comes to an end. If no batch fails, the rows
that have one of the identifiers are gone and counted, in as many batches as the
identifiers fill, the last of them perhaps in part. If one fails, the rows are gone whose
identifiers are among the smallest, as many of these as the batches before it take, and
the answer is its error. -/
theorem deleteInBatches_walks (size : Nat) {ids : List Int}
    (hlow : ∀ id ∈ ids, Word.minSigned < id) (l : Ledger) :
    let rising := ids.toFinset.sort
    let n := batchLength size rising.length
    deleteInBatches size ids l =
        deleteRanges (max size 1) ids.eraseDups Word.minSigned .none l ∧
    ((∀ k e, ¬ FailsAt n rising l k e) ∧
        deleteInBatches size ids l =
          (.ok ⟨(l.rows.filter fun r => ids.contains r.id).length, rising.length ⌈/⌉ n⟩,
            l.without ids) ∨
      ∃ k e, FailsAt n rising l k e ∧ (∀ j < k, ∀ e, ¬ FailsAt n rising l j e) ∧
        deleteInBatches size ids l = (.error e, l.without (rising.take (k * n)))) := by
  intro rising n
  refine ⟨deleteInBatches_eq_deleteRanges size ids l, ?_⟩
  have hrising : rising.Pairwise (· < ·) := ids.toFinset.sortedLT_sort.pairwise
  have hmem : ∀ id, id ∈ rising ↔ id ∈ ids := fun id => by
    rw [Finset.mem_sort, List.mem_toFinset]
  have hcandidates : candidateIds ids = rising :=
    candidateIds_eq hrising fun id =>
      (hmem id).trans (and_iff_left_of_imp (hlow id)).symm
  rw [deleteInBatches, hcandidates, Ledger.without,
    ← Ledger.contains_congr hmem]
  exact deleteRemaining_cases size hrising l

/-- Events with gaps between their identifiers, some of them guarded. -/
def sparse (guarded : List String) : Ledger :=
  ⟨[row 2 "b", row 3 "c", row 5 "e", row 8 "h"], 8, guarded⟩
where
  row (id : Int) (guid : String) : EventRow :=
    ⟨id, guid, 0, "STARTED", "web", none, none, none, none, "{}"⟩

/-- Two at a time, with gaps among the identifiers too: they make three batches, of which
the second fails if it meets a guard. -/
theorem deleteInBatches_walks_sparse :
    (∀ id ∈ [9, 5, 3, 2, 7], Word.minSigned < id) ∧
      deleteInBatches 2 [9, 5, 3, 2, 7] (sparse []) =
        (.ok ⟨3, 3⟩, (sparse []).without [2, 3, 5]) ∧
      deleteInBatches 2 [9, 5, 3, 2, 7] (sparse ["e"]) =
        (.error (.database .guarded), (sparse ["e"]).without [2, 3]) := by
  have hlow : ∀ id ∈ [9, 5, 3, 2, 7], Word.minSigned < id := by decide
  have hsort : ([9, 5, 3, 2, 7] : List Int).toFinset.sort = [2, 3, 5, 7, 9] := by
    refine (Finset.sortedLT_sort _).pairwise.eq_of_mem_iff (by decide) fun id => ?_
    rw [Finset.mem_sort, List.mem_toFinset]
    simp only [List.mem_cons, List.not_mem_nil, or_false]
    omega
  refine ⟨hlow, ?_, ?_⟩
  · obtain ⟨-, ⟨-, hall⟩ | ⟨k, e, hfail, -⟩⟩ := deleteInBatches_walks 2 hlow (sparse [])
    · rw [hsort] at hall
      exact hall
    · rw [FailsAt, Ledger.delete_of_unguarded fun _ _ => List.not_mem_nil] at hfail
      cases hfail
  · obtain ⟨-, ⟨hnever, -⟩ | ⟨k, e, hfail, hfirst, hleft⟩⟩ :=
      deleteInBatches_walks 2 hlow (sparse ["e"])
    · rw [hsort] at hnever
      exact absurd rfl (hnever 1 (.database .guarded))
    · rw [hsort] at hfail hfirst hleft
      match k with
      | 0 => cases hfail
      | 1 =>
        cases hfail
        exact hleft
      | k + 2 => exact absurd rfl (hfirst 1 (by omega) (.database .guarded))

end Retention

end Metering
