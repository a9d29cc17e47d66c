import Metering.Proofs.Ledger
import Metering.Retention.Batch
import Mathlib.Data.List.Sort

/-!
# Deletion in batches is deletion of a prefix

Batches take the identifiers from the front of a rising list, so whatever they
have deleted when they end is a prefix of that list, and all of it when no
batch fails. That is all a caller needs: which batch failed and where the
batch borders lie only decide how long the prefix is. `deleteRemaining_prefix`
says this by induction on the loop; the counts of the outcome come with it.
-/

namespace Metering

namespace Retention

theorem above_eq_rest {front rest ids : List Int} {upper : Int}
    (hsplit : front ++ rest = ids) (h : ids.Pairwise (· < ·))
    (hlast : front.getLast? = some upper) : above upper ids = rest := by
  subst hsplit
  obtain ⟨init, rfl⟩ := List.getLast?_eq_some_iff.1 hlast
  obtain ⟨hfront, -, hcross⟩ := List.pairwise_append.1 h
  have hlow : ∀ x ∈ init ++ [upper], ¬ upper < x := by
    intro x hx
    rcases List.mem_append.1 hx with hx | hx
    · have := (List.pairwise_append.1 hfront).2.2 x hx upper (by simp)
      omega
    · rw [List.mem_singleton.1 hx]
      omega
  have hhigh : ∀ x ∈ rest, upper < x := fun x hx =>
    hcross upper (by simp) x hx
  unfold above
  rw [List.filter_append, List.filter_eq_nil_iff.2 (by simpa using hlow),
    List.filter_eq_self.2 (by simpa using hhigh), List.nil_append]

theorem mem_of_prefix_of_lt {front ids : List Int} (h : front <+: ids)
    (hrising : ids.Pairwise (· < ·)) {x y : Int} (hx : x ∈ front) (hy : y ∈ ids)
    (hlt : y < x) : y ∈ front := by
  obtain ⟨rest, rfl⟩ := h
  rcases List.mem_append.1 hy with hy | hy
  · exact hy
  · have := (List.pairwise_append.1 hrising).2.2 x hx y hy
    omega

theorem length_without (ids : List Int) (l : Ledger) :
    (l.rows.filter fun r => ids.contains r.id).length +
      (l.without ids).rows.length = l.rows.length := by
  rw [Ledger.without, List.length_eq_countP_add_countP
      (fun r : EventRow => ids.contains r.id) (l := l.rows),
    List.countP_eq_length_filter, List.countP_eq_length_filter]
  simp

/-- The number of batches that so many identifiers make. A size past the signed
range takes all of them at once. -/
def batchCount (size n : Nat) : Nat :=
  if size < Page.signedBound then (n + size - 1) / size else min n 1

@[simp] theorem batchCount_zero {size : Nat} (hsize : 0 < size) :
    batchCount size 0 = 0 := by
  unfold batchCount
  split
  · rw [Nat.zero_add]
    exact Nat.div_eq_of_lt (by omega)
  · rfl

/-- A size past the signed range makes no difference as long as the identifiers
are no more than that range holds. -/
theorem batchCount_eq_div {size n : Nat} (hsize : 0 < size)
    (hn : n ≤ Page.signedBound) : batchCount size n = (n + size - 1) / size := by
  unfold batchCount
  split
  · rfl
  · next hge =>
      rcases Nat.eq_zero_or_pos n with hzero | hpos
      · rw [hzero, Nat.div_eq_of_lt (by omega)]
        rfl
      · rw [Nat.div_eq_of_lt_le (k := 1) (by omega) (by omega)]
        omega

theorem length_le_of_rising {ids : List Int} (low : Int) {high : Int}
    (h : ids.Pairwise (· < ·)) (hlow : ∀ x ∈ ids, low < x)
    (hhigh : ∀ x ∈ ids, x < high) : ids.length ≤ (high - low).toNat := by
  induction ids generalizing low with
  | nil => exact Nat.zero_le _
  | cons x rest ih =>
      obtain ⟨hx, hrest⟩ := List.pairwise_cons.1 h
      have hlen := ih x hrest hx fun y hy => hhigh y (List.mem_cons_of_mem _ hy)
      have := hlow x (by simp)
      have := hhigh x (by simp)
      rw [List.length_cons]
      omega

theorem batchCount_append {size : Nat} {remaining rest : List Int}
    (hsize : 0 < size) (hne : remaining ≠ [])
    (hsplit : Page.take size remaining ++ rest = remaining) :
    batchCount size remaining.length = batchCount size rest.length + 1 := by
  have hpos : 0 < remaining.length := List.length_pos_iff.2 hne
  have hlen := congrArg List.length hsplit
  rw [List.length_append] at hlen
  unfold batchCount Page.take at *
  split at hlen
  · next hlt =>
      rw [if_pos hlt, if_pos hlt]
      rw [List.length_take] at hlen
      rcases Nat.le_total remaining.length size with hle | hle
      · have hrest : rest.length = 0 := by omega
        rw [hrest, Nat.div_eq_of_lt (a := 0 + size - 1) (by omega),
          Nat.div_eq_of_lt_le (k := 1) (by omega) (by omega)]
      · rw [show remaining.length + size - 1 = rest.length + size - 1 + size by omega,
          Nat.add_div_right _ hsize]
  · next hge =>
      rw [if_neg hge, if_neg hge]
      omega

theorem getLast?_take_eq_none {size : Nat} (hsize : 0 < size) {remaining : List Int} :
    (Page.take size remaining).getLast? = none ↔ remaining = [] := by
  rw [List.getLast?_eq_none_iff]
  unfold Page.take
  split
  · rw [List.take_eq_nil_iff]
    exact or_iff_right (by omega)
  · rfl

theorem deleteRemaining_of_none {size : Nat} {remaining : List Int}
    (hnone : (Page.take size remaining).getLast? = none) (done : BatchOutcome)
    (l : Ledger) : deleteRemaining size remaining done l = (.ok done, l) := by
  rw [deleteRemaining]
  split
  · rfl
  · next hlast =>
      rw [hnone] at hlast
      cases hlast

theorem deleteRemaining_of_last {size : Nat} {remaining : List Int} {upper : Int}
    (hlast : (Page.take size remaining).getLast? = some upper) (done : BatchOutcome)
    (l : Ledger) :
    deleteRemaining size remaining done l =
      match l.delete (Page.take size remaining) with
      | .error e => (.error e, l)
      | .ok (n, l') => deleteRemaining size (above upper remaining) (done.add n) l' := by
  rw [deleteRemaining]
  split
  · next hnone =>
      rw [hnone] at hlast
      cases hlast
  · next other hother =>
      obtain rfl := Option.some.inj (hlast.symm.trans hother)
      rfl

/-- However the batches end, they have deleted a prefix of the identifiers. If
none failed they have deleted all of them, every row is counted as deleted or
still there, and the batches are as many as the identifiers make. -/
theorem deleteRemaining_prefix {size : Nat} (hsize : 0 < size)
    {remaining : List Int} (hrising : remaining.Pairwise (· < ·))
    (done : BatchOutcome) (l : Ledger) :
    ∃ gone, gone <+: remaining ∧
      (deleteRemaining size remaining done l).2 = l.without gone ∧
      ∀ o, (deleteRemaining size remaining done l).1 = .ok o →
        gone = remaining ∧
        o.deleted + (l.without gone).rows.length = done.deleted + l.rows.length ∧
        o.batches = done.batches + batchCount size remaining.length := by
  fun_induction deleteRemaining size remaining done l with
  | case1 remaining done l hnone =>
      obtain rfl := (getLast?_take_eq_none hsize).1 hnone
      refine ⟨[], List.nil_prefix, by simp, ?_⟩
      intro o ho
      obtain rfl := Except.ok.inj ho
      exact ⟨rfl, by simp, by simp [batchCount_zero hsize]⟩
  | case2 remaining done l upper hlast e hdel =>
      exact ⟨[], List.nil_prefix, by simp, by simp⟩
  | case3 remaining done l upper hlast n l' hdel ih =>
      obtain ⟨rest, hsplit⟩ := Page.take_prefix size remaining
      have hne : remaining ≠ [] := by
        intro hnil
        rw [(getLast?_take_eq_none hsize).2 hnil] at hlast
        cases hlast
      have hcount := batchCount_append hsize hne hsplit
      rw [above_eq_rest hsplit hrising hlast] at ih ⊢
      rw [← hsplit] at hrising
      obtain ⟨gone, ⟨more, hmore⟩, hleft, hok⟩ :=
        ih (List.pairwise_append.1 hrising).2.1
      obtain ⟨rfl, rfl⟩ := Ledger.delete_eq_ok hdel
      refine ⟨Page.take size remaining ++ gone, ?_, ?_, ?_⟩
      · refine ⟨more, ?_⟩
        rw [List.append_assoc, hmore, hsplit]
      · rw [hleft, Ledger.without_append]
      · intro o ho
        obtain ⟨hall, hrows, hbatches⟩ := hok o ho
        have hbatch := length_without (Page.take size remaining) l
        rw [← Ledger.without_append]
        simp only [BatchOutcome.add] at hrows hbatches
        exact ⟨by rw [hall, hsplit], by omega, by omega⟩

/-- A guard on an event that remains to be deleted makes a batch fail, and the
event stays. -/
theorem deleteRemaining_of_guarded {size : Nat} (hsize : 0 < size)
    {remaining : List Int} (hrising : remaining.Pairwise (· < ·)) (done : BatchOutcome)
    {l : Ledger} {r : EventRow} (hr : r ∈ l.rows) (hid : r.id ∈ remaining)
    (hguard : r.guid ∈ l.guarded) :
    ∃ l', deleteRemaining size remaining done l = (.error (.database .guarded), l') ∧
      r ∈ l'.rows := by
  fun_induction deleteRemaining size remaining done l with
  | case1 remaining done l hnone =>
      rw [(getLast?_take_eq_none hsize).1 hnone] at hid
      cases hid
  | case2 remaining done l upper hlast e hdel =>
      rcases Ledger.delete_cases (Page.take size remaining) l with hd | hd
      · rw [hd] at hdel
        exact ⟨l, by rw [Except.error.inj hdel], hr⟩
      · rw [hd] at hdel
        cases hdel
  | case3 remaining done l upper hlast n l' hdel ih =>
      have hspared : r.id ∉ Page.take size remaining := fun hin => by
        rw [Ledger.delete_of_guarded hr hin hguard] at hdel
        cases hdel
      have hrest : r.id ∈ above upper remaining := by
        obtain ⟨rest, hsplit⟩ := Page.take_prefix size remaining
        rw [above_eq_rest hsplit hrising hlast]
        rw [← hsplit] at hid
        exact (List.mem_append.1 hid).resolve_left hspared
      obtain ⟨rfl, rfl⟩ := Ledger.delete_eq_ok hdel
      exact ih (hrising.filter _) (Ledger.mem_without.2 ⟨hr, hspared⟩) hrest hguard

theorem deleteRemaining_of_unguarded (size : Nat) (remaining : List Int)
    (done : BatchOutcome) (l : Ledger)
    (h : ∀ r ∈ l.rows, r.guid ∉ l.guarded) :
    ∃ o, (deleteRemaining size remaining done l).1 = .ok o := by
  fun_induction deleteRemaining size remaining done l with
  | case1 remaining done l hnone => exact ⟨done, rfl⟩
  | case2 remaining done l upper hlast e hdel =>
      rw [Ledger.delete_of_unguarded h] at hdel
      cases hdel
  | case3 remaining done l upper hlast n l' hdel ih =>
      obtain ⟨-, rfl⟩ := Ledger.delete_eq_ok hdel
      exact ih fun r hr => h r (Ledger.mem_without.1 hr).1

/-! ## The candidates of a run -/

theorem nodup_eraseDups (ids : List Int) : ids.eraseDups.Nodup := by
  cases ids with
  | nil => exact List.nodup_nil
  | cons id rest =>
      rw [List.eraseDups_cons]
      refine List.nodup_cons.2 ⟨fun hin => ?_, nodup_eraseDups _⟩
      have hne := (List.mem_filter.1 (List.mem_eraseDups.1 hin)).2
      simp at hne
termination_by ids.length
decreasing_by exact Nat.lt_succ_of_le (List.length_filter_le _ _)

theorem rising_mergeSort {ids : List Int} (h : ids.Nodup) :
    ids.mergeSort.Pairwise (· < ·) := by
  have htrans : ∀ a b c : Int, decide (a ≤ b) = true → decide (b ≤ c) = true →
      decide (a ≤ c) = true := by
    simpa using fun a b c => Int.le_trans
  have htotal : ∀ a b : Int, (decide (a ≤ b) || decide (b ≤ a)) = true := by
    simpa using Int.le_total
  have hsorted := List.pairwise_mergeSort htrans htotal ids
  have hdistinct : ids.mergeSort.Nodup := (List.mergeSort_perm ids _).nodup_iff.2 h
  exact (hsorted.and hdistinct).imp fun ⟨hle, hne⟩ =>
    Int.lt_iff_le_and_ne.2 ⟨of_decide_eq_true hle, hne⟩

theorem candidateIds_rising (ids : List Int) : (candidateIds ids).Pairwise (· < ·) :=
  rising_mergeSort (nodup_eraseDups _)

theorem mem_candidateIds {ids : List Int} {id : Int} :
    id ∈ candidateIds ids ↔ id ∈ ids ∧ Word.minSigned < id := by
  rw [candidateIds, List.mem_mergeSort, List.mem_eraseDups, List.mem_filter,
    decide_eq_true_eq]

theorem candidateIds_eq {ids rising : List Int} (hrising : rising.Pairwise (· < ·))
    (hmem : ∀ id, id ∈ rising ↔ id ∈ ids ∧ Word.minSigned < id) :
    candidateIds ids = rising :=
  (candidateIds_rising ids).eq_of_mem_iff hrising fun id =>
    mem_candidateIds.trans (hmem id).symm

theorem candidateIds_of_rising {ids : List Int} (h : ids.Pairwise (· < ·))
    (hlow : ∀ x ∈ ids, Word.minSigned < x) : candidateIds ids = ids :=
  candidateIds_eq h fun id => (and_iff_left_of_imp (hlow id)).symm

theorem deleteInBatches_of_rising {ids : List Int} (h : ids.Pairwise (· < ·))
    (hlow : ∀ x ∈ ids, Word.minSigned < x) (size : Nat) (l : Ledger) :
    deleteInBatches size ids l = deleteRemaining (max size 1) ids BatchOutcome.none l := by
  unfold deleteInBatches
  rw [candidateIds_of_rising h hlow]

theorem deleteInBatches_prefix (size : Nat) {ids : List Int}
    (h : ids.Pairwise (· < ·)) (hlow : ∀ x ∈ ids, Word.minSigned < x) (l : Ledger) :
    ∃ gone, gone <+: ids ∧
      (deleteInBatches size ids l).2 = l.without gone ∧
      ∀ o, (deleteInBatches size ids l).1 = .ok o →
        gone = ids ∧ o.deleted + (l.without gone).rows.length = l.rows.length ∧
        o.batches = batchCount (max size 1) ids.length := by
  rw [deleteInBatches_of_rising h hlow]
  have hsize : 0 < max size 1 := by omega
  simpa [BatchOutcome.none] using deleteRemaining_prefix hsize h BatchOutcome.none l

theorem deleteInBatches_of_guarded (size : Nat) {ids : List Int}
    (h : ids.Pairwise (· < ·)) (hlow : ∀ x ∈ ids, Word.minSigned < x) {l : Ledger}
    {r : EventRow} (hr : r ∈ l.rows) (hid : r.id ∈ ids) (hguard : r.guid ∈ l.guarded) :
    ∃ l', deleteInBatches size ids l = (.error (.database .guarded), l') ∧ r ∈ l'.rows := by
  rw [deleteInBatches_of_rising h hlow]
  exact deleteRemaining_of_guarded (by omega) h _ hr hid hguard

end Retention

end Metering
