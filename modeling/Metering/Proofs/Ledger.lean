import Metering.Ledger

/-!
# Well-formed ledgers

A ledger grows at its end only and shrinks anywhere. What both leave intact is
gathered in `WellFormed`: the identifiers rise from row to row, all of them
have been given out, and no guid is there twice. Appending is the one
operation that could break it, and does not, because the identifier it gives
out is new and a guid that is taken is refused.

Deleting is reduced to `without`, which forgets the rows of some identifiers
and nothing else, so that a run of deletions is one deletion of all its
identifiers.
-/

namespace Metering

theorem eq_or_before {α : Type} {R : α → α → Prop} {l : List α}
    (h : l.Pairwise R) {a b : α} (ha : a ∈ l) (hb : b ∈ l) :
    a = b ∨ R a b ∨ R b a :=
  List.Pairwise.forall_of_forall_of_flip (R := fun x y => x = y ∨ R x y ∨ R y x)
    (fun _ _ => Or.inl rfl)
    (h.imp fun hxy => Or.inr (Or.inl hxy))
    (h.imp fun hxy => Or.inr (Or.inr hxy)) ha hb

namespace Ledger

/-- What every ledger has that grew from the empty one. -/
structure WellFormed (l : Ledger) : Prop where
  started : 0 ≤ l.issued
  positive : ∀ r ∈ l.rows, 0 < r.id
  issued : ∀ r ∈ l.rows, r.id ≤ l.issued
  rising : l.rows.Pairwise (·.id < ·.id)
  guids : l.rows.Pairwise (·.guid ≠ ·.guid)

theorem wellFormed_empty : empty.WellFormed := by
  constructor <;> simp [empty]

theorem WellFormed.eq_of_guid {l : Ledger} (hl : l.WellFormed) {r s : EventRow}
    (hr : r ∈ l.rows) (hs : s ∈ l.rows) (h : r.guid = s.guid) : r = s := by
  rcases eq_or_before hl.guids hr hs with heq | hne | hne
  · exact heq
  · exact absurd h hne
  · exact absurd h.symm hne

theorem WellFormed.eq_of_id {l : Ledger} (hl : l.WellFormed) {r s : EventRow}
    (hr : r ∈ l.rows) (hs : s ∈ l.rows) (h : r.id = s.id) : r = s := by
  rcases eq_or_before hl.rising hr hs with heq | hlt | hlt
  · exact heq
  · omega
  · omega

theorem WellFormed.withGuards {l : Ledger} (hl : l.WellFormed) (guards : List String) :
    WellFormed { l with guarded := guards } :=
  ⟨hl.started, hl.positive, hl.issued, hl.rising, hl.guids⟩

theorem WellFormed.row?_guid {l : Ledger} (hl : l.WellFormed) {r : EventRow}
    (hr : r ∈ l.rows) : l.row? r.guid = some r := by
  cases hf : l.row? r.guid with
  | none =>
      have := List.find?_eq_none.1 hf r hr
      simp at this
  | some s =>
      have hs : s ∈ l.rows := List.mem_of_find?_eq_some hf
      have hg : s.guid = r.guid := by simpa using List.find?_some hf
      rw [hl.eq_of_guid hs hr hg]

/-! ## Appending -/

/-- Appending either refuses a guid that is taken and changes nothing, or puts
the row of the event at the end and answers with what the row reads as. -/
theorem append_cases (k : Kind) (now : Int) (fresh : String) (e : NewEvent)
    (l : Ledger) :
    (l.contains (e.guid.getD fresh) = true ∧
      l.append k now fresh e =
        (.error (.database (.unique [k.eventTable ++ ".guid"])), l)) ∨
    (l.contains (e.guid.getD fresh) = false ∧
      l.append k now fresh e =
        ((e.toRow k now fresh (l.issued + 1)).decode,
          { l with
            rows := l.rows ++ [e.toRow k now fresh (l.issued + 1)]
            issued := l.issued + 1 })) := by
  unfold append insert
  have hg : (e.toRow k now fresh (l.issued + 1)).guid = e.guid.getD fresh := rfl
  simp only [hg]
  cases hc : l.contains (e.guid.getD fresh) with
  | true => exact Or.inl ⟨rfl, rfl⟩
  | false => exact Or.inr ⟨rfl, rfl⟩

theorem WellFormed.snoc {l : Ledger} (hl : l.WellFormed) {r : EventRow}
    (hid : r.id = l.issued + 1) (hfree : ∀ x ∈ l.rows, x.guid ≠ r.guid) :
    WellFormed { l with rows := l.rows ++ [r], issued := l.issued + 1 } := by
  have hstart := hl.started
  constructor
  · show 0 ≤ l.issued + 1
    omega
  · intro x hx
    rcases List.mem_append.1 hx with hx | hx
    · exact hl.positive x hx
    · rw [List.mem_singleton.1 hx]
      omega
  · intro x hx
    show x.id ≤ l.issued + 1
    rcases List.mem_append.1 hx with hx | hx
    · have := hl.issued x hx
      omega
    · rw [List.mem_singleton.1 hx]
      omega
  · refine List.pairwise_append.2 ⟨hl.rising, List.pairwise_singleton _ _, ?_⟩
    intro x hx y hy
    rw [List.mem_singleton.1 hy]
    have := hl.issued x hx
    omega
  · refine List.pairwise_append.2 ⟨hl.guids, List.pairwise_singleton _ _, ?_⟩
    intro x hx y hy
    rw [List.mem_singleton.1 hy]
    exact hfree x hx

theorem WellFormed.append {l : Ledger} (hl : l.WellFormed) (k : Kind)
    (now : Int) (fresh : String) (e : NewEvent) :
    (l.append k now fresh e).2.WellFormed := by
  rcases append_cases k now fresh e l with ⟨-, heq⟩ | ⟨hnew, heq⟩
  · rw [heq]
    exact hl
  · rw [heq]
    have hfree : ∀ r ∈ l.rows, r.guid ≠ e.guid.getD fresh := by
      simpa [contains] using hnew
    exact hl.snoc rfl hfree

/-! ## Deleting -/

/-- The ledger without the rows of some identifiers. -/
def without (ids : List Int) (l : Ledger) : Ledger :=
  { l with rows := l.rows.filter fun r => ! ids.contains r.id }

@[simp] theorem without_issued (ids : List Int) (l : Ledger) :
    (l.without ids).issued = l.issued := rfl

@[simp] theorem without_guarded (ids : List Int) (l : Ledger) :
    (l.without ids).guarded = l.guarded := rfl

theorem mem_without {ids : List Int} {l : Ledger} {r : EventRow} :
    r ∈ (l.without ids).rows ↔ r ∈ l.rows ∧ r.id ∉ ids := by
  simp [without]

@[simp] theorem without_nil (l : Ledger) : l.without [] = l := by
  unfold without
  rw [List.filter_eq_self.2 (by simp)]

theorem without_append (ids more : List Int) (l : Ledger) :
    (l.without ids).without more = l.without (ids ++ more) := by
  simp only [without, List.filter_filter]
  congr 2
  funext r
  simp [Bool.and_comm]

theorem WellFormed.without {l : Ledger} (hl : l.WellFormed) (ids : List Int) :
    (l.without ids).WellFormed where
  started := hl.started
  positive r hr := hl.positive r (mem_without.1 hr).1
  issued r hr := hl.issued r (mem_without.1 hr).1
  rising := hl.rising.filter _
  guids := hl.guids.filter _

theorem WellFormed.contains_id_filter {l : Ledger} (hl : l.WellFormed)
    (q : EventRow → Bool) {r : EventRow} (hr : r ∈ l.rows) :
    ((l.rows.filter q).map (·.id)).contains r.id = q r := by
  rw [Bool.eq_iff_iff, List.contains_iff_mem, List.mem_map]
  constructor
  · rintro ⟨s, hs, hid⟩
    obtain ⟨hs, hq⟩ := List.mem_filter.1 hs
    rwa [← hl.eq_of_id hs hr hid]
  · intro hq
    exact ⟨r, List.mem_filter.2 ⟨hr, hq⟩, rfl⟩

theorem contains_congr {ids more : List Int} (h : ∀ id, id ∈ ids ↔ id ∈ more) :
    ids.contains = more.contains := by
  funext id
  rw [Bool.eq_iff_iff, List.contains_iff_mem, List.contains_iff_mem]
  exact h id

theorem delete_congr {ids more : List Int} (h : ∀ id, id ∈ ids ↔ id ∈ more) (l : Ledger) :
    l.delete ids = l.delete more := by
  unfold delete
  rw [contains_congr h]

theorem delete_nil (l : Ledger) : l.delete [] = .ok (0, l) := by
  have hall : l.rows.filter (fun _ => true) = l.rows := List.filter_eq_self.2 (by simp)
  simp [delete, hall]

/-- One statement deletes all its identifiers, or a guard stops it and it
deletes none. -/
theorem delete_cases (ids : List Int) (l : Ledger) :
    l.delete ids = .error (.database .guarded) ∨
      l.delete ids =
        .ok ((l.rows.filter fun r => ids.contains r.id).length, l.without ids) := by
  unfold delete
  simp only []
  split
  · exact Or.inl rfl
  · exact Or.inr rfl

theorem delete_eq_ok {ids : List Int} {l l' : Ledger} {n : Nat}
    (h : l.delete ids = .ok (n, l')) :
    n = (l.rows.filter fun r => ids.contains r.id).length ∧ l' = l.without ids := by
  rcases delete_cases ids l with hd | hd
  · rw [hd] at h
    cases h
  · rw [hd] at h
    obtain ⟨rfl, rfl⟩ := Prod.mk.inj (Except.ok.inj h)
    exact ⟨rfl, rfl⟩

theorem delete_of_guarded {l : Ledger} {r : EventRow} (hr : r ∈ l.rows) {ids : List Int}
    (hid : r.id ∈ ids) (hguard : r.guid ∈ l.guarded) :
    l.delete ids = .error (.database .guarded) := by
  have hstop : (l.rows.filter fun r => ids.contains r.id).any
      (fun r => l.guarded.contains r.guid) = true :=
    List.any_eq_true.2 ⟨r, List.mem_filter.2 ⟨hr, List.contains_iff_mem.2 hid⟩,
      List.contains_iff_mem.2 hguard⟩
  unfold delete
  rw [if_pos hstop]

theorem delete_of_unguarded {l : Ledger} (h : ∀ r ∈ l.rows, r.guid ∉ l.guarded)
    (ids : List Int) :
    l.delete ids =
      .ok ((l.rows.filter fun r => ids.contains r.id).length, l.without ids) := by
  have hfree : ¬ (l.rows.filter fun r => ids.contains r.id).any
      (fun r => l.guarded.contains r.guid) = true := by
    rw [List.any_eq_true]
    rintro ⟨r, hr, hguard⟩
    exact h r (List.mem_filter.1 hr).1 (List.contains_iff_mem.1 hguard)
  unfold delete
  rw [if_neg hfree]
  rfl

end Ledger

end Metering
