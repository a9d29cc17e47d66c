import Metering.Proofs.Calls

/-!
# Dialogues with a database

A dialogue is all that happens to a database while programs run on it: calls on the
books and on the snapshots of both kinds, and in between the clock is set and the
inventory changes. `Dialogue` is a state of one. It holds the snapshots that were handed
out for each kind, as the values that they were then, so that a call on one of them is a
call with a value that may be stale.

`Sound` is what holds at every point (`sound_after`). It says what such a value is still
good for: whatever has happened, the snapshot under its identifier is the one that the
value was read from, or there is none any more. The clock takes no part, and may be set
to anything.
-/

namespace Metering

open Time (Instant)

/-- A state of a dialogue. -/
structure Dialogue where
  db : Database
  /-- The moment, in milliseconds since 1970. -/
  now : Int
  /-- The snapshots that were handed out, in this order. -/
  held : PerKind (List Snapshot)

namespace Dialogue

/-- One thing that happens. -/
inductive Operation where
  | books (k : Kind) (c : BookCall)
  | snapshots (k : Kind) (c : SnapshotCall)
  | clock (now : Int)
  | inventory (change : Inventory → Inventory)

/-- A dialogue begins, and no one holds anything. -/
def start (db : Database) (now : Int) : Dialogue := ⟨db, now, PerKind.replicate []⟩

/-- The reply to a call on snapshots. -/
def reply (k : Kind) (c : SnapshotCall) (s : Dialogue) : Reply :=
  c.perform k s.now (s.held.get k) s.db

def step (s : Dialogue) : Operation → Dialogue
  | .books k c => { s with db := (c.perform k s.now s.db).2 }
  | .snapshots k c =>
    { s with
      db := (s.reply k c).db
      held := s.held.set k (s.held.get k ++ (s.reply k c).handed) }
  | .clock now => { s with now := now }
  | .inventory change => { s with db := { s.db with inventory := change s.db.inventory } }

/-- The state that some operations lead to. -/
def after (ops : List Operation) (s : Dialogue) : Dialogue := ops.foldl step s

end Dialogue

/-! ## What is held

A value keeps its meaning because of two facts about identifiers: no two rows share one,
and none is given out twice. -/

/-- Whether a row is that of a snapshot that was handed out. -/
def SnapshotRow.Is (v : Snapshot) (r : SnapshotRow) : Prop :=
  r.id = v.id ∧ r.guid = v.guid ∧ r.kind = v.kind ∧ Instant.ofMillis r.createdAt = v.createdAt

theorem SnapshotRow.Is.of_label {v : Snapshot} {old r : SnapshotRow} (h : old.Is v)
    (hlabel : old.label = r.label) : r.Is v := by
  obtain ⟨hid, hrest⟩ := Prod.mk.inj hlabel
  obtain ⟨hguid, hrest⟩ := Prod.mk.inj hrest
  obtain ⟨hkind, hcreated⟩ := Prod.mk.inj hrest
  exact ⟨hid ▸ h.1, hguid ▸ h.2.1, hkind ▸ h.2.2.1, hcreated ▸ h.2.2.2⟩

namespace Dialogue

/-- What holds at every point of a dialogue: the store is kept, and a value that was
handed out tells of the one snapshot that ever had its identifier. -/
structure Sound (s : Dialogue) : Prop where
  kept : s.db.snapshots.IsKept
  held : ∀ k, ∀ v ∈ s.held.get k, v.id ≤ s.db.snapshots.issued ∧
    ∀ r ∈ s.db.snapshots.rows, r.id = v.id → r.Is v

theorem sound_start {db : Database} (hempty : db.snapshots = .empty) (now : Int) :
    (start db now).Sound := by
  refine ⟨?_, fun k v hv => ?_⟩
  · show db.snapshots.IsKept
    rw [hempty]
    exact Snapshots.IsKept.empty
  · rw [show (start db now).held.get k = [] from PerKind.get_replicate _ k] at hv
    cases hv

theorem step_cases (s : Dialogue) (op : Operation) :
    ((s.step op).db.snapshots = s.db.snapshots ∧ (s.step op).held = s.held) ∨
    ∃ k c, op = .snapshots k c ∧ c.Settles k s.now (s.held.get k) s.db (s.reply k c) := by
  cases op with
  | books k c =>
      obtain ⟨answer, b, heq⟩ := c.isLocal_perform k s.now
      exact Or.inl ⟨congrArg (fun outcome => outcome.2.snapshots) (heq s.db), rfl⟩
  | snapshots k c => exact Or.inr ⟨k, c, rfl, c.settles_perform k s.now (s.held.get k) s.db⟩
  | clock | inventory => exact Or.inl ⟨rfl, rfl⟩

theorem held_of_origin {s t : Snapshots} {v : Snapshot} (hle : s.issued ≤ t.issued)
    (horigin : ∀ r ∈ t.rows, (∃ old ∈ s.rows, old.label = r.label) ∨ s.issued < r.id)
    (h : v.id ≤ s.issued ∧ ∀ r ∈ s.rows, r.id = v.id → r.Is v) :
    v.id ≤ t.issued ∧ ∀ r ∈ t.rows, r.id = v.id → r.Is v := by
  refine ⟨Int.le_trans h.1 hle, fun r hr hid => ?_⟩
  rcases horigin r hr with ⟨old, hold, hlabel⟩ | hnew
  · have holdid : old.id = r.id := congrArg Prod.fst hlabel
    exact (h.2 old hold (holdid.trans hid)).of_label hlabel
  · have := h.1
    omega

theorem held_of_row {t : Snapshots} (hkept : t.IsKept) {r : SnapshotRow} (hr : r ∈ t.rows) :
    r.toSnapshot.id ≤ t.issued ∧ ∀ r' ∈ t.rows, r'.id = r.toSnapshot.id → r'.Is r.toSnapshot := by
  refine ⟨hkept.issued r hr, fun r' hr' hid => ?_⟩
  rw [hkept.eq_of_id hr' hr hid]
  exact ⟨rfl, rfl, rfl, rfl⟩

/-- An operation gives out no identifier again, and a snapshot after it was there before
or has a new one. -/
theorem step_origin (s : Dialogue) (op : Operation) :
    s.db.snapshots.issued ≤ (s.step op).db.snapshots.issued ∧
      ∀ r ∈ (s.step op).db.snapshots.rows,
        (∃ old ∈ s.db.snapshots.rows, old.label = r.label) ∨ s.db.snapshots.issued < r.id := by
  rcases step_cases s op with ⟨hsame, -⟩ | ⟨k, c, rfl, hsettles⟩
  · rw [hsame]
    exact ⟨Int.le_refl _, fun r hr => Or.inl ⟨r, hr, rfl⟩⟩
  · obtain ⟨hle, horigin⟩ := hsettles.turn.origin
    exact ⟨hle, fun r hr => (horigin r hr).imp_right And.left⟩

theorem mem_held_step {s : Dialogue} {k j : Kind} {c : SnapshotCall} {v : Snapshot}
    (hv : v ∈ (s.step (.snapshots k c)).held.get j) :
    v ∈ s.held.get j ∨ j = k ∧ v ∈ (s.reply k c).handed := by
  by_cases hj : j = k
  · subst hj
    simp only [step, PerKind.get_set_self] at hv
    exact (List.mem_append.1 hv).imp_right fun hv => ⟨rfl, hv⟩
  · simp only [step, PerKind.get_set_of_ne _ hj] at hv
    exact Or.inl hv

theorem step_sound {s : Dialogue} (h : s.Sound) (op : Operation) : (s.step op).Sound := by
  obtain ⟨hle, horigin⟩ := step_origin s op
  rcases step_cases s op with ⟨hsame, hheld⟩ | ⟨k, c, rfl, hsettles⟩
  · refine ⟨hsame ▸ h.kept, fun k v hv => ?_⟩
    rw [hsame]
    exact h.held k v (hheld ▸ hv)
  · have hkept := hsettles.turn.isKept h.kept
    refine ⟨hkept, fun j v hv => ?_⟩
    rcases mem_held_step hv with hv | ⟨-, hv⟩
    · exact held_of_origin hle horigin (h.held j v hv)
    · obtain ⟨r, hr, rfl, -⟩ := hsettles.handed v hv
      exact held_of_row hkept hr

theorem sound_after {s : Dialogue} (h : s.Sound) (ops : List Operation) :
    (after ops s).Sound := by
  induction ops generalizing s with
  | nil => exact h
  | cons op ops ih => exact ih (step_sound h op)

end Dialogue

end Metering
