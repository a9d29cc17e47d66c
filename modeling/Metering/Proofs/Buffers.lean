import Metering.Proofs.Bundling
import Mathlib.Algebra.GroupWithZero.Nat

/-!
# What is held stays small

However long a list of resources is, between two of them no more is held than
one chunk that is not full and fewer chunks than make a batch. Everything else
has been sent, so whatever was counted has been sent, waits in a finished
chunk, or is in the chunk that is being filled. `IsBounded` says both, and
`IsBounded.fill` that a resource leaves it so, whether or not it opens another
space, makes a chunk full and makes a batch full.

A sink may fail, and a sum may be too large. The push during which that happens is
the last one of a run, so all that is said here is said of what is held after the
pushes before it.
-/

namespace Metering

open OpenChunk (closing seat takeIn)

/-- How many items some chunks have together. -/
def itemsIn (chunks : List PendingChunk) : Nat := (chunks.map (·.itemCount)).sum

theorem itemsIn_append (chunks more : List PendingChunk) :
    itemsIn (chunks ++ more) = itemsIn chunks + itemsIn more := by
  rw [itemsIn, List.map_append, List.sum_append]
  rfl

/-! ## The chunk that is being filled -/

/-- The items that are in no finished chunk yet. -/
def unfinished (current : Option OpenChunk) : List UsageItem := current.elim [] (·.items)

theorem itemsIn_closing (current : Option OpenChunk) :
    itemsIn ((closing current).map SnapshotChunk.pending) = (unfinished current).length := by
  cases current with
  | none => rfl
  | some o =>
      cases hitems : o.items with
      | nil => simp [itemsIn, closing, unfinished, hitems]
      | cons i items =>
          simp [itemsIn, closing, unfinished, hitems, OpenChunk.chunk, OpenChunk.piece,
            SnapshotChunk.pending]

theorem itemsIn_seat (r : ActiveResource) (current : Option OpenChunk) :
    itemsIn ((seat r current).2.map SnapshotChunk.pending) +
      (seat r current).1.items.length = (unfinished current).length := by
  cases current with
  | none => rfl
  | some o =>
      rw [seat]
      split
      · exact Nat.zero_add _
      · exact itemsIn_closing (some o)

/-- A resource adds its item, to the chunk that is being filled or to a finished one. -/
theorem itemsIn_takeIn (n : Nat) (r : ActiveResource) (current : Option OpenChunk) :
    itemsIn ((takeIn n r current).2.map SnapshotChunk.pending) +
      (takeIn n r current).1.items.length = (unfinished current).length + 1 := by
  have hitems := itemsIn_seat r current
  cases hseat : seat r current with
  | mk o left =>
      have htaken : (o.take r).items.length = o.items.length + 1 := List.length_append
      simp only [hseat] at hitems
      simp only [takeIn, hseat]
      split
      · have hlast : itemsIn [(o.take r).chunk.pending] = (o.take r).items.length :=
          Nat.add_zero _
        rw [List.map_append, itemsIn_append]
        show _ + itemsIn [(o.take r).chunk.pending] + 0 = _
        omega
      · show itemsIn (left.map SnapshotChunk.pending) + (o.take r).items.length = _
        omega

theorem length_takeIn_lt {n : Nat} (hn : 0 < n) (r : ActiveResource)
    (current : Option OpenChunk) : (takeIn n r current).1.items.length < n := by
  simp only [takeIn]
  split
  · exact hn
  · next hroom => exact Nat.lt_of_not_le hroom

/-- A chunk that has as many items as it says. -/
def PendingChunk.IsCounted (p : PendingChunk) : Prop :=
  ∃ items, p.items = UsageItem.writeAll items ∧ p.itemCount = items.length

theorem SnapshotChunk.isCounted (c : SnapshotChunk) : c.pending.IsCounted :=
  ⟨c.items, rfl, rfl⟩

namespace Chunking

variable {l : ChunkLimits} {c : Chunking} {sent : List Batch}

/-! ## What a push preserves -/

/-- Neither limit has been reached by what is held, and what is counted has been sent,
waits, or is being filled. -/
structure IsBounded (l : ChunkLimits) (sent : List Batch) (c : Chunking) : Prop where
  filling : (unfinished c.current).length < l.perChunk
  waiting : c.pending.length < l.perBatch
  chunks : sent.flatten.length + c.pending.length = c.chunks
  resources : itemsIn sent.flatten + itemsIn c.pending + (unfinished c.current).length =
    c.resources
  counted : ∀ p ∈ sent.flatten ++ c.pending, p.IsCounted

theorem isBounded_start (l : ChunkLimits) : IsBounded l [] start where
  filling := l.perChunk_pos
  waiting := l.perBatch_pos
  chunks := rfl
  resources := rfl
  counted := by simp [start]

theorem IsBounded.fill (h : IsBounded l sent c) (r : ActiveResource) :
    IsBounded l (sent ++ (c.fill l r).2) (c.fill l r).1 := by
  have hwaiting := (bundles_fill h.waiting r).1
  cases hplaced : r.isPlaced with
  | false =>
      rw [fill_of_not_placed l c hplaced, List.append_nil]
      exact ⟨h.filling, h.waiting, h.chunks, h.resources, h.counted⟩
  | true =>
      obtain ⟨pending, hstate, hout⟩ := fill_of_placed l c hplaced
      have hitems := itemsIn_takeIn l.perChunk r c.current
      have hall := congrArg itemsIn hout
      have hnumber := congrArg List.length hout
      rw [itemsIn_append, itemsIn_append] at hall
      rw [List.length_append, List.length_append, List.length_map] at hnumber
      have hchunks := h.chunks
      have hresources := h.resources
      rw [hstate] at hwaiting ⊢
      refine ⟨length_takeIn_lt l.perChunk_pos r c.current, hwaiting, ?_, ?_, ?_⟩
      · show (sent ++ _).flatten.length + pending.length = c.chunks + _
        rw [List.flatten_append, List.length_append]
        omega
      · show itemsIn (sent ++ _).flatten + itemsIn pending + _ = c.resources + 1
        rw [List.flatten_append, itemsIn_append]
        have hcurrent : unfinished (some (takeIn l.perChunk r c.current).1) =
            (takeIn l.perChunk r c.current).1.items := rfl
        rw [hcurrent]
        omega
      · show ∀ p ∈ (sent ++ _).flatten ++ pending, p.IsCounted
        rw [List.flatten_append, List.append_assoc, hout, ← List.append_assoc]
        intro p hp
        rcases List.mem_append.1 hp with hp | hp
        · exact h.counted p hp
        · obtain ⟨d, -, rfl⟩ := List.mem_map.1 hp
          exact d.isCounted

theorem IsBounded.emitted (h : IsBounded l sent c) (rows : List ActiveResource) :
    IsBounded l (sent ++ (emitted l rows c).2) (emitted l rows c).1 := by
  induction rows generalizing sent c with
  | nil =>
      show IsBounded l (sent ++ []) c
      rwa [List.append_nil]
  | cons r rows ih =>
      have hrest := ih (h.fill r)
      rw [List.append_assoc] at hrest
      exact hrest

/-! ## What a run has done after so many pushes -/

section Sinks

variable {σ : Type} {sink : Sink σ} {s t : σ}

theorem takes_of_deliver {bs : List Batch} (h : deliver sink bs s = (.ok (), t)) :
    Visitor.Takes sink bs s t := by
  rcases Visitor.takes_or_refuses sink bs s with ⟨u, hu⟩ | ⟨e, u, hu⟩
  · rw [deliver_of_takes hu] at h
    obtain rfl := (Prod.mk.inj h).2
    exact hu
  · rw [deliver_of_refuses hu] at h
    cases (Prod.mk.inj h).1

theorem exists_pushAll_take {rows : List ActiveResource} {n k : Nat}
    (h : n + k ≤ (pushAll l sink rows n c s).accepted) :
    ∃ d t, pushAll l sink (rows.take k) n c s = ⟨n + k, .ok d, t⟩ := by
  induction rows generalizing n k c s with
  | nil =>
      obtain rfl : k = 0 := by
        have hnone : (pushAll l sink [] n c s).accepted = n := rfl
        omega
      exact ⟨c, s, rfl⟩
  | cons r rows ih =>
      cases k with
      | zero => exact ⟨c, s, rfl⟩
      | succ k =>
          rw [List.take_succ_cons]
          simp only [pushAll] at h ⊢
          split at h
          · exact absurd h (by simp)
          · next u hfirst =>
              cases hnext : (c.push l r).1 with
              | error e =>
                  rw [hnext] at h
                  exact absurd h (by simp)
              | ok d =>
                  rw [hnext] at h
                  have hmore : n + 1 + k ≤ (pushAll l sink rows (n + 1) d u).accepted := by
                    simp only [] at h
                    omega
                  rw [Nat.add_comm k, ← Nat.add_assoc]
                  exact ih hmore

end Sinks

/-- After every push of a run that does not fail, what is held is below both limits, and
everything that was counted is there. Neither what is held nor what has been sent depends
on where it is sent. -/
theorem pushAll_stays_bounded (l : ChunkLimits) (rows : List ActiveResource) (k : Nat) :
    ∃ sent c, IsBounded l sent c ∧
      c.resources = ((rows.take k).filter ActiveResource.isPlaced).length ∧
      ∀ {σ : Type} (sink : Sink σ) (s : σ),
        k ≤ (pushAll l sink rows 0 start s).accepted →
        ∃ t, pushAll l sink (rows.take k) 0 start s = ⟨k, .ok c, t⟩ ∧
          Visitor.Takes sink sent s t := by
  have hbounded := (isBounded_start l).emitted (rows.take k)
  obtain ⟨current, done, pending, hstate, -⟩ := emitted_start l (rows.take k)
  refine ⟨_, _, hbounded, ?_, fun sink s hk => ?_⟩
  · rw [hstate]
    exact Nat.zero_add _
  · obtain ⟨c, t, hpushed⟩ := exists_pushAll_take (hk.trans' (Nat.zero_add k).le)
    rw [Nat.zero_add] at hpushed
    obtain ⟨-, hdelivered, hheld⟩ := deliver_of_pushAll (by decide) hpushed
    rw [hheld]
    exact ⟨t, hpushed, takes_of_deliver hdelivered⟩

/-- With two items to a chunk and two chunks to a batch, all three places are in use when
all of `returning` has been pushed. -/
theorem pushAll_stays_bounded_returning :
    6 ≤ (pushAll ⟨2, 2⟩ (Visitor.noting id) returning 0 start []).accepted ∧
      ∃ c sent, pushAll ⟨2, 2⟩ (Visitor.noting id) (returning.take 6) 0 start [] =
          ⟨6, .ok c, sent⟩ ∧
        IsBounded ⟨2, 2⟩ sent c ∧ c.resources = 5 ∧
        sent.map itemsIn = [3] ∧ itemsIn c.pending = 1 ∧
        (unfinished c.current).length = 1 := by
  have hk : 6 ≤ (pushAll ⟨2, 2⟩ (Visitor.noting id) returning 0 start []).accepted := by
    decide +kernel
  obtain ⟨sent, c, hbounded, hresources, hrun⟩ := pushAll_stays_bounded ⟨2, 2⟩ returning 6
  obtain ⟨t, hpushed, htakes⟩ := hrun (Visitor.noting id) [] hk
  obtain rfl : t = sent := by simpa using Visitor.takes_noting.1 htakes
  refine ⟨hk, c, t, hpushed, hbounded, hresources.trans (by decide), ?_⟩
  have hstate : (pushAll ⟨2, 2⟩ (Visitor.noting id) (returning.take 6) 0 start []).state.map
      (fun c => (itemsIn c.pending, (unfinished c.current).length)) = .ok (1, 1) := by
    decide +kernel
  have hsink : (pushAll ⟨2, 2⟩ (Visitor.noting id) (returning.take 6) 0 start []).sink.map
      itemsIn = [3] := by
    decide +kernel
  rw [hpushed] at hstate hsink
  obtain ⟨hpending, hcurrent⟩ := Prod.mk.inj (Except.ok.inj hstate)
  exact ⟨hsink, hpending, hcurrent⟩

end Chunking

end Metering
