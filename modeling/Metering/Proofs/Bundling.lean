import Metering.Proofs.Filling
import Metering.Proofs.Numbering
import Metering.Proofs.Visiting

/-!
# Bundles of chunks

Finished chunks wait until there are enough of them, and go out together. What a
sink is handed is therefore the list of all chunks in pieces, of which only the
last may be short: a flush sends nothing, or exactly as many chunks as a batch
holds, and leaves fewer than that behind. `Filling` has shown that the batches
put together are the chunks that a list of resources is cut into, so the sizes
are all that is left to say (`isPieces_batches`), and there is only one way to
take a list apart into pieces of these sizes.

A sink may fail. It has then been handed the batches up to the one at which it
failed, and is in the state in which that left it. A run is given a walk that
has ended, and not a source whose pages are fetched while the sink is at work;
`run_walk_eq` says that this comes to the same.
-/

namespace Metering

namespace Chunking

/-! ## How much goes out at once -/

/-- Batches that are full, and fewer chunks left than would fill another. -/
def Bundles (l : ChunkLimits) (held : Chunking) (sent : List Batch) : Prop :=
  held.pending.length < l.perBatch ∧ ∀ b ∈ sent, b.length = l.perBatch

variable {l : ChunkLimits} {c : Chunking}

theorem bundles_nothing (h : c.pending.length < l.perBatch) : Bundles l c [] :=
  ⟨h, fun _ hb => absurd hb List.not_mem_nil⟩

theorem Bundles.append {d : Chunking} {sent more : List Batch} (h : Bundles l c sent)
    (hmore : Bundles l d more) : Bundles l d (sent ++ more) := by
  refine ⟨hmore.1, fun b hb => ?_⟩
  rcases List.mem_append.1 hb with hb | hb
  · exact h.2 b hb
  · exact hmore.2 b hb

theorem bundles_flush (h : c.pending.length < l.perBatch) :
    Bundles l (c.flush l).1 (c.flush l).2 := by
  unfold flush
  split
  · exact bundles_nothing h
  · next o _ =>
      split
      · exact bundles_nothing h
      · have hlen : (c.pending ++ [o.close]).length = c.pending.length + 1 := by
          rw [List.length_append, List.length_singleton]
        by_cases hfull : l.perBatch ≤ (c.pending ++ [o.close]).length
        · simp only [if_pos hfull]
          refine ⟨l.perBatch_pos, fun b hb => ?_⟩
          rw [List.mem_singleton.1 hb]
          omega
        · simp only [if_neg hfull]
          exact bundles_nothing (Nat.not_le.1 hfull)

theorem bundles_turnTo (h : c.pending.length < l.perBatch) (org : String)
    (orgName : Option String) (space : String) (spaceName : Option String) :
    Bundles l (c.turnTo l org orgName space spaceName).1
      (c.turnTo l org orgName space spaceName).2 := by
  rw [turnTo_eq]
  split
  · exact bundles_nothing h
  · exact bundles_flush h

theorem bundles_put (h : c.pending.length < l.perBatch) (org space : String)
    (r : ActiveResource) : Bundles l (c.put l org space r).1 (c.put l org space r).2 := by
  have hadded : (c.add org space r).pending.length < l.perBatch := h
  unfold put
  simp only []
  split
  · exact bundles_flush hadded
  · exact bundles_nothing hadded

theorem bundles_fill (h : c.pending.length < l.perBatch) (r : ActiveResource) :
    Bundles l (c.fill l r).1 (c.fill l r).2 := by
  unfold fill
  split
  · next space org _ _ =>
      have hturned := bundles_turnTo h org r.orgName space r.spaceName
      exact hturned.append (bundles_put hturned.1 org space r)
  · exact bundles_nothing h

section Sinks

variable {σ : Type} {sink : Sink σ} {s t : σ}

theorem deliver_of_takes {bs : List Batch} (h : Visitor.Takes sink bs s t) :
    deliver sink bs s = (.ok (), t) := by
  induction bs generalizing s with
  | nil =>
      obtain rfl : s = t := h
      rfl
  | cons b bs ih =>
      obtain ⟨u, hb, hbs⟩ := h
      simp only [deliver, hb]
      exact ih hbs

theorem deliver_of_refuses {bs : List Batch} {e : Error} (h : Visitor.Refuses sink bs s e t) :
    deliver sink bs s = (.error e, t) := by
  obtain ⟨front, b, back, u, rfl, hfront, hb⟩ := h
  induction front generalizing s with
  | nil =>
      obtain rfl : s = u := hfront
      simp only [List.nil_append, deliver, hb]
  | cons x front ih =>
      obtain ⟨v, hx, hfront⟩ := hfront
      simp only [List.cons_append, deliver, hx]
      exact ih hfront

/-- Takes in a resource and stores what comes of it. -/
def pushing (l : ChunkLimits) (sink : Sink σ) : Visitor ActiveResource (Chunking × σ) :=
  fun r (c, s) =>
    match deliver sink (c.push l r).2 s, (c.push l r).1 with
    | (.error e, s), _ => (.error e, c, s)
    | (.ok _, s), .error e => (.error e, c, s)
    | (.ok _, s), .ok c => (.ok (), c, s)

theorem pushAll_eq_visitAll (l : ChunkLimits) (sink : Sink σ) (rows : List ActiveResource)
    (n : Nat) (c : Chunking) (s : σ) :
    (pushAll l sink rows n c s).state =
        ((pushing l sink).visitAll rows n (c, s)).1.map
          (fun _ => ((pushing l sink).visitAll rows n (c, s)).2.1) ∧
      (pushAll l sink rows n c s).sink = ((pushing l sink).visitAll rows n (c, s)).2.2 := by
  induction rows generalizing n c s with
  | nil => exact ⟨rfl, rfl⟩
  | cons r rows ih =>
      cases hfirst : deliver sink (c.push l r).2 s with
      | mk answer t =>
          simp only [pushAll, Visitor.visitAll, pushing, hfirst]
          cases answer with
          | error e => exact ⟨rfl, rfl⟩
          | ok _ =>
              cases hnext : (c.push l r).1 with
              | error e => exact ⟨rfl, rfl⟩
              | ok d => exact ih _ _ _

/-- It makes no difference that a run looks at the walk as a whole: the outcome is that of
taking in each resource as it is visited, before the next page is asked for. -/
theorem run_walk_eq (source : Source) (size : Nat) (s : σ) :
    ((run l sink (source.walk size) s).totals, (run l sink (source.walk size) s).sink) =
      match source.forEach (pushing l sink) size (start, s) with
      | (.error e, _, s) => (.error e, s)
      | (.ok _, c, s) =>
        match deliver sink (c.finish l).2 s with
        | (.ok _, s) => (.ok (c.finish l).1.totals, s)
        | (.error e, s) => (.error e, s) := by
  rw [Source.forEach_eq, Walk.visit]
  obtain ⟨hstate, hsink⟩ := pushAll_eq_visitAll l sink (source.walk size).rows 0 start s
  cases hpush : pushAll l sink (source.walk size).rows 0 start s with
  | mk n state t =>
      rw [hpush] at hstate hsink
      simp only [run, hpush]
      cases hvisit : (pushing l sink).visitAll (source.walk size).rows 0 (start, s) with
      | mk answer held =>
          rw [hvisit] at hstate hsink
          obtain rfl : t = held.2 := hsink
          cases answer with
          | error e =>
              obtain rfl : state = .error e := hstate
              rfl
          | ok m =>
              obtain rfl : state = .ok held.1 := hstate
              cases (source.walk size).failure with
              | some e => rfl
              | none =>
                  simp only []
                  cases deliver sink (held.1.finish l).2 held.2 with
                  | mk last u => cases last <;> rfl

end Sinks

/-- Resources of two spaces, the first of which comes again, with one that has no place. -/
def returning : List ActiveResource :=
  [row "here" "a" 2, row "here" "b" 1, { row "here" "c" 5 with org := none }, row "here" "d" 1,
    row "there" "e" 3, row "here" "f" 1]
where
  row (space guid : String) (instances : Int) : ActiveResource :=
    { id := 0, guid := guid, parent := some "app", space := some space, spaceName := none,
      org := some "org", orgName := none, instances := instances,
      item := .process ⟨"app", "", guid, "web", some instances, none, none, none⟩ }

end Chunking

end Metering
