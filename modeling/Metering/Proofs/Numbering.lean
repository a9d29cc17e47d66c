import Metering.Proofs.Cutting
import Mathlib.Data.Finset.Dedup

/-!
# Numbers and spaces of chunks

Rows may come in any order, and may return to a space that they have left.
Each of their runs is numbered from zero, so a space with two runs has two
chunks in one place. Where no two chunks are in one place a space has therefore
one run, and its numbers are those from zero up, each once. The spaces of the
chunks are those of the resources, in whatever order these come.
-/

namespace Metering

/-- Two chunks are not in one place. -/
def SnapshotChunk.Apart (a b : SnapshotChunk) : Prop :=
  a.space = b.space → a.index ≠ b.index

/-! ## One run -/

theorem space_of_mem_chunksOfRun {n : Nat} {r : ActiveResource}
    {rest : List ActiveResource} {c : SnapshotChunk} (h : c ∈ chunksOfRun n (r :: rest)) :
    c.space = (Cursor.at r).space := by
  obtain ⟨p, -, rfl⟩ := List.mem_map.1 h
  rfl

theorem indices_chunksOfRun (n : Nat) (run : List ActiveResource) :
    (chunksOfRun n run).map (·.index) =
      (List.range (chunksOfRun n run).length).map Int.ofNat := by
  cases run with
  | nil => rfl
  | cons r rest =>
      have hindex : ((·.index) ∘ fun p : List UsageItem × Nat => r.chunk p.1 p.2) =
          Int.ofNat ∘ Prod.snd := rfl
      rw [chunksOfRun, List.length_map, List.length_zipIdx, List.map_map, hindex,
        ← List.map_map, List.zipIdx_map_snd, List.range_eq_range']

theorem exists_first_chunksOfRun (n : Nat) (r : ActiveResource)
    (rest : List ActiveResource) :
    ∃ c ∈ chunksOfRun n (r :: rest), c.space = (Cursor.at r).space ∧ c.index = 0 := by
  cases hpieces : pieces n ((r :: rest).map (·.item)) with
  | nil =>
      rw [List.map_cons, pieces] at hpieces
      cases hpieces
  | cons items more =>
      refine ⟨r.chunk items 0, ?_, rfl, rfl⟩
      rw [chunksOfRun, hpieces, List.zipIdx_cons, List.map_cons]
      exact List.mem_cons_self ..

/-! ## All runs -/

/-- If no two chunks of some runs are in one place, those of a space have the numbers
from zero up, each once and in order. -/
theorem indices_of_apart {n : Nat} {rs : List (List ActiveResource)}
    (h : (rs.flatMap (chunksOfRun n)).Pairwise SnapshotChunk.Apart) (space : String) :
    ∃ m, ((rs.flatMap (chunksOfRun n)).filter (·.space = space)).map (·.index) =
      (List.range m).map Int.ofNat := by
  induction rs with
  | nil => exact ⟨0, rfl⟩
  | cons run rs ih =>
      rw [List.flatMap_cons] at h ⊢
      obtain ⟨-, hrest, hcross⟩ := List.pairwise_append.1 h
      cases run with
      | nil => exact ih hrest
      | cons r rest =>
          rw [List.filter_append]
          by_cases hspace : (Cursor.at r).space = space
          · have hown : (chunksOfRun n (r :: rest)).filter (·.space = space) =
                chunksOfRun n (r :: rest) :=
              List.filter_eq_self.2 fun c hc =>
                decide_eq_true ((space_of_mem_chunksOfRun hc).trans hspace)
            have hother : (rs.flatMap (chunksOfRun n)).filter (·.space = space) = [] := by
              refine List.filter_eq_nil_iff.2 fun c hc hsame => ?_
              obtain ⟨run', hrun', hc'⟩ := List.mem_flatMap.1 hc
              cases run' with
              | nil => cases hc'
              | cons r' rest' =>
                  obtain ⟨a, ha, haspace, hazero⟩ := exists_first_chunksOfRun n r rest
                  obtain ⟨b, hb, hbspace, hbzero⟩ := exists_first_chunksOfRun n r' rest'
                  have hbsame : b.space = space := by
                    rw [hbspace, ← space_of_mem_chunksOfRun hc']
                    simpa using hsame
                  exact hcross a ha b (List.mem_flatMap.2 ⟨_, hrun', hb⟩)
                    (haspace.trans (hspace.trans hbsame.symm)) (hazero.trans hbzero.symm)
            rw [hown, hother, List.append_nil]
            exact ⟨_, indices_chunksOfRun n (r :: rest)⟩
          · have hnone : (chunksOfRun n (r :: rest)).filter (·.space = space) = [] :=
              List.filter_eq_nil_iff.2 fun c hc hsame =>
                hspace ((space_of_mem_chunksOfRun hc).symm.trans (by simpa using hsame))
            rw [hnone, List.nil_append]
            exact ih hrest

theorem indices_cut {n : Nat} {rows : List ActiveResource}
    (h : (cut n rows).Pairwise SnapshotChunk.Apart) (space : String) :
    ∃ m, ((cut n rows).filter (·.space = space)).map (·.index) =
      (List.range m).map Int.ofNat :=
  indices_of_apart h space

theorem spaces_cut (n : Nat) (rows : List ActiveResource) :
    ((cut n rows).map (·.space)).toFinset =
      ((rows.filter ActiveResource.isPlaced).filterMap (·.space)).toFinset := by
  ext space
  rw [List.mem_toFinset, List.mem_toFinset, List.mem_map, List.mem_filterMap]
  constructor
  · rintro ⟨c, hc, rfl⟩
    obtain ⟨run, hrun, hc⟩ := List.mem_flatMap.1 hc
    obtain ⟨r, hr, -, -, -, rfl⟩ := mem_chunksOfRun hc
    have hmem := subset_of_mem_runs hrun hr
    obtain ⟨space, hspace⟩ := Option.isSome_iff_exists.1
      (Bool.and_eq_true_iff.1 (List.mem_filter.1 hmem).2).1
    refine ⟨r, hmem, ?_⟩
    show r.space = some (r.space.getD "")
    rw [hspace, Option.getD_some]
  · rintro ⟨r, hr, hspace⟩
    rw [← flatten_runs (Cursor.at · |>.space) (rows.filter ActiveResource.isPlaced)] at hr
    obtain ⟨run, hrun, hr⟩ := List.mem_flatten.1 hr
    cases run with
    | nil => cases hr
    | cons first rest =>
        obtain ⟨c, hc, hcspace, -⟩ := exists_first_chunksOfRun n first rest
        refine ⟨c, List.mem_flatMap.2 ⟨_, hrun, hc⟩, ?_⟩
        calc c.space
            = (Cursor.at first).space := hcspace
          _ = (Cursor.at r).space := key_of_mem_runs hrun (List.mem_cons_self ..) hr
          _ = space := by rw [Cursor.at, hspace, Option.getD_some]

end Metering
