import Metering.Proofs.Paging
import Metering.Snapshot.Chunk
import Mathlib.Data.List.Chain

/-!
# What cutting means

A list of resources is cut in two steps that have nothing to do with how it is
done: into the runs of resources that have the same space, and each run into
pieces of so many items. `cut` is this, for the resources that have a place at
all, with the pieces of a run numbered from zero.

The rest of the module is what follows for resources that come in the order of
their spaces: a space makes one run, so that no two chunks have the same space
and number, and the chunks come in the order in which they are read back.
-/

namespace Metering

/-! ## Pieces -/

section Pieces

variable {α : Type}

/-- A list in consecutive pieces of so many members, at least one, of which only
the last may be shorter. -/
def pieces (n : Nat) : List α → List (List α)
  | [] => []
  | x :: xs => (x :: xs.take (n - 1)) :: pieces n (xs.drop (n - 1))
termination_by xs => xs.length

@[simp] theorem pieces_nil (n : Nat) : pieces n ([] : List α) = [] := by
  rw [pieces]

theorem pieces_append {n : Nat} {xs : List α} (hn : 0 < n) (h : xs.length = n)
    (ys : List α) : pieces n (xs ++ ys) = xs :: pieces n ys := by
  cases xs with
  | nil =>
      rw [List.length_nil] at h
      omega
  | cons x xs =>
      have hlen : xs.length = n - 1 := by
        rw [List.length_cons] at h
        omega
      rw [List.cons_append, pieces, List.take_left' hlen, List.drop_left' hlen]

theorem pieces_of_short {n : Nat} {xs : List α} (hne : xs ≠ []) (h : xs.length ≤ n) :
    pieces n xs = [xs] := by
  cases xs with
  | nil => exact absurd rfl hne
  | cons x xs =>
      rw [List.length_cons] at h
      rw [pieces, List.take_of_length_le (by omega), List.drop_of_length_le (by omega),
        pieces_nil]

theorem flatten_pieces (n : Nat) (xs : List α) : (pieces n xs).flatten = xs := by
  fun_induction pieces n xs with
  | case1 => rfl
  | case2 x xs ih =>
      rw [List.flatten_cons, ih, List.cons_append, List.take_append_drop]

theorem ne_nil_of_mem_pieces {n : Nat} {xs p : List α} (h : p ∈ pieces n xs) :
    p ≠ [] := by
  fun_induction pieces n xs with
  | case1 => cases h
  | case2 x xs ih =>
      rcases List.mem_cons.1 h with rfl | h
      · simp
      · exact ih h

end Pieces

/-! ## Runs -/

section Runs

variable {α β : Type} [DecidableEq β]

/-- The longest stretches of a list whose members have the same key. -/
def runs (key : α → β) : List α → List (List α)
  | [] => []
  | x :: xs =>
    (x :: xs.takeWhile fun y => key y = key x) ::
      runs key (xs.dropWhile fun y => key y = key x)
termination_by xs => xs.length
decreasing_by
  exact Nat.lt_succ_of_le (List.dropWhile_sublist _).length_le

theorem flatten_runs (key : α → β) (xs : List α) : (runs key xs).flatten = xs := by
  fun_induction runs key xs with
  | case1 => rfl
  | case2 x xs ih =>
      rw [List.flatten_cons, ih, List.cons_append, List.takeWhile_append_dropWhile]

theorem head_mem_runs (key : α → β) (z : α) (xs : List α) :
    z :: xs.takeWhile (fun y => key y = key z) ∈ runs key (z :: xs) := by
  rw [runs]
  exact List.mem_cons_self ..

theorem key_of_mem_runs {key : α → β} {xs run : List α} (h : run ∈ runs key xs)
    {x y : α} (hx : x ∈ run) (hy : y ∈ run) : key x = key y := by
  fun_induction runs key xs with
  | case1 => cases h
  | case2 z xs ih =>
      rcases List.mem_cons.1 h with rfl | h
      · have hkey : ∀ v ∈ z :: xs.takeWhile (fun y => key y = key z), key v = key z := by
          intro v hv
          rcases List.mem_cons.1 hv with rfl | hv
          · rfl
          · simpa using List.all_eq_true.1 List.all_takeWhile v hv
        rw [hkey x hx, hkey y hy]
      · exact ih h

theorem subset_of_mem_runs {key : α → β} {xs run : List α} (h : run ∈ runs key xs) :
    run ⊆ xs := by
  intro x hx
  rw [← flatten_runs key xs]
  exact List.mem_flatten.2 ⟨run, h, hx⟩

theorem lt_of_mem_dropWhile {key : α → β} {lt : β → β → Prop} {z : α} {xs : List α}
    (h : (z :: xs).Pairwise fun x y => key x = key y ∨ lt (key x) (key y))
    (htrans : ∀ a b c, lt a b → lt b c → lt a c) {y : α}
    (hy : y ∈ xs.dropWhile (fun y => key y = key z)) : lt (key z) (key y) := by
  obtain ⟨hz, hxs⟩ := List.pairwise_cons.1 h
  cases hd : xs.dropWhile (fun y => key y = key z) with
  | nil =>
      rw [hd] at hy
      cases hy
  | cons v vs =>
      have hsub : (v :: vs).Sublist xs := hd ▸ List.dropWhile_sublist _
      have hvne : key v ≠ key z := by
        have := List.head?_dropWhile_not (fun y => decide (key y = key z)) xs
        rw [hd] at this
        simpa using this
      have hlt : lt (key z) (key v) := by
        rcases hz v (hsub.subset (List.mem_cons_self ..)) with heq | hlt
        · exact absurd heq.symm hvne
        · exact hlt
      rw [hd] at hy
      rcases List.mem_cons.1 hy with rfl | hy
      · exact hlt
      · rcases (List.pairwise_cons.1 (hxs.sublist hsub)).1 y hy with heq | hlt'
        · rwa [← heq]
        · exact htrans _ _ _ hlt hlt'

theorem pairwise_runs {key : α → β} {lt : β → β → Prop} {xs : List α}
    (h : xs.Pairwise fun x y => key x = key y ∨ lt (key x) (key y))
    (htrans : ∀ a b c, lt a b → lt b c → lt a c) :
    (runs key xs).Pairwise fun r s => ∀ x ∈ r, ∀ y ∈ s, lt (key x) (key y) := by
  fun_induction runs key xs with
  | case1 => exact List.Pairwise.nil
  | case2 z xs ih =>
      have hxs := (List.pairwise_cons.1 h).2
      refine List.pairwise_cons.2 ⟨?_, ih (hxs.sublist (List.dropWhile_sublist _))⟩
      intro s hs x hx y hy
      have hkey : key x = key z := key_of_mem_runs (head_mem_runs key z xs) hx (by simp)
      rw [hkey]
      exact lt_of_mem_dropWhile h htrans (subset_of_mem_runs hs hy)

end Runs

/-! ## Chunks -/

/-- Whether a resource has a space and an organization. -/
def ActiveResource.isPlaced (r : ActiveResource) : Bool := r.space.isSome && r.org.isSome

/-- The chunk with a number and certain items in the place of a resource. -/
def ActiveResource.chunk (r : ActiveResource) (items : List UsageItem) (index : Nat) :
    SnapshotChunk where
  org := r.org.getD ""
  orgName := r.orgName
  space := r.space.getD ""
  spaceName := r.spaceName
  index := index
  items := items

/-- The chunks of a run: its items in pieces, numbered from zero, in the place of its
first resource. -/
def chunksOfRun (n : Nat) : List ActiveResource → List SnapshotChunk
  | [] => []
  | r :: rest =>
    (pieces n ((r :: rest).map (·.item))).zipIdx.map fun (items, i) => r.chunk items i

/-- The chunks that a list of resources is cut into. -/
def cut (n : Nat) (rows : List ActiveResource) : List SnapshotChunk :=
  (runs (Cursor.at · |>.space) (rows.filter ActiveResource.isPlaced)).flatMap
    (chunksOfRun n)

theorem map_items_chunksOfRun (n : Nat) (run : List ActiveResource) :
    (chunksOfRun n run).map (·.items) = pieces n (run.map (·.item)) := by
  cases run with
  | nil => rw [chunksOfRun, List.map_nil, List.map_nil, pieces_nil]
  | cons r rest =>
      have hfst : ((·.items) ∘ fun p : List UsageItem × Nat => r.chunk p.1 p.2) = Prod.fst := rfl
      rw [chunksOfRun, List.map_map, hfst, List.zipIdx_map_fst]

theorem items_chunksOfRun (n : Nat) (run : List ActiveResource) :
    (chunksOfRun n run).flatMap (·.items) = run.map (·.item) := by
  rw [List.flatMap_def, map_items_chunksOfRun, flatten_pieces]

theorem items_cut (n : Nat) (rows : List ActiveResource) :
    (cut n rows).flatMap (·.items) =
      (rows.filter ActiveResource.isPlaced).map (·.item) := by
  have hrun := funext (items_chunksOfRun n)
  rw [cut, List.flatMap_assoc, hrun, List.flatMap_def, ← List.map_flatten, flatten_runs]

theorem mem_chunksOfRun {n : Nat} {run : List ActiveResource} {c : SnapshotChunk}
    (h : c ∈ chunksOfRun n run) :
    ∃ r ∈ run, ∃ items ∈ pieces n (run.map (·.item)), ∃ i, c = r.chunk items i := by
  cases run with
  | nil => cases h
  | cons r rest =>
      obtain ⟨⟨items, i⟩, hp, rfl⟩ := List.mem_map.1 h
      exact ⟨r, List.mem_cons_self .., items, List.fst_mem_of_mem_zipIdx hp, i, rfl⟩

/-- Whether a chunk comes before another on pages. -/
def SnapshotChunk.Before (a b : SnapshotChunk) : Prop :=
  a.space < b.space ∨ a.space = b.space ∧ a.index < b.index

theorem pairwise_zipIdx {α : Type} (xs : List α) (k : Nat) :
    (xs.zipIdx k).Pairwise fun a b => a.2 < b.2 := by
  induction xs generalizing k with
  | nil => exact List.Pairwise.nil
  | cons x xs ih =>
      rw [List.zipIdx_cons]
      refine List.pairwise_cons.2 ⟨fun p hp => ?_, ih (k + 1)⟩
      exact List.le_snd_of_mem_zipIdx hp

theorem pairwise_chunksOfRun (n : Nat) (run : List ActiveResource) :
    (chunksOfRun n run).Pairwise SnapshotChunk.Before := by
  cases run with
  | nil => exact List.Pairwise.nil
  | cons r rest =>
      refine List.Pairwise.map _ (fun a b hab => ?_) (pairwise_zipIdx _ 0)
      exact Or.inr ⟨rfl, Int.ofNat_lt.2 hab⟩

/-- Resources in the order of their places are cut into chunks in the order of
theirs, no two of which have the same space and number. -/
theorem pairwise_cut (n : Nat) {rows : List ActiveResource}
    (h : rows.Pairwise fun a b => (Cursor.at a).Before (Cursor.at b)) :
    (cut n rows).Pairwise SnapshotChunk.Before := by
  have hspaces : (rows.filter ActiveResource.isPlaced).Pairwise fun a b =>
      (Cursor.at a).space = (Cursor.at b).space ∨
        (Cursor.at a).space < (Cursor.at b).space := by
    refine (h.sublist List.filter_sublist).imp fun hab => ?_
    rcases hab with hlt | ⟨heq, -⟩
    · exact Or.inr hlt
    · exact Or.inl heq
  have hruns := pairwise_runs hspaces fun _ _ _ => String.lt_trans
  refine List.pairwise_flatMap.2 ⟨fun run _ => pairwise_chunksOfRun n run, ?_⟩
  refine hruns.imp fun hrs c hc d hd => ?_
  obtain ⟨r, hr, -, -, -, rfl⟩ := mem_chunksOfRun hc
  obtain ⟨s, hs, -, -, -, rfl⟩ := mem_chunksOfRun hd
  exact Or.inl (hrs r hr s hs)

theorem items_of_mem_cut {n : Nat} {rows : List ActiveResource} {c : SnapshotChunk}
    (hc : c ∈ cut n rows) {i : UsageItem} (hi : i ∈ c.items) : ∃ r ∈ rows, r.item = i := by
  have hall : i ∈ (cut n rows).flatMap (·.items) := List.mem_flatMap.2 ⟨c, hc, hi⟩
  rw [items_cut] at hall
  obtain ⟨r, hr, rfl⟩ := List.mem_map.1 hall
  exact ⟨r, (List.mem_filter.1 hr).1, rfl⟩

theorem items_ne_nil_of_mem_cut {n : Nat} {rows : List ActiveResource} {c : SnapshotChunk}
    (hc : c ∈ cut n rows) : c.items ≠ [] := by
  obtain ⟨run, -, hc⟩ := List.mem_flatMap.1 hc
  obtain ⟨r, -, items, hitems, i, rfl⟩ := mem_chunksOfRun hc
  exact ne_nil_of_mem_pieces hitems

theorem length_le_length_flatMap {α β : Type} {f : α → List β} {xs : List α}
    (h : ∀ x ∈ xs, f x ≠ []) : xs.length ≤ (xs.flatMap f).length := by
  induction xs with
  | nil => exact Nat.le_refl _
  | cons x xs ih =>
      have hrest := ih fun y hy => h y (List.mem_cons_of_mem _ hy)
      have hfirst := List.length_pos_iff.2 (h x (List.mem_cons_self ..))
      rw [List.flatMap_cons, List.length_cons, List.length_append]
      omega

theorem length_cut_le (n : Nat) (rows : List ActiveResource) :
    (cut n rows).length ≤ rows.length := by
  have hfull : ∀ c ∈ cut n rows, c.items ≠ [] := fun _ hc => items_ne_nil_of_mem_cut hc
  have hitems := length_le_length_flatMap hfull
  rw [items_cut, List.length_map] at hitems
  exact Nat.le_trans hitems (List.length_filter_le _ _)

end Metering
