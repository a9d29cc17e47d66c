import Metering.Proofs.Paging

/-!
# A visitor sees everything once

`Source.forEach` asks for a page, has its rows visited, and asks for the next.
That the pages are there is the source's business: one that answers with the
first rows behind a place, in the order of places, hands out each of its rows
on one page. The visitor may fail, and then neither the rest of the page nor
another page is seen.

The two are kept apart. `forEachFrom_eq` says of any source that visiting page
by page is visiting the rows that a walk passes, and `walkFrom_eq` which rows
these are. So nothing here is said of pages and visits together, and the ways
in which page sizes and numbers of rows may fall together have been dealt with
where there is no visitor.
-/

namespace Metering

/-! ## One thing after the other -/

namespace Visitor

variable {α σ : Type} {visit : Visitor α σ}

/-- The visitor takes some things in order, which leads from one state to another. -/
def Takes (visit : Visitor α σ) : List α → σ → σ → Prop
  | [], s, t => s = t
  | x :: xs, s, t => ∃ u, visit x s = (.ok (), u) ∧ Takes visit xs u t

/-- The visitor takes the things before one of them, fails at that one, and is asked no
more. -/
def Refuses (visit : Visitor α σ) (xs : List α) (s : σ) (e : Error) (t : σ) : Prop :=
  ∃ front x back u, xs = front ++ x :: back ∧ visit.Takes front s u ∧ visit x u = (.error e, t)

theorem Refuses.cons {x : α} {xs : List α} {s u t : σ} {e : Error}
    (hx : visit x s = (.ok (), u)) (h : visit.Refuses xs u e t) :
    visit.Refuses (x :: xs) s e t := by
  obtain ⟨front, y, back, v, rfl, hfront, hy⟩ := h
  exact ⟨x :: front, y, back, v, rfl, ⟨u, hx, hfront⟩, hy⟩

theorem takes_or_refuses (visit : Visitor α σ) (xs : List α) (s : σ) :
    (∃ t, visit.Takes xs s t) ∨ ∃ e t, visit.Refuses xs s e t := by
  induction xs generalizing s with
  | nil => exact Or.inl ⟨s, rfl⟩
  | cons x xs ih =>
      cases hx : visit x s with
      | mk answer u =>
          cases answer with
          | error e => exact Or.inr ⟨e, u, [], x, xs, s, rfl, rfl, hx⟩
          | ok _ =>
              rcases ih u with ⟨t, ht⟩ | ⟨e, t, ht⟩
              · exact Or.inl ⟨t, u, hx, ht⟩
              · exact Or.inr ⟨e, t, ht.cons hx⟩

theorem visitAll_append (xs ys : List α) (n : Nat) (s : σ) :
    visit.visitAll (xs ++ ys) n s =
      match visit.visitAll xs n s with
      | (.ok n, s) => visit.visitAll ys n s
      | (.error e, s) => (.error e, s) := by
  induction xs generalizing n s with
  | nil => rfl
  | cons x xs ih =>
      simp only [List.cons_append, visitAll]
      split
      · exact ih _ _
      · rfl

theorem visitAll_of_takes {xs : List α} {s t : σ} (h : visit.Takes xs s t) (n : Nat) :
    visit.visitAll xs n s = (.ok (n + xs.length), t) := by
  induction xs generalizing n s with
  | nil =>
      obtain rfl : s = t := h
      rfl
  | cons x xs ih =>
      obtain ⟨u, hx, hxs⟩ := h
      simp only [visitAll, hx, ih hxs, List.length_cons]
      rw [Nat.add_assoc, Nat.add_comm 1]

theorem visitAll_of_refuses {xs : List α} {s t : σ} {e : Error} (h : visit.Refuses xs s e t)
    (n : Nat) : visit.visitAll xs n s = (.error e, t) := by
  obtain ⟨front, x, back, u, rfl, hfront, hx⟩ := h
  simp only [visitAll_append, visitAll_of_takes hfront, visitAll, hx]

/-- The visitor that notes what it sees of each thing, and never fails. -/
def noting {β : Type} (f : α → β) : Visitor α (List β) := fun x seen => (.ok (), seen ++ [f x])

theorem takes_noting {β : Type} {f : α → β} {xs : List α} {seen all : List β} :
    (noting f).Takes xs seen all ↔ all = seen ++ xs.map f := by
  induction xs generalizing seen with
  | nil =>
      rw [List.map_nil, List.append_nil]
      exact eq_comm
  | cons x xs ih =>
      rw [List.map_cons, List.append_cons, ← ih]
      constructor
      · rintro ⟨seen', hx, hxs⟩
        obtain rfl := (Prod.mk.inj hx).2
        exact hxs
      · exact fun hxs => ⟨_, rfl, hxs⟩

theorem not_refuses_noting {β : Type} {f : α → β} {xs : List α} {seen all : List β}
    {e : Error} : ¬ (noting f).Refuses xs seen e all := by
  rintro ⟨front, x, back, seen', -, -, hx⟩
  cases (Prod.mk.inj hx).1

end Visitor

/-! ## Page by page -/

/-- Visits the rows that a walk passed, and fails after them if the walk did. -/
def Walk.visit {σ : Type} (w : Walk) (visit : Visitor ActiveResource σ) (n : Nat) (s : σ) :
    Except Error Nat × σ :=
  match visit.visitAll w.rows n s with
  | (.ok n, s) => (match w.failure with | some e => .error e | none => .ok n, s)
  | (.error e, s) => (.error e, s)

theorem Walk.visit_onto {σ : Type} {visit : Visitor ActiveResource σ} (page : List ActiveResource)
    (w : Walk) (n : Nat) (s : σ) :
    (w.onto page).visit visit n s =
      match visit.visitAll page n s with
      | (.ok n, s) => w.visit visit n s
      | (.error e, s) => (.error e, s) := by
  unfold Walk.visit Walk.onto
  rw [Visitor.visitAll_append]
  cases visit.visitAll page n s with
  | mk answer t => cases answer <;> rfl

namespace Source

/-- Visiting page by page is visiting what a walk passes, whatever the source. -/
theorem forEachFrom_eq {σ : Type} (s : Source) (visit : Visitor ActiveResource σ)
    (size fuel number : Nat) (after : Option Cursor) (n : Nat) (st : σ) :
    s.forEachFrom visit size fuel number after n st =
      (s.walkFrom size fuel number after).visit visit n st := by
  induction fuel generalizing number after n st with
  | zero => rfl
  | succ fuel ih =>
      rw [forEachFrom, walkFrom]
      cases s.fetch number after size with
      | error e => rfl
      | ok page =>
          simp only []
          split
          · next e t hvisit =>
              split
              · simp only [Walk.visit, hvisit]
              · rw [Walk.visit_onto, hvisit]
          · next n' t hvisit =>
              split
              · simp only [Walk.visit, hvisit]
              · rw [Walk.visit_onto, hvisit]
                exact ih _ _ _ _

theorem forEach_eq {σ : Type} (s : Source) (visit : Visitor ActiveResource σ) (size : Nat)
    (st : σ) : s.forEach visit size st = (s.walk size).visit visit 0 st :=
  forEachFrom_eq ..

end Source

/-! ## Rows by their places -/

namespace Source

/-- Whether a row has a place no later than that of another. -/
def inOrder (a b : ActiveResource) : Bool := ! decide ((Cursor.at b).Before (Cursor.at a))

/-- Rows in the order of their places. -/
def byPlace (rows : List ActiveResource) : List ActiveResource := rows.mergeSort inOrder

theorem inOrder_iff {a b : ActiveResource} :
    inOrder a b = true ↔ ¬ (Cursor.at b).Before (Cursor.at a) := by
  unfold inOrder
  rw [Bool.not_eq_true', decide_eq_false_iff_not]

theorem inOrder_trans (a b c : ActiveResource) (hab : inOrder a b = true)
    (hbc : inOrder b c = true) : inOrder a c = true := by
  rw [inOrder_iff] at *
  exact Cursor.not_before_trans hab hbc

theorem inOrder_total (a b : ActiveResource) : (inOrder a b || inOrder b a) = true := by
  rw [Bool.or_eq_true, inOrder_iff, inOrder_iff]
  exact Cursor.not_before_total _ _

theorem pairwise_byPlace {rows : List ActiveResource}
    (h : rows.Pairwise fun a b => Cursor.at a ≠ Cursor.at b) :
    (byPlace rows).Pairwise fun a b => (Cursor.at a).Before (Cursor.at b) := by
  have hsorted : (byPlace rows).Pairwise fun a b => inOrder a b = true :=
    List.pairwise_mergeSort inOrder_trans inOrder_total rows
  have hdistinct : (byPlace rows).Pairwise fun a b => Cursor.at a ≠ Cursor.at b :=
    (List.mergeSort_perm rows _).symm.pairwise h Ne.symm
  refine (hsorted.and hdistinct).imp fun {a b} hab => ?_
  rcases Cursor.trichotomy (Cursor.at a) (Cursor.at b) with hlt | heq | hgt
  · exact hlt
  · exact absurd heq hab.2
  · exact absurd hgt (inOrder_iff.1 hab.1)

/-- There is one strict order of the rows. -/
theorem byPlace_eq {rows ordered : List ActiveResource} (hperm : ordered.Perm rows)
    (h : ordered.Pairwise fun a b => (Cursor.at a).Before (Cursor.at b)) :
    byPlace rows = ordered := by
  have hdistinct : rows.Pairwise fun a b => Cursor.at a ≠ Cursor.at b := by
    refine hperm.pairwise (h.imp fun {a b} hab heq => ?_) Ne.symm
    exact Cursor.Before.irrefl _ (heq ▸ hab)
  refine List.Perm.eq_of_pairwise ?_ (pairwise_byPlace hdistinct) h
    ((List.mergeSort_perm rows _).trans hperm.symm)
  exact fun a b _ _ hab hba => absurd hba hab.asymm

theorem byPlace_rowsAfter {rows ordered : List ActiveResource} (hperm : ordered.Perm rows)
    (h : ordered.Pairwise fun a b => (Cursor.at a).Before (Cursor.at b))
    (after : Option Cursor) : byPlace (rowsAfter after rows) = rowsAfter after ordered := by
  cases after with
  | none => exact byPlace_eq hperm h
  | some c => exact byPlace_eq (hperm.filter _) (h.sublist List.filter_sublist)

/-! ## Sources that answer from their rows -/

/-- A source that answers from some rows, kept in any order: with the first of those behind
the place asked for, by place. -/
def Answers (s : Source) (rows : List ActiveResource) : Prop :=
  ∀ number after size, 0 < size →
    s.fetch number after size = .ok ((byPlace (rowsAfter after rows)).take size)

theorem Answers.forEach_eq {s : Source} {rows : List ActiveResource} (h : s.Answers rows)
    (hdistinct : rows.Pairwise fun a b => Cursor.at a ≠ Cursor.at b) {size : Nat}
    (hfew : rows.length / max size 1 < s.maxPages) {σ : Type}
    (visit : Visitor ActiveResource σ) (st : σ) :
    s.forEach visit size st = visit.visitAll (byPlace rows) 0 st := by
  have hperm : (byPlace rows).Perm rows := List.mergeSort_perm rows _
  have hordered := pairwise_byPlace hdistinct
  have hsize : 0 < max size 1 := by omega
  have hpages : ∀ number after, s.fetch number after (max size 1) =
      .ok ((rowsAfter after (byPlace rows)).take (max size 1)) := by
    intro number after
    rw [h number after _ hsize, byPlace_rowsAfter hperm hordered]
  have hwalk : s.walk size = ⟨byPlace rows, none⟩ :=
    walkFrom_eq hordered hsize hpages s.maxPages 0 [] _ rfl (hperm.length_eq ▸ hfew)
  rw [Source.forEach_eq, hwalk, Walk.visit]
  cases visit.visitAll (byPlace rows) 0 st with
  | mk answer t => cases answer <;> rfl

end Source

end Metering
