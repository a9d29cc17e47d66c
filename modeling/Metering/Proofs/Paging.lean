import Metering.Active.Source

/-!
# A walk visits everything once

A source that keeps to an order of its rows answers every question for a page
with the first rows behind a place. A walk over such a source passes all rows
in their order, whatever the size of its pages, and ends: `walkFrom_eq` carries
a split of the rows into those that were passed and the rest, and each page
moves the border. A page that is exactly the rest is followed by an empty one.
-/

namespace Metering

namespace Cursor

/-- Whether a place comes before another. -/
def Before (a b : Cursor) : Prop := a.space < b.space ∨ a.space = b.space ∧ a.id < b.id

instance (a b : Cursor) : Decidable (a.Before b) := by
  unfold Before
  infer_instance

theorem Before.irrefl (a : Cursor) : ¬ a.Before a := by
  rintro (h | ⟨-, h⟩)
  · exact String.lt_irrefl _ h
  · exact Int.lt_irrefl _ h

theorem Before.trans {a b c : Cursor} (hab : a.Before b) (hbc : b.Before c) :
    a.Before c := by
  rcases hab with hab | ⟨hab, hid⟩ <;> rcases hbc with hbc | ⟨hbc, hid'⟩
  · exact Or.inl (String.lt_trans hab hbc)
  · exact Or.inl (hbc ▸ hab)
  · exact Or.inl (hab ▸ hbc)
  · exact Or.inr ⟨hab.trans hbc, Int.lt_trans hid hid'⟩

theorem Before.asymm {a b : Cursor} (h : a.Before b) : ¬ b.Before a := fun h' =>
  Before.irrefl a (h.trans h')

theorem trichotomy (a b : Cursor) : a.Before b ∨ a = b ∨ b.Before a := by
  obtain ⟨space, id⟩ := a
  obtain ⟨space', id'⟩ := b
  by_cases hlt : space < space'
  · exact Or.inl (Or.inl hlt)
  · by_cases hgt : space' < space
    · exact Or.inr (Or.inr (Or.inl hgt))
    · obtain rfl : space = space' :=
        String.le_antisymm (String.not_lt.1 hgt) (String.not_lt.1 hlt)
      rcases Int.lt_trichotomy id id' with hid | rfl | hid
      · exact Or.inl (Or.inr ⟨rfl, hid⟩)
      · exact Or.inr (Or.inl rfl)
      · exact Or.inr (Or.inr (Or.inr ⟨rfl, hid⟩))

theorem not_before_iff {a b : Cursor} :
    ¬ b.Before a ↔ a.space < b.space ∨ a.space = b.space ∧ a.id ≤ b.id := by
  constructor
  · intro h
    rcases trichotomy a b with (hlt | ⟨heq, hid⟩) | rfl | hgt
    · exact Or.inl hlt
    · exact Or.inr ⟨heq, Int.le_of_lt hid⟩
    · exact Or.inr ⟨rfl, Int.le_refl _⟩
    · exact absurd hgt h
  · rintro (hlt | ⟨heq, hid⟩) (hlt' | ⟨heq', hid'⟩)
    · exact String.lt_irrefl _ (String.lt_trans hlt hlt')
    · exact String.lt_irrefl _ (heq' ▸ hlt)
    · exact String.lt_irrefl _ (heq ▸ hlt')
    · omega

theorem not_before_trans {a b c : Cursor} (hab : ¬ b.Before a) (hbc : ¬ c.Before b) :
    ¬ c.Before a := by
  intro hca
  rcases trichotomy a b with hlt | heq | hgt
  · exact hbc (hca.trans hlt)
  · exact hbc (heq ▸ hca)
  · exact hab hgt

theorem not_before_total (a b : Cursor) : ¬ b.Before a ∨ ¬ a.Before b := by
  by_cases h : b.Before a
  · exact Or.inr h.asymm
  · exact Or.inl h

end Cursor

namespace Source

/-- The rows behind a place. -/
def rowsAfter (after : Option Cursor) (rows : List ActiveResource) :
    List ActiveResource :=
  match after with
  | none => rows
  | some c => rows.filter fun r => c.Before (Cursor.at r)

/-- A source that hands out certain rows in the order of their places. -/
structure Lists (s : Source) (rows : List ActiveResource) : Prop where
  ordered : rows.Pairwise fun a b => (Cursor.at a).Before (Cursor.at b)
  pages : ∀ number after size, 0 < size →
    s.fetch number after size = .ok ((rowsAfter after rows).take size)
  few : rows.length < s.maxPages

theorem rowsAfter_last {done rest : List ActiveResource}
    (h : (done ++ rest).Pairwise fun a b => (Cursor.at a).Before (Cursor.at b)) :
    rowsAfter (done.getLast?.map Cursor.at) (done ++ rest) = rest := by
  cases hlast : done.getLast? with
  | none =>
      rw [List.getLast?_eq_none_iff.1 hlast]
      rfl
  | some r =>
      obtain ⟨front, rfl⟩ := List.getLast?_eq_some_iff.1 hlast
      obtain ⟨hdone, -, hcross⟩ := List.pairwise_append.1 h
      have hpassed : ∀ x ∈ front ++ [r], ¬ (Cursor.at r).Before (Cursor.at x) := by
        intro x hx
        rcases List.mem_append.1 hx with hx | hx
        · exact ((List.pairwise_append.1 hdone).2.2 x hx r (by simp)).asymm
        · rw [List.mem_singleton.1 hx]
          exact Cursor.Before.irrefl _
      have hahead : ∀ x ∈ rest, (Cursor.at r).Before (Cursor.at x) := fun x hx =>
        hcross r (by simp) x hx
      show (front ++ [r] ++ rest).filter _ = rest
      rw [List.filter_append, List.filter_eq_nil_iff.2 (by simpa using hpassed),
        List.filter_eq_self.2 (by simpa using hahead), List.nil_append]

/-- A walk that has passed some of the rows passes the rest, on as many pages as
those fill and one more. -/
theorem walkFrom_eq {s : Source} {rows : List ActiveResource} {size : Nat}
    (hordered : rows.Pairwise fun a b => (Cursor.at a).Before (Cursor.at b))
    (hsize : 0 < size)
    (hpages : ∀ number after, s.fetch number after size =
      .ok ((rowsAfter after rows).take size))
    (fuel number : Nat) (done rest : List ActiveResource) (hsplit : rows = done ++ rest)
    (hfuel : rest.length / size < fuel) :
    s.walkFrom size fuel number (done.getLast?.map Cursor.at) = ⟨rest, none⟩ := by
  induction fuel generalizing number done rest with
  | zero => exact absurd hfuel (Nat.not_lt_zero _)
  | succ fuel ih =>
      have hpage : s.fetch number (done.getLast?.map Cursor.at) size =
          .ok (rest.take size) := by
        rw [hpages, hsplit, rowsAfter_last (hsplit ▸ hordered)]
      rw [walkFrom, hpage]
      simp only []
      split
      · next hshort =>
          rw [List.take_of_length_le]
          rw [List.length_take] at hshort
          omega
      · next hfull =>
          rw [List.length_take] at hfull
          have hrest : rest.take size ++ rest.drop size = rest :=
            List.take_append_drop _ _
          have hlast : (done ++ rest.take size).getLast? = (rest.take size).getLast? := by
            rw [List.getLast?_append, Option.or_of_isSome]
            rw [Option.isSome_iff_ne_none, Ne, List.getLast?_eq_none_iff,
              List.take_eq_nil_iff]
            rintro (hz | hnil)
            · omega
            · rw [hnil] at hfull
              simp at hfull
              omega
          have hfewer : (rest.drop size).length / size < fuel := by
            rw [List.length_drop]
            rw [Nat.div_eq_sub_div hsize (by omega)] at hfuel
            omega
          have hnext := ih (number + 1) (done ++ rest.take size) (rest.drop size)
            (by rw [hsplit, List.append_assoc, hrest]) hfewer
          rw [hlast] at hnext
          rw [hnext, Walk.onto, hrest]

theorem walk_eq {s : Source} {rows : List ActiveResource} (h : s.Lists rows)
    (size : Nat) : s.walk size = ⟨rows, none⟩ := by
  have hsize : 0 < max size 1 := by omega
  exact walkFrom_eq h.ordered hsize (fun number after => h.pages number after _ hsize)
    s.maxPages 0 [] rows rfl (Nat.lt_of_le_of_lt (Nat.div_le_self _ _) h.few)

end Source

end Metering
