/-!
# Pages

A listing is read in pages: so many entries are passed over and so many are
taken. Both numbers are unsigned words of 64 bits, but the store counts with
signed ones, where a number past the signed range stands for a negative one: a
negative limit is no limit, and a negative offset passes over nothing.
-/

namespace Metering.Page

variable {α : Type}

/-- The numbers that are the same with and without a sign end here. -/
def signedBound : Nat := 0x8000000000000000

/-- The entries up to a limit. -/
def take (limit : Nat) (xs : List α) : List α :=
  if limit < signedBound then xs.take limit else xs

/-- The entries after an offset. -/
def drop (offset : Nat) (xs : List α) : List α :=
  if offset < signedBound then xs.drop offset else xs

/-- One page of a listing. -/
def slice (offset limit : Nat) (xs : List α) : List α :=
  take limit (drop offset xs)

@[simp] theorem take_of_lt {limit : Nat} (h : limit < signedBound) (xs : List α) :
    take limit xs = xs.take limit := by
  simp [take, h]

@[simp] theorem drop_of_lt {offset : Nat} (h : offset < signedBound) (xs : List α) :
    drop offset xs = xs.drop offset := by
  simp [drop, h]

theorem slice_map {β : Type} (f : α → β) (offset limit : Nat) (xs : List α) :
    slice offset limit (xs.map f) = (slice offset limit xs).map f := by
  unfold slice take drop
  split <;> split <;> simp

/-- What is taken stands at the front. -/
theorem take_prefix (limit : Nat) (xs : List α) : take limit xs <+: xs := by
  unfold take
  split
  · exact List.take_prefix _ _
  · exact List.prefix_refl _

/-- Taking a page leaves out entries and changes none. -/
theorem slice_sublist (offset limit : Nat) (xs : List α) : (slice offset limit xs).Sublist xs := by
  have hd : (drop offset xs).Sublist xs := by
    unfold drop
    split
    · exact List.drop_sublist _ _
    · exact List.Sublist.refl _
  unfold slice take
  split
  · exact (List.take_sublist _ _).trans hd
  · exact hd

end Metering.Page
