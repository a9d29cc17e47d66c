import Metering.Decimal.Binary64

/-!
# The shortest decimal of a binary64 number

Every real number near a binary64 word reads back as that word; the reals that
do form an interval, which holds its ends exactly when the word's significand
is even. A decimal with few digits is a point of a coarse grid, so the
shortest text of a word is found by laying grids of one, two, … seventeen
digits over the interval and stopping at the first one with a point inside.
Only the grid's two neighbours of the number itself have to be tried: if any
point of the grid lies in the interval, one of those does. Of two hits the
nearer is taken, and of two equally near the one with an even last digit.

All of it is done on natural numbers: the interval's ends and the grid points
are scaled by the powers of two and ten that make them whole.
-/

namespace Metering.Decimal

/-- The decimal `significand * 10 ^ exponent`. -/
structure Scientific where
  significand : Nat
  exponent : Int
deriving DecidableEq, Repr

namespace Scientific

/-- The power of a base with an exponent that counts from zero up only. -/
private def powerUp (base : Nat) (e : Int) : Nat := Nat.pow base e.toNat

/-- The interval of a positive finite word, in quarters of the unit `2 ^ e`: its lower end, the
number itself and its upper end. Below a power of two the next word is only half as far away. -/
def quarters (m : Nat) (e : Int) : Nat × Nat × Nat :=
  let below := if m = Binary64.leadingBit ∧ -1074 < e then 1 else 2
  (4 * m - below, 4 * m, 4 * m + 2)

/-- The number of decimal digits in front of the point of `m * 2 ^ e`, negative when zeros follow
the point first. Scaling by ten to the four hundredth makes every positive word at least one. -/
def integerDigits (m : Nat) (e : Int) : Int :=
  let scaled := m * Nat.pow 10 400 * powerUp 2 e / powerUp 2 (-e)
  ((Nat.toDigits 10 scaled).length : Int) - 400

/-- The best point of the grid of multiples of `10 ^ k`, when one lies in the interval. -/
def gridPoint? (m : Nat) (e k : Int) : Option Nat :=
  let (low, mid, high) := quarters m e
  -- A grid point `d * 10 ^ k` and `q` quarters are compared as `d * grid` and `q * unit`.
  let grid := powerUp 10 k * powerUp 2 (2 - e)
  let unit := powerUp 2 (e - 2) * powerUp 10 (-k)
  let inside (d : Nat) : Bool :=
    if m % 2 = 0 then low * unit ≤ d * grid && d * grid ≤ high * unit
    else low * unit < d * grid && d * grid < high * unit
  let down := mid * unit / grid
  let up := down + 1
  let fromDown := mid * unit - down * grid
  let fromUp := up * grid - mid * unit
  match inside down && 0 < down, inside up with
  | false, false => none
  | true, false => some down
  | false, true => some up
  | true, true =>
    if fromDown < fromUp then some down
    else if fromUp < fromDown then some up
    else if down % 2 = 0 then some down else some up

/-- The digits without the zeros at their end, which only move the exponent. -/
def strip (fuel digits : Nat) (exponent : Int) : Scientific :=
  match fuel with
  | 0 => ⟨digits, exponent⟩
  | fuel + 1 =>
    if digits ≠ 0 ∧ digits % 10 = 0 then strip fuel (digits / 10) (exponent + 1)
    else ⟨digits, exponent⟩

/-- The shortest decimal of a positive finite number `m * 2 ^ e`. Seventeen digits always suffice,
so the last grid answers even where the search found nothing. -/
def shortest (m : Nat) (e : Int) : Scientific :=
  let top := integerDigits m e
  let hit := (List.range 17).findSome? fun (n : Nat) =>
    let k := top - 1 - n
    (gridPoint? m e k).map fun d => strip 20 d k
  hit.getD ⟨m * powerUp 2 e, 0⟩

/-! A positive number has a first digit: the grids are searched above zero. -/

theorem gridPoint?_ne_zero {m d : Nat} {e k : Int} (h : gridPoint? m e k = some d) :
    d ≠ 0 := by
  unfold gridPoint? at h
  simp only [] at h
  split at h
  · cases h
  · next hdown _ =>
    obtain rfl := Option.some.inj h
    exact Nat.ne_of_gt (of_decide_eq_true (Bool.and_eq_true_iff.1 hdown).2)
  · obtain rfl := Option.some.inj h
    exact Nat.succ_ne_zero _
  · next hdown _ =>
    have hpos := of_decide_eq_true (Bool.and_eq_true_iff.1 hdown).2
    repeat' split at h
    all_goals
      obtain rfl := Option.some.inj h
      first
        | exact Nat.ne_of_gt hpos
        | exact Nat.succ_ne_zero _

theorem strip_ne_zero {fuel digits : Nat} (h : digits ≠ 0) (exponent : Int) :
    (strip fuel digits exponent).significand ≠ 0 := by
  induction fuel generalizing digits exponent with
  | zero => exact h
  | succ fuel ih =>
    rw [strip]
    split
    · exact ih (by omega) _
    · exact h

theorem shortest_ne_zero {m : Nat} (h : m ≠ 0) (e : Int) :
    (shortest m e).significand ≠ 0 := by
  unfold shortest
  simp only []
  generalize hhit : (List.range 17).findSome? _ = hit
  cases hit with
  | none =>
    have hpower : 0 < powerUp 2 e := Nat.pow_pos (by decide)
    exact Nat.mul_ne_zero h (by omega)
  | some d =>
    obtain ⟨n, -, hd⟩ := List.exists_of_findSome?_eq_some hhit
    obtain ⟨digits, hpoint, rfl⟩ := Option.map_eq_some_iff.1 hd
    exact strip_ne_zero (gridPoint?_ne_zero hpoint) _

end Scientific

/-- How a real number is written in a document: positionally while the point stays among the first
sixteen places, with at least one digit on both sides of the point, and with an exponent
otherwise. -/
def Binary64.positional (d : Scientific) : List Char :=
  let ds := Nat.toDigits 10 d.significand
  let count : Int := ds.length
  let point := count + d.exponent
  let zeros (n : Int) : List Char := List.replicate n.toNat '0'
  if 0 ≤ d.exponent ∧ point ≤ 16 then ds ++ zeros d.exponent ++ ['.', '0']
  else if 0 < point ∧ point ≤ 16 then ds.take point.toNat ++ ['.'] ++ ds.drop point.toNat
  else if -5 < point ∧ point ≤ 0 then ['0', '.'] ++ zeros (-point) ++ ds
  else
    let e := point - 1
    let power := (if e < 0 then ['-'] else []) ++ Nat.toDigits 10 e.natAbs
    match ds with
    | [d] => d :: 'e' :: power
    | d :: rest => d :: '.' :: rest ++ 'e' :: power
    | [] => []

/-- The text of a finite number. -/
def Binary64.render (x : Binary64) : List Char :=
  let sign := if x.isNegative then ['-'] else []
  if x.magnitude = 0 then sign ++ ['0', '.', '0']
  else
    let (m, e) := x.parts
    sign ++ Binary64.positional (Scientific.shortest m e)

end Metering.Decimal
