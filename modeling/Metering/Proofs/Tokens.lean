import Metering.Json.Token

/-!
# Tokens read back

Every token but a real number is read back from its text, whatever stands
behind it, with one exception: the text of a number must not run on into more
of a numeral. `EndsNumeral` says that it does not, and `next?_write` that the
token at the front is then the one that was written.

The digits are core's; what is added here is that the significand takes all of
them as long as the number fits, and that the first is a zero for zero only.
-/

namespace Metering.Json.Token

open Metering.Decimal

/-! ## Texts -/

theorem hexValue?_hexDigit : ∀ n < 16, hexValue? (hexDigit n) = some n := by
  decide

theorem readCodePoint?_control {c : Char} (h : c.toNat < 0x20) (rest : List Char) :
    readCodePoint? ('0' :: '0' :: hexDigit (c.toNat / 16) ::
      hexDigit (c.toNat % 16) :: rest) = some (c, rest) := by
  have hhigh := hexValue?_hexDigit (c.toNat / 16) (by omega)
  have hlow := hexValue?_hexDigit (c.toNat % 16) (by omega)
  have hzero : hexValue? '0' = some 0 := by decide
  have hquad : readQuad? ('0' :: '0' :: hexDigit (c.toNat / 16) ::
      hexDigit (c.toNat % 16) :: rest) = some (c.toNat, rest) := by
    simp only [readQuad?, hhigh, hlow, hzero, Option.bind_eq_bind, Option.bind_some,
      Option.pure_def, Option.some.injEq, Prod.mk.injEq, and_true]
    omega
  have hnotLow : isLowHalf c.toNat = false := by
    simp only [isLowHalf, Bool.and_eq_false_iff, decide_eq_false_iff_not]
    omega
  have hnotHigh : isHighHalf c.toNat = false := by
    simp only [isHighHalf, Bool.and_eq_false_iff, decide_eq_false_iff_not]
    omega
  simp [readCodePoint?, hquad, hnotLow, hnotHigh]

theorem readText_of_readEscape? {acc text rest : List Char} {c : Char}
    (h : readEscape? text = some (c, rest)) :
    readText acc ('\\' :: text) = readText (c :: acc) rest := by
  rw [readText, if_neg (by decide), if_pos rfl]
  split
  · next hnone =>
      rw [h] at hnone
      cases hnone
  · next y rest' hsome =>
      rw [h] at hsome
      cases hsome
      rfl

theorem readText_escape (acc : List Char) (c : Char) (rest : List Char) :
    readText acc (escape c ++ rest) = readText (c :: acc) rest := by
  have hletter : ∀ x : Char, x ≠ 'u' → unescape? x = some c →
      readText acc ('\\' :: x :: rest) = readText (c :: acc) rest := by
    intro x hx hu
    refine readText_of_readEscape? ?_
    rw [readEscape?, if_neg hx, hu]
    rfl
  unfold escape
  split
  · next h => subst h; exact hletter '"' (by decide) (by decide)
  split
  · next h => subst h; exact hletter '\\' (by decide) (by decide)
  split
  · next h => subst h; exact hletter 'b' (by decide) (by decide)
  split
  · next h => subst h; exact hletter 'f' (by decide) (by decide)
  split
  · next h => subst h; exact hletter 'n' (by decide) (by decide)
  split
  · next h => subst h; exact hletter 'r' (by decide) (by decide)
  split
  · next h => subst h; exact hletter 't' (by decide) (by decide)
  split
  · next h =>
      show readText acc ('\\' :: 'u' :: '0' :: '0' :: hexDigit (c.toNat / 16) ::
        hexDigit (c.toNat % 16) :: rest) = _
      refine readText_of_readEscape? ?_
      rw [readEscape?, if_pos rfl]
      exact readCodePoint?_control h rest
  · next hquote hslash _ _ _ _ _ hcontrol =>
      show readText acc (c :: rest) = _
      rw [readText, if_neg hquote, if_neg hslash, if_neg hcontrol]

/-- A text is read back up to its closing quote. -/
theorem readText_quote (s acc rest : List Char) :
    readText acc (s.flatMap escape ++ '"' :: rest) = some (acc.reverse ++ s, rest) := by
  induction s generalizing acc with
  | nil =>
      rw [List.flatMap_nil, List.nil_append, readText, if_pos rfl, List.append_nil]
  | cons c s ih =>
      rw [List.flatMap_cons, List.append_assoc, readText_escape, ih,
        List.reverse_cons, List.append_assoc]
      rfl

theorem next?_quote (s : String) (rest : List Char) :
    next? (quote s ++ rest) = some (.text s, rest) := by
  have hchars : quote s ++ rest = '"' :: (s.toList.flatMap escape ++ '"' :: rest) := by
    simp [quote]
  rw [hchars, next?, if_pos rfl, readText_quote]
  simp

/-! ## Numerals

A numeral is taken apart into the runs of digits that it is made of. What is read of a
text that is put together from such runs are the same runs, and nothing is said yet of
the number that they name. -/

/-- A run of digits. -/
def IsDigits (ds : List Char) : Prop := ds ≠ [] ∧ ∀ c ∈ ds, c.isDigit = true

theorem isDigits_singleton {c : Char} (h : c.isDigit = true) : IsDigits [c] :=
  ⟨by simp, by simpa using h⟩

/-- No digit follows. -/
def EndsDigits (rest : List Char) : Prop := ∀ c cs, rest = c :: cs → c.isDigit = false

/-- No digit, point or exponent follows, so that a numeral ends here. -/
def EndsNumeral (rest : List Char) : Prop :=
  ∀ c cs, rest = c :: cs → c.isDigit = false ∧ c ≠ '.' ∧ c ≠ 'e' ∧ c ≠ 'E'

theorem endsDigits_cons {c : Char} {cs : List Char} (h : c.isDigit = false) :
    EndsDigits (c :: cs) := by
  intro d ds heq
  cases heq
  exact h

theorem endsNumeral_nil : EndsNumeral [] := fun _ _ h => by cases h

theorem endsNumeral_cons {c : Char} {cs : List Char}
    (h : c.isDigit = false ∧ c ≠ '.' ∧ c ≠ 'e' ∧ c ≠ 'E') : EndsNumeral (c :: cs) := by
  intro d ds heq
  cases heq
  exact h

theorem EndsNumeral.endsDigits {rest : List Char} (h : EndsNumeral rest) :
    EndsDigits rest := fun c cs heq => (h c cs heq).1

theorem takeWhile_digits {ds rest : List Char} (hds : ∀ c ∈ ds, c.isDigit = true)
    (hrest : EndsDigits rest) : (ds ++ rest).takeWhile Char.isDigit = ds := by
  rw [List.takeWhile_append_of_pos hds]
  cases rest with
  | nil => simp
  | cons c cs => simp [hrest c cs rfl]

theorem dropWhile_digits {ds rest : List Char} (hds : ∀ c ∈ ds, c.isDigit = true)
    (hrest : EndsDigits rest) : (ds ++ rest).dropWhile Char.isDigit = rest := by
  rw [List.dropWhile_append_of_pos hds]
  cases rest with
  | nil => rfl
  | cons c cs => rw [List.dropWhile_cons_of_neg (by simp [hrest c cs rfl])]

/-- The text of a fraction, with its point. -/
def fractionText : Option (List Char) → List Char
  | none => []
  | some ds => '.' :: ds

/-- The text of an exponent, with its letter. -/
def exponentText : Option (Bool × List Char) → List Char
  | none => []
  | some (down, ds) => 'e' :: ((if down then ['-'] else []) ++ ds)

/-- The text of a numeral without its sign. -/
def unsignedText (n : Numeral) : List Char :=
  n.whole ++ (fractionText n.fraction ++ exponentText n.exponent)

def numeralText (n : Numeral) : List Char :=
  (if n.negative then ['-'] else []) ++ unsignedText n

/-- The parts of a numeral are runs of digits, and a zero in front is the only one. -/
structure IsProper (n : Numeral) : Prop where
  whole : IsDigits n.whole
  leading : ∀ ds, n.whole = '0' :: ds → ds = []
  fraction : ∀ ds, n.fraction = some ds → IsDigits ds
  exponent : ∀ down ds, n.exponent = some (down, ds) → IsDigits ds

theorem readExponent?_text {x : Option (Bool × List Char)} {rest : List Char}
    (hx : ∀ down ds, x = some (down, ds) → IsDigits ds) (hrest : EndsNumeral rest) :
    readExponent? (exponentText x ++ rest) = some (x, rest) := by
  cases x with
  | none =>
      show readExponent? rest = _
      cases rest with
      | nil => rfl
      | cons c cs =>
          obtain ⟨-, -, hlower, hupper⟩ := hrest c cs rfl
          rw [readExponent?, if_neg (by simp [hlower, hupper])]
  | some x =>
      obtain ⟨down, ds⟩ := x
      obtain ⟨hne, hds⟩ := hx down ds rfl
      have hsign : readSign ((if down then ['-'] else []) ++ (ds ++ rest)) =
          (down, ds ++ rest) := by
        cases down with
        | true => rfl
        | false =>
            cases ds with
            | nil => exact absurd rfl hne
            | cons c cs =>
                have hc := hds c (List.mem_cons_self ..)
                have hminus : c ≠ '-' := by
                  rintro rfl
                  exact absurd hc (by decide)
                have hplus : c ≠ '+' := by
                  rintro rfl
                  exact absurd hc (by decide)
                show readSign (c :: (cs ++ rest)) = _
                rw [readSign, if_neg hminus, if_neg hplus]
                rfl
      show readExponent? ('e' :: ((if down then ['-'] else []) ++ ds ++ rest)) = _
      rw [List.append_assoc, readExponent?, if_pos (Or.inl rfl), hsign]
      simp only [takeWhile_digits hds hrest.endsDigits, dropWhile_digits hds hrest.endsDigits]

theorem readFraction?_text {x : Option (List Char)} {rest : List Char}
    (hx : ∀ ds, x = some ds → IsDigits ds) (hrest : EndsDigits rest)
    (hpoint : ∀ cs, rest ≠ '.' :: cs) :
    readFraction? (fractionText x ++ rest) = some (x, rest) := by
  cases x with
  | none =>
      show readFraction? rest = _
      cases rest with
      | nil => rfl
      | cons c cs =>
          rw [readFraction?, if_neg]
          rintro rfl
          exact hpoint cs rfl
  | some ds =>
      obtain ⟨hne, hds⟩ := hx ds rfl
      show readFraction? ('.' :: (ds ++ rest)) = _
      rw [readFraction?, if_pos rfl, takeWhile_digits hds hrest, dropWhile_digits hds hrest]
      cases ds with
      | nil => exact absurd rfl hne
      | cons c cs => rfl

theorem readNumeral?_text {n : Numeral} (h : IsProper n) {rest : List Char}
    (hrest : EndsNumeral rest) :
    readNumeral? n.negative (unsignedText n ++ rest) = some (n, rest) := by
  obtain ⟨negative, whole, fraction, exponent⟩ := n
  -- what stands behind the fraction, and what stands behind the whole part
  have hexponent : EndsDigits (exponentText exponent ++ rest) ∧
      ∀ cs, exponentText exponent ++ rest ≠ '.' :: cs := by
    cases exponent with
    | none => exact ⟨hrest.endsDigits, fun cs heq => (hrest '.' cs heq).2.1 rfl⟩
    | some x => exact ⟨endsDigits_cons (by decide), fun cs heq => by cases heq⟩
  have hfraction : EndsDigits (fractionText fraction ++ (exponentText exponent ++ rest)) := by
    cases fraction with
    | none => exact hexponent.1
    | some ds => exact endsDigits_cons (by decide)
  obtain ⟨hne, hdigits⟩ := h.whole
  have htext : unsignedText ⟨negative, whole, fraction, exponent⟩ ++ rest =
      whole ++ (fractionText fraction ++ (exponentText exponent ++ rest)) := by
    simp only [unsignedText, List.append_assoc]
  unfold readNumeral?
  rw [htext, takeWhile_digits hdigits hfraction, dropWhile_digits hdigits hfraction,
    readFraction?_text h.fraction hexponent.1 hexponent.2]
  have hread := readExponent?_text h.exponent hrest
  cases whole with
  | nil => exact absurd rfl hne
  | cons d ds =>
      have hlead : ¬ (d = '0' ∧ ds ≠ []) := by
        rintro ⟨rfl, hmore⟩
        exact hmore (h.leading ds rfl)
      simp only []
      rw [if_neg hlead]
      simp only [Option.bind_eq_bind, Option.bind_some]
      rw [hread]
      rfl

theorem next?_numeral {c : Char} (hc : c.isDigit = true ∨ c = '-') (cs : List Char) :
    next? (c :: cs) = (readSigned? c cs).bind fun (numeral, rest) =>
      numeral.value?.map fun value => (.number value, rest) := by
  have hne : ∀ d : Char, d.isDigit = false → d ≠ '-' → c ≠ d := by
    rintro d hd hminus rfl
    rcases hc with hc | hc
    · rw [hd] at hc
      cases hc
    · exact hminus hc
  rw [next?, if_neg (hne _ (by decide) (by decide)),
    if_neg (hne _ (by decide) (by decide)), if_neg (hne _ (by decide) (by decide)),
    if_neg (hne _ (by decide) (by decide)), if_neg (hne _ (by decide) (by decide)),
    if_neg (hne _ (by decide) (by decide)), if_neg (hne _ (by decide) (by decide)),
    if_neg (hne _ (by decide) (by decide)), if_neg (hne _ (by decide) (by decide)),
    if_neg (hne _ (by decide) (by decide))]

theorem next?_text {n : Numeral} (h : IsProper n) {rest : List Char}
    (hrest : EndsNumeral rest) :
    next? (numeralText n ++ rest) = n.value?.map fun value => (.number value, rest) := by
  have hread := readNumeral?_text h hrest
  unfold numeralText
  cases hsign : n.negative with
  | true =>
      rw [hsign] at hread
      show next? ('-' :: (unsignedText n ++ rest)) = _
      rw [next?_numeral (Or.inr rfl), readSigned?, if_pos rfl, hread, Option.bind_some]
  | false =>
      rw [hsign] at hread
      obtain ⟨hne, hdigits⟩ := h.whole
      show next? (unsignedText n ++ rest) = _
      cases hwhole : n.whole with
      | nil => exact absurd hwhole hne
      | cons d ds =>
          have hd : d.isDigit = true := hdigits d (hwhole ▸ List.mem_cons_self ..)
          have hminus : d ≠ '-' := by
            rintro rfl
            exact absurd hd (by decide)
          have htext : unsignedText n = d :: (ds ++
              (fractionText n.fraction ++ exponentText n.exponent)) := by
            rw [unsignedText, hwhole]
            rfl
          rw [htext, List.cons_append] at hread ⊢
          rw [next?_numeral (Or.inl hd), readSigned?, if_neg hminus, if_pos hd, hread,
            Option.bind_some]

/-! ## The texts of numbers -/

theorem isDigits_toDigits (n : Nat) : IsDigits (Nat.toDigits 10 n) :=
  ⟨Nat.toDigits_ne_nil, fun _ hc => Nat.isDigit_of_mem_toDigits (by decide) (by decide) hc⟩

theorem toDigits_eq_zero {n : Nat} {ds : List Char}
    (h : Nat.toDigits 10 n = '0' :: ds) : n = 0 ∧ ds = [] := by
  induction n using Nat.strongRecOn generalizing ds with
  | ind n ih =>
      rcases Nat.lt_or_ge n 10 with hlt | hge
      · have hnil : ds = [] := by
          rw [Nat.toDigits_of_lt_base hlt] at h
          exact (List.cons.inj h).2.symm
        have hvalue := @Nat.ofDigitChars_ten_toDigits n
        rw [h, hnil, Nat.ofDigitChars_cons, Nat.ofDigitChars_nil] at hvalue
        exact ⟨hvalue.symm, hnil⟩
      · rw [Nat.toDigits_of_base_le (by decide) hge] at h
        cases hd : Nat.toDigits 10 (n / 10) with
        | nil => exact absurd hd Nat.toDigits_ne_nil
        | cons d ds' =>
            rw [hd, List.cons_append] at h
            obtain ⟨rfl, -⟩ := List.cons.inj h
            have hzero := (ih (n / 10) (by omega) hd).1
            omega

/-- The numeral of a whole number. -/
def wholeNumeral (n : Int) : Numeral :=
  ⟨decide (n < 0), Nat.toDigits 10 n.natAbs, none, none⟩

theorem isProper_wholeNumeral (n : Int) : IsProper (wholeNumeral n) where
  whole := isDigits_toDigits _
  leading _ h := (toDigits_eq_zero h).2
  fraction _ h := by cases h
  exponent _ _ h := by cases h

theorem decimal_eq (n : Int) : decimal n = numeralText (wholeNumeral n) := by
  unfold decimal numeralText unsignedText wholeNumeral fractionText exponentText
  split
  · next h => simp [h]
  · next h => simp [h]

/-- In each of its four forms the text of a positive real number is that of a proper
numeral. -/
theorem exists_positional {d : Scientific} (h : d.significand ≠ 0) (negative : Bool) :
    ∃ n : Numeral, n.negative = negative ∧ IsProper n ∧
      Binary64.positional d = unsignedText n := by
  obtain ⟨hne, hdigits⟩ := isDigits_toDigits d.significand
  have hlead : ∀ cs, Nat.toDigits 10 d.significand ≠ '0' :: cs :=
    fun cs heq => h (toDigits_eq_zero heq).1
  have hzeros : ∀ n : Nat, ∀ c ∈ List.replicate n '0', c.isDigit = true := by
    intro n c hc
    rw [List.eq_of_mem_replicate hc]
    decide
  unfold Binary64.positional
  simp only []
  generalize Nat.toDigits 10 d.significand = ds at hne hdigits hlead ⊢
  have hlength : 0 < ds.length := List.length_pos_iff.2 hne
  split
  · -- zeros up to the point
    refine ⟨⟨negative, ds ++ List.replicate d.exponent.toNat '0', some ['0'], none⟩, rfl,
      ⟨⟨by simp [hne], ?_⟩, ?_, ?_, by simp⟩, ?_⟩
    · intro c hc
      rcases List.mem_append.1 hc with hc | hc
      · exact hdigits c hc
      · exact hzeros _ c hc
    · intro cs heq
      cases ds with
      | nil => exact absurd rfl hne
      | cons c cs' =>
          obtain ⟨rfl, -⟩ := List.cons.inj heq
          exact absurd rfl (hlead cs')
    · intro cs heq
      obtain rfl := Option.some.inj heq
      exact isDigits_singleton (by decide)
    · simp [unsignedText, fractionText, exponentText]
  split
  · -- the point among the digits
    next hbefore hpoint =>
      refine ⟨⟨negative, ds.take (ds.length + d.exponent).toNat,
        some (ds.drop (ds.length + d.exponent).toNat), none⟩, rfl, ⟨⟨?_, ?_⟩, ?_, ?_, by simp⟩, ?_⟩
      · intro hnil
        rcases List.take_eq_nil_iff.1 hnil with hzero | hnil
        · omega
        · exact hne hnil
      · exact fun c hc => hdigits c (List.mem_of_mem_take hc)
      · intro cs heq
        cases ds with
        | nil => exact absurd rfl hne
        | cons c cs' =>
            obtain ⟨m, hm⟩ : ∃ m, (((c :: cs').length : Int) + d.exponent).toNat = m + 1 :=
              ⟨_, (Nat.succ_pred_eq_of_pos (by omega)).symm⟩
            rw [hm, List.take_succ_cons] at heq
            obtain ⟨rfl, -⟩ := List.cons.inj heq
            exact absurd rfl (hlead cs')
      · intro cs heq
        obtain rfl := Option.some.inj heq
        refine ⟨fun hnil => ?_, fun c hc => hdigits c (List.mem_of_mem_drop hc)⟩
        have := List.drop_eq_nil_iff.1 hnil
        omega
      · simp [unsignedText, fractionText, exponentText]
  split
  · -- zeros from the point on
    refine ⟨⟨negative, ['0'], some (List.replicate (-(ds.length + d.exponent)).toNat '0' ++ ds),
      none⟩, rfl, ⟨isDigits_singleton (by decide), by simp, ?_, by simp⟩, ?_⟩
    · intro cs heq
      obtain rfl := Option.some.inj heq
      refine ⟨by simp [hne], fun c hc => ?_⟩
      rcases List.mem_append.1 hc with hc | hc
      · exact hzeros _ c hc
      · exact hdigits c hc
    · simp [unsignedText, fractionText, exponentText]
  · -- an exponent
    generalize (ds.length : Int) + d.exponent - 1 = e
    have hpower : ∀ down ds', some (decide (e < 0), Nat.toDigits 10 e.natAbs) = some (down, ds') →
        IsDigits ds' := by
      intro down ds' heq
      obtain ⟨-, rfl⟩ := Prod.mk.inj (Option.some.inj heq)
      exact isDigits_toDigits _
    cases ds with
    | nil => exact absurd rfl hne
    | cons c cs =>
        have hc := isDigits_singleton (hdigits c (List.mem_cons_self ..))
        cases cs with
        | nil =>
            refine ⟨⟨negative, [c], none, some (decide (e < 0), Nat.toDigits 10 e.natAbs)⟩, rfl,
              ⟨hc, by simp, by simp, hpower⟩, ?_⟩
            simp [unsignedText, fractionText, exponentText]
        | cons c' cs =>
            refine ⟨⟨negative, [c], some (c' :: cs),
              some (decide (e < 0), Nat.toDigits 10 e.natAbs)⟩, rfl,
              ⟨hc, by simp, ?_, hpower⟩, ?_⟩
            · intro ds' heq
              obtain rfl := Option.some.inj heq
              exact ⟨by simp, fun x hx => hdigits x (List.mem_cons_of_mem _ hx)⟩
            · simp [unsignedText, fractionText, exponentText]

theorem exists_numeral (n : Number) :
    (∃ numeral, IsProper numeral ∧ (Token.number n).write = numeralText numeral) ∨
      (Token.number n).write = Token.null.write := by
  cases n with
  | int n => exact Or.inl ⟨wholeNumeral n, isProper_wholeNumeral n, decimal_eq n⟩
  | real x =>
      show (∃ numeral, _ ∧ (if x.isFinite then x.render else _) = _) ∨ _
      cases hfinite : x.isFinite with
      | false => exact Or.inr (if_neg (by simp [hfinite]))
      | true =>
          refine Or.inl ?_
          rw [if_pos rfl]
          unfold Binary64.render
          simp only []
          split
          · have hzero : IsDigits ['0'] := isDigits_singleton (by decide)
            refine ⟨⟨x.isNegative, ['0'], some ['0'], none⟩, ⟨hzero, by simp, ?_, by simp⟩, rfl⟩
            intro ds heq
            obtain rfl := Option.some.inj heq
            exact hzero
          · next hzero =>
              obtain ⟨numeral, hsign, hproper, htext⟩ := exists_positional
                (Scientific.shortest_ne_zero (Binary64.parts_ne_zero hzero) x.parts.2) x.isNegative
              refine ⟨numeral, hproper, ?_⟩
              rw [numeralText, hsign, ← htext]

/-! ## Whole numbers -/

theorem takeDigits_eq {ds : List Char} {acc : Nat}
    (h : Nat.ofDigitChars 10 ds acc ≤ maxSignificand) :
    takeDigits acc ds = (Nat.ofDigitChars 10 ds acc, []) := by
  induction ds generalizing acc with
  | nil => simp [takeDigits]
  | cons c cs ih =>
      have hstep : Nat.ofDigitChars 10 (c :: cs) acc =
          Nat.ofDigitChars 10 cs (acc * 10 + digitValue c) := by
        rw [Nat.ofDigitChars_cons, Nat.mul_comm]
        rfl
      rw [hstep] at h ⊢
      have hgrow : acc * 10 + digitValue c ≤
          Nat.ofDigitChars 10 cs (acc * 10 + digitValue c) := by
        rw [Nat.ofDigitChars_eq_ofDigitChars_zero]
        have hpow : 1 ≤ 10 ^ cs.length := Nat.pos_of_ne_zero (by simp)
        have := Nat.mul_le_mul_right (acc * 10 + digitValue c) hpow
        omega
      rw [takeDigits, if_pos (Nat.le_trans hgrow h)]
      exact ih h

/-- The whole numbers that are read as such. -/
def IsWhole (n : Int) : Prop := Word.minSigned ≤ n ∧ n ≤ Word.max

theorem value?_wholeNumeral {n : Int} (h : IsWhole n) :
    (wholeNumeral n).value? = some (.int n) := by
  have hfits : n.natAbs ≤ maxSignificand := by
    unfold IsWhole Word.minSigned Word.max at h
    unfold maxSignificand Word.max
    omega
  have htake : takeDigits 0 (Nat.toDigits 10 n.natAbs) = (n.natAbs, []) := by
    rw [takeDigits_eq (by rwa [Nat.ofDigitChars_ten_toDigits]),
      Nat.ofDigitChars_ten_toDigits]
  simp only [wholeNumeral, Numeral.value?, htake, decide_eq_true_eq]
  split
  · next hpos =>
      congr 2
      omega
  · next hneg =>
      unfold IsWhole Word.minSigned at h
      rw [if_pos (by omega)]
      congr 2
      omega

/-! ## All tokens -/

/-- The token at the front of a text is what is read of the text that was written there,
if anything is. What stands behind it matters to numbers only. -/
theorem next?_write (t : Token) {rest : List Char}
    (hrest : ∀ n, t = .number n → EndsNumeral rest) :
    next? (t.write ++ rest) = (next? t.write).map fun (t', _) => (t', rest) := by
  cases t with
  | number n =>
      rcases exists_numeral n with ⟨numeral, hproper, htext⟩ | hnull
      · have halone := next?_text hproper endsNumeral_nil
        rw [List.append_nil] at halone
        rw [htext, halone, next?_text hproper (hrest n rfl)]
        cases numeral.value? <;> rfl
      · rw [hnull]
        rfl
  | text s =>
      have halone := next?_quote s []
      rw [List.append_nil] at halone
      show next? (quote s ++ rest) = (next? (quote s)).map _
      rw [halone, next?_quote]
      rfl
  | bool b => cases b <;> rfl
  | _ => rfl

theorem next?_number {n : Number} {t : Token} {rest : List Char}
    (h : next? (Token.number n).write = some (t, rest)) :
    t = .null ∨ ∃ m, t = .number m := by
  rcases exists_numeral n with ⟨numeral, hproper, htext⟩ | hnull
  · have halone := next?_text hproper endsNumeral_nil
    rw [List.append_nil, ← htext, h] at halone
    cases hvalue : numeral.value? with
    | none =>
        rw [hvalue] at halone
        cases halone
    | some m =>
        rw [hvalue] at halone
        exact Or.inr ⟨m, (Prod.mk.inj (Option.some.inj halone)).1⟩
  · rw [hnull] at h
    exact Or.inl (Prod.mk.inj (Option.some.inj h)).1.symm

/-- The tokens that their text says everything about. -/
def IsExact : Token → Prop
  | .number (.int n) => IsWhole n
  | .number (.real _) => False
  | _ => True

theorem next?_exact {t : Token} (ht : t.IsExact) : next? t.write = some (t, []) := by
  cases t with
  | number n =>
      cases n with
      | int n =>
          have halone := next?_text (isProper_wholeNumeral n) endsNumeral_nil
          rw [List.append_nil, ← decimal_eq, value?_wholeNumeral ht] at halone
          exact halone
      | real x => exact ht.elim
  | text s =>
      have halone := next?_quote s []
      rw [List.append_nil] at halone
      exact halone
  | bool b => cases b <;> rfl
  | _ => rfl

theorem isGap_of_isDigit {d : Char} (hd : d.isDigit = true) : isGap d = false := by
  have hne : ∀ x : Char, x.isDigit = false → d ≠ x := by
    rintro x hx rfl
    rw [hx] at hd
    cases hd
  simp [isGap, hne]

theorem write_cons (t : Token) : ∃ c cs, t.write = c :: cs ∧ isGap c = false := by
  cases t with
  | number n =>
      rcases exists_numeral n with ⟨numeral, hproper, htext⟩ | hnull
      · obtain ⟨hne, hdigits⟩ := hproper.whole
        rw [htext, numeralText, unsignedText]
        cases numeral.negative with
        | true => exact ⟨'-', _, rfl, by decide⟩
        | false =>
            cases hwhole : numeral.whole with
            | nil => exact absurd hwhole hne
            | cons d ds =>
                exact ⟨d, _, rfl, isGap_of_isDigit (hdigits d (hwhole ▸ List.mem_cons_self ..))⟩
      · exact ⟨'n', _, hnull, by decide⟩
  | text s => exact ⟨'"', _, rfl, by decide⟩
  | bool b => cases b <;> exact ⟨_, _, rfl, by decide⟩
  | _ => exact ⟨_, _, rfl, by decide⟩

theorem readAll_write (t : Token) {rest : List Char}
    (hrest : ∀ n, t = .number n → EndsNumeral rest) (acc : List Token) :
    readAll acc (t.write ++ rest) =
      (next? t.write).bind fun (t', _) => readAll (t' :: acc) rest := by
  have hnext := next?_write t hrest
  obtain ⟨c, cs, hwrite, hgap⟩ := write_cons t
  rw [hwrite, List.cons_append] at hnext ⊢
  rw [readAll, if_neg (by simp [hgap])]
  split
  · next hnone =>
      rw [hnext] at hnone
      rw [Option.map_eq_none_iff.1 hnone]
      rfl
  · next t' rest' hsome =>
      rw [hnext] at hsome
      obtain ⟨⟨t'', r⟩, hfront, heq⟩ := Option.map_eq_some_iff.1 hsome
      cases heq
      rw [hfront]
      rfl

theorem readAll_alone (t : Token) :
    readAll [] t.write = (next? t.write).map fun (t', _) => [t'] := by
  have hread := readAll_write t (fun _ _ => endsNumeral_nil) []
  rw [List.append_nil] at hread
  rw [hread]
  cases next? t.write with
  | none => rfl
  | some front =>
      show readAll [front.1] [] = some [front.1]
      rw [readAll]
      rfl

end Metering.Json.Token
