import Metering.Decimal.Shortest
import Metering.Decimal.Scaled

/-!
# The tokens of a document's text

A document is written as a sequence of brackets, separators, names and values,
with blanks allowed between any two. This module reads one token off the front
of a text, reads a whole text into tokens, and writes a token. A token always
takes at least one character (`length_of_next?`), which is why reading them all
comes to an end.
-/

namespace Metering.Json

open Metering.Decimal

inductive Token where
  | openList
  | closeList
  | openRecord
  | closeRecord
  | comma
  | colon
  | null
  | bool (b : Bool)
  | number (n : Number)
  | text (s : String)
deriving DecidableEq, Repr

namespace Token

/-- The four characters that may stand between tokens. -/
def isGap (c : Char) : Bool :=
  c = ' ' || c = '\n' || c = '\t' || c = '\r'

/-- The value of a hexadecimal digit. -/
def hexValue? (c : Char) : Option Nat :=
  if '0' ≤ c ∧ c ≤ '9' then some (c.toNat - '0'.toNat)
  else if 'a' ≤ c ∧ c ≤ 'f' then some (c.toNat - 'a'.toNat + 10)
  else if 'A' ≤ c ∧ c ≤ 'F' then some (c.toNat - 'A'.toNat + 10)
  else none

/-- The value of four hexadecimal digits. -/
def readQuad? : List Char → Option (Nat × List Char)
  | a :: b :: c :: d :: cs => do
    let a ← hexValue? a
    let b ← hexValue? b
    let c ← hexValue? c
    let d ← hexValue? d
    pure (((a * 16 + b) * 16 + c) * 16 + d, cs)
  | _ => none

/-- The character that a one-letter escape stands for. -/
def unescape? (c : Char) : Option Char :=
  if c = '"' then some '"'
  else if c = '\\' then some '\\'
  else if c = '/' then some '/'
  else if c = 'b' then some '\x08'
  else if c = 'f' then some '\x0c'
  else if c = 'n' then some '\n'
  else if c = 'r' then some '\r'
  else if c = 't' then some '\t'
  else none

/-- The high half of a character beyond sixteen bits. -/
def isHighHalf (n : Nat) : Bool := 0xd800 ≤ n && n ≤ 0xdbff

/-- The low half of a character beyond sixteen bits. -/
def isLowHalf (n : Nat) : Bool := 0xdc00 ≤ n && n ≤ 0xdfff

/-- The character of two halves. -/
def ofHalves (high low : Nat) : Char :=
  Char.ofNat ((high - 0xd800) * 0x400 + (low - 0xdc00) + 0x10000)

/-- The character that four hexadecimal digits name. One beyond sixteen bits takes two such escapes,
the high half first. -/
def readCodePoint? (cs : List Char) : Option (Char × List Char) :=
  match readQuad? cs with
  | none => none
  | some (n, cs) =>
    if isLowHalf n then none
    else if isHighHalf n then
      match cs with
      | b :: u :: cs =>
        if b = '\\' ∧ u = 'u' then
          match readQuad? cs with
          | none => none
          | some (m, cs) => if isLowHalf m then some (ofHalves n m, cs) else none
        else none
      | _ => none
    else some (Char.ofNat n, cs)

/-- The character that an escape stands for, after its backslash. -/
def readEscape? : List Char → Option (Char × List Char)
  | [] => none
  | c :: cs => if c = 'u' then readCodePoint? cs else (unescape? c).map (·, cs)

theorem length_of_readQuad? {n : Nat} {cs rest : List Char}
    (h : readQuad? cs = some (n, rest)) : rest.length < cs.length := by
  unfold readQuad? at h
  split at h
  · simp only [Option.bind_eq_bind, Option.bind_eq_some_iff, Option.pure_def, Option.some.injEq,
      Prod.mk.injEq] at h
    obtain ⟨_, _, _, _, _, _, _, _, _, rfl⟩ := h
    simp only [List.length_cons]
    omega
  · cases h

theorem length_of_readCodePoint? {c : Char} {cs rest : List Char}
    (h : readCodePoint? cs = some (c, rest)) : rest.length < cs.length := by
  unfold readCodePoint? at h
  split at h
  · cases h
  · rename_i n cs' hn
    have first := length_of_readQuad? hn
    split at h
    · cases h
    · split at h
      · split at h
        · split at h
          · split at h
            · cases h
            · rename_i hm
              have second := length_of_readQuad? hm
              split at h
              · obtain ⟨-, rfl⟩ := Prod.mk.inj (Option.some.inj h)
                simp only [List.length_cons] at first
                omega
              · cases h
          · cases h
        · cases h
      · obtain ⟨-, rfl⟩ := Prod.mk.inj (Option.some.inj h)
        exact first

theorem length_of_readEscape? {c : Char} {cs rest : List Char}
    (h : readEscape? cs = some (c, rest)) : rest.length < cs.length := by
  cases cs with
  | nil => cases h
  | cons d cs =>
    rw [readEscape?] at h
    rw [List.length_cons]
    split at h
    · exact Nat.lt_succ_of_lt (length_of_readCodePoint? h)
    · rw [Option.map_eq_some_iff] at h
      obtain ⟨x, -, heq⟩ := h
      cases heq
      exact Nat.lt_succ_self _

/-- The rest of a quoted text after its opening quote: the characters in it, behind those already
read, and what follows the closing quote. A control character must be escaped. -/
def readText (acc : List Char) (cs : List Char) : Option (List Char × List Char) :=
  match cs with
  | [] => none
  | c :: cs =>
    if c = '"' then some (acc.reverse, cs)
    else if c = '\\' then
      match _h : readEscape? cs with
      | none => none
      | some (x, rest) => readText (x :: acc) rest
    else if c.toNat < 0x20 then none
    else readText (c :: acc) cs
termination_by cs.length
decreasing_by
  · exact Nat.lt_succ_of_lt (length_of_readEscape? _h)
  · exact Nat.lt_succ_self _

theorem length_of_readText {acc cs s rest : List Char}
    (h : readText acc cs = some (s, rest)) : rest.length < cs.length := by
  fun_induction readText acc cs with
  | case1 => cases h
  | case2 =>
    cases h
    exact Nat.lt_succ_self _
  | case3 => cases h
  | case4 acc cs x rest' hx _ ih =>
    exact Nat.lt_succ_of_lt (Nat.lt_trans (ih h) (length_of_readEscape? hx))
  | case5 => cases h
  | case6 acc c cs _ _ _ ih => exact Nat.lt_succ_of_lt (ih h)

/-- The optional fraction of a numeral: a point and at least one digit. -/
def readFraction? : List Char → Option (Option (List Char) × List Char)
  | [] => some (none, [])
  | c :: cs =>
    if c = '.' then
      match cs.takeWhile Char.isDigit with
      | [] => none
      | ds => some (some ds, cs.dropWhile Char.isDigit)
    else some (none, c :: cs)

/-- The sign of an exponent, true when it points down. -/
def readSign : List Char → Bool × List Char
  | [] => (false, [])
  | c :: cs => if c = '-' then (true, cs) else if c = '+' then (false, cs) else (false, c :: cs)

/-- The optional exponent of a numeral: a letter, an optional sign and at least one digit. -/
def readExponent? : List Char → Option (Option (Bool × List Char) × List Char)
  | [] => some (none, [])
  | c :: cs =>
    if c = 'e' ∨ c = 'E' then
      let (down, cs) := readSign cs
      match cs.takeWhile Char.isDigit with
      | [] => none
      | ds => some (some (down, ds), cs.dropWhile Char.isDigit)
    else some (none, c :: cs)

/-- A numeral without its sign: digits that start with a zero only if there is no other, a
fraction and an exponent. -/
def readNumeral? (negative : Bool) (cs : List Char) : Option (Numeral × List Char) :=
  match cs.takeWhile Char.isDigit with
  | [] => none
  | d :: ds =>
    if d = '0' ∧ ds ≠ [] then none
    else do
      let (fraction, rest) ← readFraction? (cs.dropWhile Char.isDigit)
      let (exponent, rest) ← readExponent? rest
      pure (⟨negative, d :: ds, fraction, exponent⟩, rest)

/-- What follows a word at the front of a text. -/
def afterWord? : List Char → List Char → Option (List Char)
  | [], cs => some cs
  | _ :: _, [] => none
  | w :: ws, c :: cs => if w = c then afterWord? ws cs else none

/-- A numeral with its sign. -/
def readSigned? (c : Char) (cs : List Char) : Option (Numeral × List Char) :=
  if c = '-' then readNumeral? true cs
  else if c.isDigit then readNumeral? false (c :: cs)
  else none

/-- The token at the front of a text that starts with no blank, and what follows it. -/
def next? : List Char → Option (Token × List Char)
  | [] => none
  | c :: cs =>
    if c = '"' then (readText [] cs).map fun (s, rest) => (.text (String.ofList s), rest)
    else if c = '[' then some (.openList, cs)
    else if c = ']' then some (.closeList, cs)
    else if c = '\x7b' then some (.openRecord, cs)
    else if c = '\x7d' then some (.closeRecord, cs)
    else if c = ',' then some (.comma, cs)
    else if c = ':' then some (.colon, cs)
    else if c = 'n' then (afterWord? "ull".toList cs).map fun rest => (.null, rest)
    else if c = 't' then (afterWord? "rue".toList cs).map fun rest => (.bool true, rest)
    else if c = 'f' then (afterWord? "alse".toList cs).map fun rest => (.bool false, rest)
    else
      (readSigned? c cs).bind fun (numeral, rest) =>
        numeral.value?.map fun value => (.number value, rest)

theorem length_of_afterWord? {ws cs rest : List Char} (h : afterWord? ws cs = some rest) :
    rest.length ≤ cs.length := by
  fun_induction afterWord? ws cs with
  | case1 => exact Nat.le_of_eq (congrArg List.length (Option.some.inj h)).symm
  | case2 => cases h
  | case3 _ _ _ ih => exact Nat.le_succ_of_le (ih h)
  | case4 => cases h

theorem length_dropWhile_le (p : Char → Bool) (cs : List Char) :
    (cs.dropWhile p).length ≤ cs.length := by
  induction cs with
  | nil => simp
  | cons c cs ih =>
    simp only [List.dropWhile_cons]
    split
    · simp only [List.length_cons]
      omega
    · simp

theorem length_of_readFraction? {cs rest : List Char} {f : Option (List Char)}
    (h : readFraction? cs = some (f, rest)) : rest.length ≤ cs.length := by
  unfold readFraction? at h
  split at h
  · simp_all
  · next c cs =>
    split at h
    · split at h
      · simp at h
      · have := length_dropWhile_le Char.isDigit cs
        simp only [Option.some.injEq, Prod.mk.injEq] at h
        rw [← h.2, List.length_cons]
        omega
    · simp only [Option.some.injEq, Prod.mk.injEq] at h
      exact Nat.le_of_eq (congrArg List.length h.2.symm)

theorem length_readSign (cs : List Char) : (readSign cs).2.length ≤ cs.length := by
  cases cs with
  | nil => exact Nat.le_refl _
  | cons c cs =>
    rw [readSign]
    split
    · exact Nat.le_succ _
    · split
      · exact Nat.le_succ _
      · exact Nat.le_refl _

theorem length_of_readExponent? {cs rest : List Char} {e : Option (Bool × List Char)}
    (h : readExponent? cs = some (e, rest)) : rest.length ≤ cs.length := by
  unfold readExponent? at h
  split at h
  · simp_all
  · next c cs =>
    split at h
    · have hs := length_readSign cs
      have hd := length_dropWhile_le Char.isDigit (readSign cs).2
      simp only at h
      split at h
      · simp at h
      · simp only [Option.some.injEq, Prod.mk.injEq] at h
        rw [← h.2, List.length_cons]
        omega
    · simp only [Option.some.injEq, Prod.mk.injEq] at h
      exact Nat.le_of_eq (congrArg List.length h.2.symm)

theorem length_of_readNumeral? {negative : Bool} {cs rest : List Char} {n : Numeral}
    (h : readNumeral? negative cs = some (n, rest)) : rest.length < cs.length := by
  unfold readNumeral? at h
  split at h
  · simp at h
  · next d ds hd =>
    split at h
    · simp at h
    · simp only [Option.bind_eq_bind, Option.bind_eq_some_iff, Prod.exists, Option.pure_def,
        Option.some.injEq, Prod.mk.injEq] at h
      obtain ⟨f, r₁, hf, e, r₂, he, -, rfl⟩ := h
      have h₁ := length_of_readFraction? hf
      have h₂ := length_of_readExponent? he
      have hsum := congrArg List.length
        (List.takeWhile_append_dropWhile (p := Char.isDigit) (l := cs))
      rw [List.length_append, hd, List.length_cons] at hsum
      omega

theorem length_of_readSigned? {c : Char} {cs rest : List Char} {n : Numeral}
    (h : readSigned? c cs = some (n, rest)) : rest.length ≤ cs.length := by
  unfold readSigned? at h
  split at h
  · exact Nat.le_of_lt (length_of_readNumeral? h)
  · split at h
    · exact Nat.lt_succ_iff.1 (length_of_readNumeral? h)
    · simp at h

/-- Every token takes at least one character off the text. -/
theorem length_of_next? {cs rest : List Char} {t : Token} (h : next? cs = some (t, rest)) :
    rest.length < cs.length := by
  unfold next? at h
  split at h
  · simp at h
  · next c cs =>
    refine Nat.lt_succ_of_le ?_
    repeat' split at h
    · rw [Option.map_eq_some_iff] at h
      obtain ⟨⟨s, r⟩, hr, heq⟩ := h
      obtain ⟨-, rfl⟩ := Prod.mk.inj heq
      exact Nat.le_of_lt (length_of_readText hr)
    iterate 6
      · obtain ⟨-, rfl⟩ := Prod.mk.inj (Option.some.inj h)
        exact Nat.le_refl _
    iterate 3
      · rw [Option.map_eq_some_iff] at h
        obtain ⟨r, hr, heq⟩ := h
        obtain ⟨-, rfl⟩ := Prod.mk.inj heq
        exact length_of_afterWord? hr
    · rw [Option.bind_eq_some_iff] at h
      obtain ⟨⟨n, r⟩, hr, h⟩ := h
      rw [Option.map_eq_some_iff] at h
      obtain ⟨v, -, heq⟩ := h
      obtain ⟨-, rfl⟩ := Prod.mk.inj heq
      exact length_of_readSigned? hr

/-- All tokens of a text, behind those already read. -/
def readAll (acc : List Token) (cs : List Char) : Option (List Token) :=
  match cs with
  | [] => some acc.reverse
  | c :: rest =>
    if isGap c then readAll acc rest
    else
      match _h : next? (c :: rest) with
      | none => none
      | some (t, rest') => readAll (t :: acc) rest'
termination_by cs.length
decreasing_by
  · simp
  · exact length_of_next? ‹_›

/-! ## Writing -/

/-- A hexadecimal digit of a control character. -/
def hexDigit (n : Nat) : Char :=
  Nat.digitChar n

/-- A character as it stands between quotes: the quote, the backslash and the controls are
escaped, by a letter where there is one. -/
def escape (c : Char) : List Char :=
  if c = '"' then ['\\', '"']
  else if c = '\\' then ['\\', '\\']
  else if c = '\x08' then ['\\', 'b']
  else if c = '\x0c' then ['\\', 'f']
  else if c = '\n' then ['\\', 'n']
  else if c = '\r' then ['\\', 'r']
  else if c = '\t' then ['\\', 't']
  else if c.toNat < 0x20 then
    ['\\', 'u', '0', '0', hexDigit (c.toNat / 16), hexDigit (c.toNat % 16)]
  else [c]

def quote (s : String) : List Char :=
  '"' :: (s.toList.flatMap escape ++ ['"'])

/-- A whole number in decimal. -/
def decimal (n : Int) : List Char :=
  if n < 0 then '-' :: Nat.toDigits 10 n.natAbs else Nat.toDigits 10 n.natAbs

/-- The text of a token. A real number without a text of its own is written as null. -/
def write : Token → List Char
  | .openList => ['[']
  | .closeList => [']']
  | .openRecord => ['\x7b']
  | .closeRecord => ['\x7d']
  | .comma => [',']
  | .colon => [':']
  | .null => "null".toList
  | .bool true => "true".toList
  | .bool false => "false".toList
  | .number (.int n) => decimal n
  | .number (.real x) => if x.isFinite then x.render else "null".toList
  | .text s => quote s

end Token

end Metering.Json
