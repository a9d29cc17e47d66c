/-!
# The order of texts is that of their bytes

The tables compare texts byte by byte, and texts here are compared character by
character. This is the same order, since UTF-8 was made so: a character with a
higher number has a longer encoding, which begins with a higher byte, or one
of the same length whose bytes are the digits of a higher number.
-/

namespace Metering.Text

/-- The bytes of a text in UTF-8. -/
def bytes (s : String) : List UInt8 := s.toByteArray.data.toList

theorem bytes_eq (s : String) : bytes s = s.toList.flatMap String.utf8EncodeChar := by
  unfold bytes
  rw [← String.utf8Encode_toList]
  exact List.toList_data_toByteArray

/-- The numbers of the bytes of a character, by its number. -/
def codes (v : Nat) : List Nat :=
  if v ≤ 0x7f then [v]
  else if v ≤ 0x7ff then [v / 64 % 32 + 0xc0, v % 64 + 0x80]
  else if v ≤ 0xffff then [v / 4096 % 16 + 0xe0, v / 64 % 64 + 0x80, v % 64 + 0x80]
  else [v / 262144 % 8 + 0xf0, v / 4096 % 64 + 0x80, v / 64 % 64 + 0x80, v % 64 + 0x80]

theorem map_toNat_utf8EncodeChar (c : Char) :
    (String.utf8EncodeChar c).map UInt8.toNat = codes c.val.toNat := by
  have hbyte : ∀ n, n < 256 → (UInt8.ofNat n).toNat = n := by
    intro n hn
    rw [UInt8.toNat_ofNat', Nat.mod_eq_of_lt hn]
  unfold String.utf8EncodeChar codes
  simp only []
  split
  · rw [List.map_cons, List.map_nil, hbyte]
    omega
  · split
    · rw [List.map_cons, List.map_cons, List.map_nil, hbyte, hbyte] <;> omega
    · split
      · rw [List.map_cons, List.map_cons, List.map_cons, List.map_nil, hbyte, hbyte,
          hbyte] <;> omega
      · rw [List.map_cons, List.map_cons, List.map_cons, List.map_cons, List.map_nil, hbyte,
          hbyte, hbyte, hbyte] <;> omega

theorem append_lt_append {p q : List Nat} (hlen : p.length = q.length) (h : p < q)
    (xs ys : List Nat) : p ++ xs < q ++ ys := by
  induction p generalizing q with
  | nil =>
      rw [List.length_nil] at hlen
      rw [List.length_eq_zero_iff.1 hlen.symm] at h
      exact absurd h (List.lt_irrefl _)
  | cons a p ih =>
      cases q with
      | nil => cases hlen
      | cons b q =>
          rw [List.cons_append, List.cons_append, List.cons_lt_cons_iff]
          rcases List.cons_lt_cons_iff.1 h with hlt | ⟨heq, hlt⟩
          · exact Or.inl hlt
          · exact Or.inr ⟨heq, ih (Nat.succ.inj hlen) hlt⟩

theorem div_lt_or_mod_lt {a b : Nat} (h : a < b) :
    a / 64 < b / 64 ∨ a / 64 = b / 64 ∧ a % 64 < b % 64 := by
  omega

theorem four_codes_lt {v w : Nat} (h : v < w) (hw : w < 0x110000) :
    [v / 262144 % 8 + 0xf0, v / 4096 % 64 + 0x80, v / 64 % 64 + 0x80, v % 64 + 0x80] <
      [w / 262144 % 8 + 0xf0, w / 4096 % 64 + 0x80, w / 64 % 64 + 0x80, w % 64 + 0x80] := by
  have hthird : ∀ n : Nat, n / 4096 = n / 64 / 64 := fun n => by omega
  have hfourth : ∀ n : Nat, n / 262144 = n / 64 / 64 / 64 := fun n => by omega
  have hfirst : w / 262144 < 8 := by omega
  have hle : v / 262144 ≤ w / 262144 := Nat.div_le_div_right (Nat.le_of_lt h)
  rw [Nat.mod_eq_of_lt hfirst, Nat.mod_eq_of_lt (Nat.lt_of_le_of_lt hle hfirst)]
  simp only [List.cons_lt_cons_iff, List.lt_irrefl, and_false, or_false, hthird, hfourth]
  rcases div_lt_or_mod_lt h with h | ⟨h, hmod⟩
  · rcases div_lt_or_mod_lt h with h | ⟨h, hmod⟩
    · rcases div_lt_or_mod_lt h with h | ⟨h, hmod⟩
      · exact Or.inl (Nat.add_lt_add_right h _)
      · exact Or.inr ⟨by rw [h], Or.inl (Nat.add_lt_add_right hmod _)⟩
    · exact Or.inr ⟨by rw [h], Or.inr ⟨by rw [h], Or.inl (Nat.add_lt_add_right hmod _)⟩⟩
  · exact Or.inr ⟨by rw [h], Or.inr ⟨by rw [h], Or.inr ⟨by rw [h],
      Nat.add_lt_add_right hmod _⟩⟩⟩

/-- The codes of a character come before those of one with a higher number, whatever
follows either. -/
theorem codes_append_lt {v w : Nat} (h : v < w) (hw : w < 0x110000) (xs ys : List Nat) :
    codes v ++ xs < codes w ++ ys := by
  unfold codes
  repeat' split
  -- Encodings of different lengths differ in the first byte, others in some digit.
  all_goals first
    | omega
    | exact List.cons_lt_cons_iff.2 (Or.inl (by omega))
    | exact append_lt_append (by rfl) (four_codes_lt h hw) xs ys
    | refine append_lt_append ?_ ?_ xs ys
      · rfl
      · simp only [List.cons_lt_cons_iff, List.lt_irrefl, and_false, or_false]
        omega

theorem map_toNat_lt {xs ys : List UInt8} :
    xs.map UInt8.toNat < ys.map UInt8.toNat ↔ xs < ys := by
  induction xs generalizing ys with
  | nil => cases ys <;> simp
  | cons x xs ih =>
      cases ys with
      | nil => simp
      | cons y ys =>
          rw [List.map_cons, List.map_cons, List.cons_lt_cons_iff, List.cons_lt_cons_iff, ih,
            UInt8.toNat_inj, UInt8.lt_iff_toNat_lt]

theorem utf8EncodeChar_append_lt {c d : Char} (h : c < d) (xs ys : List UInt8) :
    String.utf8EncodeChar c ++ xs < String.utf8EncodeChar d ++ ys := by
  rw [← map_toNat_lt, List.map_append, List.map_append, map_toNat_utf8EncodeChar,
    map_toNat_utf8EncodeChar]
  have hlt : c.val.toNat < d.val.toNat := h
  have hvalid : d.val.toNat < 0xd800 ∨ 0xdfff < d.val.toNat ∧ d.val.toNat < 0x110000 :=
    d.valid
  exact codes_append_lt hlt (by omega) _ _

theorem bytes_lt_of_lt {s t : String} (h : s < t) : bytes s < bytes t := by
  have hchars : ∀ {cs ds : List Char}, cs < ds →
      cs.flatMap String.utf8EncodeChar < ds.flatMap String.utf8EncodeChar := by
    intro cs
    induction cs with
    | nil =>
        intro ds hlt
        cases ds with
        | nil => exact absurd hlt (List.lt_irrefl _)
        | cons d ds =>
            rw [List.flatMap_nil, List.flatMap_cons]
            cases hcode : String.utf8EncodeChar d with
            | nil => exact absurd hcode String.utf8EncodeChar_ne_nil
            | cons b bs => exact List.nil_lt_cons _ _
    | cons c cs ih =>
        intro ds hlt
        cases ds with
        | nil => exact absurd hlt (List.not_lt_nil _)
        | cons d ds =>
            rw [List.flatMap_cons, List.flatMap_cons]
            rcases List.cons_lt_cons_iff.1 hlt with hcd | ⟨rfl, hrest⟩
            · exact utf8EncodeChar_append_lt hcd _ _
            · exact List.append_left_lt (ih hrest)
  rw [bytes_eq, bytes_eq]
  exact hchars h

end Metering.Text
