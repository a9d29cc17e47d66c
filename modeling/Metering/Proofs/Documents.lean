import Metering.Json.Printer
import Metering.Json.Reader
import Metering.Proofs.Tokens

/-!
# Documents read back

What is read of a document's text is the document itself but for its numbers, or
nothing: a number comes back as whatever its own text is read as, which for a real
number need not be the same number, and a document whose brackets nest too deep is
refused. The proof meets at the tokens, where reading and writing do. That the text is
read into tokens as the document's numbers are read one by one is an induction on the
document with the rest of the text held general, since a number needs to know that a
separator or a closing bracket stands behind it; `readAll_tokens` is that. That the
machine then comes back with the document is an induction with the stack held general:
the tokens of a document do to any stack what putting the document there does
(`foldlM_tokens`), unless there are too many brackets, and then the machine stops in
the middle (`foldlM_deep`).
-/

namespace Metering.Json

open Decimal (Number)
open Token (EndsNumeral endsNumeral_cons endsNumeral_nil next? readAll readAll_alone
  readAll_write)

/-! ## What a document is read back as -/

mutual

/-- How deep the brackets of a document nest. -/
def nesting : Json → Nat
  | .arr items => itemNesting items + 1
  | .obj fields => fieldNesting fields + 1
  | _ => 0

def itemNesting : List Json → Nat
  | [] => 0
  | x :: rest => max (nesting x) (itemNesting rest)

def fieldNesting : List (String × Json) → Nat
  | [] => 0
  | (_, v) :: rest => max (nesting v) (fieldNesting rest)

end

mutual

/-- The document with every number in it replaced by what its own text is read as, if
there is something for each of them. -/
def reread? : Json → Option Json
  | .int n => readWithin? 0 (Json.int n).write
  | .real x => readWithin? 0 (Json.real x).write
  | .arr items => (rereadItems? items).map .arr
  | .obj fields => (rereadFields? fields).map .obj
  | other => some other

def rereadItems? : List Json → Option (List Json)
  | [] => some []
  | x :: rest => (reread? x).bind fun y => (rereadItems? rest).map (y :: ·)

def rereadFields? : List (String × Json) → Option (List (String × Json))
  | [] => some []
  | (n, v) :: rest => (reread? v).bind fun w => (rereadFields? rest).map ((n, w) :: ·)

end

/-! ## From the text to the tokens -/

theorem endsNumeral_itemTokens (items : List Json) (rest : List Char) :
    EndsNumeral ((itemTokens items).flatMap Token.write ++ rest) := by
  cases items <;> exact endsNumeral_cons (by decide)

theorem endsNumeral_fieldTokens (fields : List (String × Json)) (rest : List Char) :
    EndsNumeral ((fieldTokens fields).flatMap Token.write ++ rest) := by
  cases fields with
  | nil => exact endsNumeral_cons (by decide)
  | cons f fields => exact endsNumeral_cons (by decide)

theorem readAll_mark (t : Token) (h : ∀ n, t ≠ .number n) (acc : List Token)
    (ts : List Token) (rest : List Char) :
    readAll acc ((t :: ts).flatMap Token.write ++ rest) =
      readAll (t :: acc) (ts.flatMap Token.write ++ rest) := by
  have hexact : t.IsExact := by
    cases t with
    | number n => exact absurd rfl (h n)
    | _ => trivial
  rw [List.flatMap_cons, List.append_assoc, readAll_write t (fun n hn => absurd hn (h n)),
    Token.next?_exact hexact]
  rfl

theorem reread_number (n : Number) :
    next? (Token.number n).write = none ∧
        readWithin? 0 (String.ofList (Token.number n).write) = none ∨
      ∃ t rest j, next? (Token.number n).write = some (t, rest) ∧
        readWithin? 0 (String.ofList (Token.number n).write) = some j ∧
        j.tokens = [t] ∧ j.nesting = 0 := by
  unfold readWithin?
  rw [String.toList_ofList, readAll_alone]
  cases hfront : next? (Token.number n).write with
  | none => exact Or.inl ⟨rfl, rfl⟩
  | some front =>
      obtain ⟨t, rest⟩ := front
      refine Or.inr ⟨t, rest, ?_⟩
      rcases Token.next?_number hfront with rfl | ⟨m, rfl⟩
      · exact ⟨.null, rfl, rfl, rfl, rfl⟩
      · cases m with
        | int m => exact ⟨.int m, rfl, rfl, rfl, rfl⟩
        | real y => exact ⟨.real y, rfl, rfl, rfl, rfl⟩

theorem readAll_number (n : Number) {rest : List Char} (hrest : EndsNumeral rest)
    (acc : List Token) :
    readAll acc ((Token.number n).write ++ rest) =
      (readWithin? 0 (String.ofList (Token.number n).write)).bind
        fun j => readAll (j.tokens.reverse ++ acc) rest := by
  rw [readAll_write (.number n) (fun _ _ => hrest)]
  rcases reread_number n with ⟨hfront, hread⟩ | ⟨t, r, j, hfront, hread, htokens, -⟩
  · rw [hfront, hread]
    rfl
  · rw [hfront, hread, Option.bind_some, Option.bind_some, htokens]
    rfl

mutual

/-- The text of a document is read into the tokens of what its numbers make of it. -/
theorem readAll_tokens : (j : Json) → (acc : List Token) → (rest : List Char) →
    EndsNumeral rest →
    readAll acc (j.tokens.flatMap Token.write ++ rest) =
      j.reread?.bind fun j' => readAll (j'.tokens.reverse ++ acc) rest
  | .null, acc, rest, _ => readAll_mark .null (by simp) acc [] rest
  | .bool b, acc, rest, _ => readAll_mark (.bool b) (by simp) acc [] rest
  | .str s, acc, rest, _ => readAll_mark (.text s) (by simp) acc [] rest
  | .int n, acc, rest, hrest => by
      rw [reread?, write, chars, tokens, List.flatMap_singleton]
      exact readAll_number (.int n) hrest acc
  | .real x, acc, rest, hrest => by
      rw [reread?, write, chars, tokens, List.flatMap_singleton]
      exact readAll_number (.real x) hrest acc
  | .arr [], acc, rest, _ => by
      rw [tokens, readAll_mark .openList (by simp)]
      exact readAll_mark .closeList (by simp) _ [] rest
  | .arr (x :: items), acc, rest, _ => by
      rw [tokens, readAll_mark .openList (by simp), List.flatMap_append,
        List.append_assoc, readAll_tokens x _ _ (endsNumeral_itemTokens items rest),
        reread?, rereadItems?]
      cases x.reread? with
      | none => rfl
      | some x' =>
          rw [Option.bind_some, Option.bind_some, readAll_itemTokens items]
          cases rereadItems? items with
          | none => rfl
          | some items' => simp [tokens]
  | .obj [], acc, rest, _ => by
      rw [tokens, readAll_mark .openRecord (by simp)]
      exact readAll_mark .closeRecord (by simp) _ [] rest
  | .obj ((n, v) :: fields), acc, rest, _ => by
      rw [tokens, readAll_mark .openRecord (by simp), readAll_mark (.text n) (by simp),
        readAll_mark .colon (by simp), List.flatMap_append, List.append_assoc,
        readAll_tokens v _ _ (endsNumeral_fieldTokens fields rest), reread?, rereadFields?]
      cases v.reread? with
      | none => rfl
      | some v' =>
          rw [Option.bind_some, Option.bind_some, readAll_fieldTokens fields]
          cases rereadFields? fields with
          | none => rfl
          | some fields' => simp [tokens]

theorem readAll_itemTokens : (items : List Json) → (acc : List Token) →
    (rest : List Char) →
    readAll acc ((itemTokens items).flatMap Token.write ++ rest) =
      (rereadItems? items).bind fun items' =>
        readAll ((itemTokens items').reverse ++ acc) rest
  | [], acc, rest => readAll_mark .closeList (by simp) acc [] rest
  | x :: items, acc, rest => by
      rw [itemTokens, readAll_mark .comma (by simp), List.flatMap_append,
        List.append_assoc, readAll_tokens x _ _ (endsNumeral_itemTokens items rest),
        rereadItems?]
      cases x.reread? with
      | none => rfl
      | some x' =>
          rw [Option.bind_some, Option.bind_some, readAll_itemTokens items]
          cases rereadItems? items with
          | none => rfl
          | some items' => simp [itemTokens]

theorem readAll_fieldTokens : (fields : List (String × Json)) → (acc : List Token) →
    (rest : List Char) →
    readAll acc ((fieldTokens fields).flatMap Token.write ++ rest) =
      (rereadFields? fields).bind fun fields' =>
        readAll ((fieldTokens fields').reverse ++ acc) rest
  | [], acc, rest => readAll_mark .closeRecord (by simp) acc [] rest
  | (n, v) :: fields, acc, rest => by
      rw [fieldTokens, readAll_mark .comma (by simp), readAll_mark (.text n) (by simp),
        readAll_mark .colon (by simp), List.flatMap_append, List.append_assoc,
        readAll_tokens v _ _ (endsNumeral_fieldTokens fields rest), rereadFields?]
      cases v.reread? with
      | none => rfl
      | some v' =>
          rw [Option.bind_some, Option.bind_some, readAll_fieldTokens fields]
          cases rereadFields? fields with
          | none => rfl
          | some fields' => simp [fieldTokens]

end

/-! ## From the tokens to the document -/

open ReaderState (put step)

variable {limit : Nat}

theorem step_openList {depth : Nat} (h : depth < limit) (stack : List Frame) :
    step limit ⟨stack, depth, .value⟩ .openList =
      some ⟨.list [] :: stack, depth + 1, .valueOrClose⟩ := if_pos h

theorem step_openRecord {depth : Nat} (h : depth < limit) (stack : List Frame) :
    step limit ⟨stack, depth, .value⟩ .openRecord =
      some ⟨.record [] :: stack, depth + 1, .nameOrClose⟩ := if_pos h

theorem step_valueOrClose {t : Token} (h : t ≠ .closeList) (stack : List Frame)
    (depth : Nat) : step limit ⟨stack, depth, .valueOrClose⟩ t =
      step limit ⟨stack, depth, .value⟩ t := by
  cases t <;> first | rfl | exact absurd rfl h

theorem foldlM_valueOrClose (j : Json) (ts : List Token) (stack : List Frame)
    (depth : Nat) :
    (j.tokens ++ ts).foldlM (step limit) ⟨stack, depth, .valueOrClose⟩ =
      (j.tokens ++ ts).foldlM (step limit) ⟨stack, depth, .value⟩ := by
  have hfirst : ∃ t rest, j.tokens = t :: rest ∧ t ≠ .closeList := by
    cases j with
    | arr items => cases items <;> exact ⟨_, _, rfl, by simp⟩
    | obj fields => cases fields <;> exact ⟨_, _, rfl, by simp⟩
    | _ => exact ⟨_, _, rfl, by simp⟩
  obtain ⟨t, rest, hj, ht⟩ := hfirst
  rw [hj, List.cons_append, List.foldlM_cons, List.foldlM_cons, step_valueOrClose ht]

mutual

theorem foldlM_tokens : (j : Json) → (stack : List Frame) → (depth : Nat) →
    depth + j.nesting ≤ limit → (ts : List Token) →
    (j.tokens ++ ts).foldlM (step limit) ⟨stack, depth, .value⟩ =
      (put j stack depth).bind fun s => ts.foldlM (step limit) s
  | .null, _, _, _, _ => rfl
  | .bool _, _, _, _, _ => rfl
  | .str _, _, _, _, _ => rfl
  | .int _, _, _, _, _ => rfl
  | .real _, _, _, _, _ => rfl
  | .arr [], stack, depth, h, ts => by
      rw [nesting] at h
      rw [tokens, List.cons_append, List.foldlM_cons, step_openList (by omega)]
      rfl
  | .arr (x :: items), stack, depth, h, ts => by
      rw [nesting, itemNesting] at h
      have hx := foldlM_tokens x (.list [] :: stack) (depth + 1) (by omega)
        (itemTokens items ++ ts)
      rw [tokens, List.cons_append, List.foldlM_cons, step_openList (by omega), List.append_assoc]
      show (x.tokens ++ (itemTokens items ++ ts)).foldlM (step limit) _ = _
      rw [foldlM_valueOrClose, hx]
      exact foldlM_itemTokens items [x] stack (depth + 1) (by omega) ts
  | .obj [], stack, depth, h, ts => by
      rw [nesting] at h
      rw [tokens, List.cons_append, List.foldlM_cons, step_openRecord (by omega)]
      rfl
  | .obj ((n, v) :: fields), stack, depth, h, ts => by
      rw [nesting, fieldNesting] at h
      have hv := foldlM_tokens v (.named n :: .record [] :: stack) (depth + 1)
        (by omega) (fieldTokens fields ++ ts)
      rw [tokens, List.cons_append, List.foldlM_cons, step_openRecord (by omega)]
      show (v.tokens ++ fieldTokens fields ++ ts).foldlM (step limit)
        ⟨.named n :: .record [] :: stack, depth + 1, .value⟩ = _
      rw [List.append_assoc, hv]
      exact foldlM_fieldTokens fields [(n, v)] stack (depth + 1) (by omega) ts

theorem foldlM_itemTokens : (items : List Json) → (before : List Json) →
    (stack : List Frame) → (depth : Nat) → depth + itemNesting items ≤ limit →
    (ts : List Token) →
    (itemTokens items ++ ts).foldlM (step limit)
        ⟨.list before :: stack, depth, .separator⟩ =
      (put (.arr (before.reverse ++ items)) stack (depth - 1)).bind
        fun s => ts.foldlM (step limit) s
  | [], before, stack, depth, _, ts => by
      rw [List.append_nil]
      rfl
  | x :: items, before, stack, depth, h, ts => by
      rw [itemNesting] at h
      have hx := foldlM_tokens x (.list before :: stack) depth (by omega)
        (itemTokens items ++ ts)
      have hrest := foldlM_itemTokens items (x :: before) stack depth (by omega) ts
      rw [itemTokens, List.cons_append, List.foldlM_cons, List.append_assoc]
      show (x.tokens ++ (itemTokens items ++ ts)).foldlM (step limit)
        ⟨.list before :: stack, depth, .value⟩ = _
      rw [hx]
      show (itemTokens items ++ ts).foldlM (step limit)
        ⟨.list (x :: before) :: stack, depth, .separator⟩ = _
      rw [hrest, List.reverse_cons, List.append_assoc]
      rfl

theorem foldlM_fieldTokens : (fields : List (String × Json)) →
    (before : List (String × Json)) → (stack : List Frame) → (depth : Nat) →
    depth + fieldNesting fields ≤ limit → (ts : List Token) →
    (fieldTokens fields ++ ts).foldlM (step limit)
        ⟨.record before :: stack, depth, .separator⟩ =
      (put (.obj (before.reverse ++ fields)) stack (depth - 1)).bind
        fun s => ts.foldlM (step limit) s
  | [], before, stack, depth, _, ts => by
      rw [List.append_nil]
      rfl
  | (n, v) :: fields, before, stack, depth, h, ts => by
      rw [fieldNesting] at h
      have hv := foldlM_tokens v (.named n :: .record before :: stack) depth
        (by omega) (fieldTokens fields ++ ts)
      have hrest := foldlM_fieldTokens fields ((n, v) :: before) stack depth
        (by omega) ts
      rw [fieldTokens, List.cons_append, List.foldlM_cons]
      show (v.tokens ++ fieldTokens fields ++ ts).foldlM (step limit)
        ⟨.named n :: .record before :: stack, depth, .value⟩ = _
      rw [List.append_assoc, hv]
      show (fieldTokens fields ++ ts).foldlM (step limit)
        ⟨.record ((n, v) :: before) :: stack, depth, .separator⟩ = _
      rw [hrest, List.reverse_cons, List.append_assoc]
      rfl

end

theorem step_openList_deep (stack : List Frame) :
    step limit ⟨stack, limit, .value⟩ .openList = none := if_neg (Nat.lt_irrefl limit)

theorem step_openRecord_deep (stack : List Frame) :
    step limit ⟨stack, limit, .value⟩ .openRecord = none := if_neg (Nat.lt_irrefl limit)

mutual

/-- Where there is no room for all brackets of a document, its tokens stop the machine. -/
theorem foldlM_deep : (j : Json) → (stack : List Frame) → (depth : Nat) →
    depth ≤ limit → limit < depth + j.nesting → (ts : List Token) →
    (j.tokens ++ ts).foldlM (step limit) ⟨stack, depth, .value⟩ = none
  | .null, _, _, hroom, h, _ | .bool _, _, _, hroom, h, _ | .str _, _, _, hroom, h, _
  | .int _, _, _, hroom, h, _ | .real _, _, _, hroom, h, _ =>
      absurd h (Nat.not_lt.2 hroom)
  | .arr [], stack, depth, hroom, h, ts => by
      rw [nesting, itemNesting] at h
      obtain rfl : depth = limit := by omega
      rw [tokens, List.cons_append, List.foldlM_cons, step_openList_deep]
      rfl
  | .arr (x :: items), stack, depth, hroom, h, ts => by
      rw [nesting, itemNesting] at h
      rcases Nat.eq_or_lt_of_le hroom with rfl | hroom
      · rw [tokens, List.cons_append, List.foldlM_cons, step_openList_deep]
        rfl
      · rw [tokens, List.cons_append, List.foldlM_cons, step_openList hroom, List.append_assoc]
        show (x.tokens ++ (itemTokens items ++ ts)).foldlM (step limit) _ = _
        rw [foldlM_valueOrClose]
        rcases Nat.lt_or_ge limit (depth + 1 + x.nesting) with hx | hx
        · exact foldlM_deep x _ _ hroom hx _
        · rw [foldlM_tokens x _ _ hx]
          exact foldlM_deepItems items [x] stack (depth + 1) hroom (by omega) ts
  | .obj [], stack, depth, hroom, h, ts => by
      rw [nesting, fieldNesting] at h
      obtain rfl : depth = limit := by omega
      rw [tokens, List.cons_append, List.foldlM_cons, step_openRecord_deep]
      rfl
  | .obj ((n, v) :: fields), stack, depth, hroom, h, ts => by
      rw [nesting, fieldNesting] at h
      rcases Nat.eq_or_lt_of_le hroom with rfl | hroom
      · rw [tokens, List.cons_append, List.foldlM_cons, step_openRecord_deep]
        rfl
      · rw [tokens, List.cons_append, List.foldlM_cons, step_openRecord hroom]
        show (v.tokens ++ fieldTokens fields ++ ts).foldlM (step limit)
          ⟨.named n :: .record [] :: stack, depth + 1, .value⟩ = _
        rw [List.append_assoc]
        rcases Nat.lt_or_ge limit (depth + 1 + v.nesting) with hv | hv
        · exact foldlM_deep v _ _ hroom hv _
        · rw [foldlM_tokens v _ _ hv]
          exact foldlM_deepFields fields [(n, v)] stack (depth + 1) hroom (by omega) ts

theorem foldlM_deepItems : (items : List Json) → (before : List Json) →
    (stack : List Frame) → (depth : Nat) → depth ≤ limit →
    limit < depth + itemNesting items → (ts : List Token) →
    (itemTokens items ++ ts).foldlM (step limit)
        ⟨.list before :: stack, depth, .separator⟩ = none
  | [], _, _, _, hroom, h, _ => by
      rw [itemNesting] at h
      omega
  | x :: items, before, stack, depth, hroom, h, ts => by
      rw [itemNesting] at h
      rw [itemTokens, List.cons_append, List.foldlM_cons, List.append_assoc]
      show (x.tokens ++ (itemTokens items ++ ts)).foldlM (step limit)
        ⟨.list before :: stack, depth, .value⟩ = _
      rcases Nat.lt_or_ge limit (depth + x.nesting) with hx | hx
      · exact foldlM_deep x _ _ hroom hx _
      · rw [foldlM_tokens x _ _ hx]
        exact foldlM_deepItems items (x :: before) stack depth hroom (by omega) ts

theorem foldlM_deepFields : (fields : List (String × Json)) →
    (before : List (String × Json)) → (stack : List Frame) → (depth : Nat) →
    depth ≤ limit → limit < depth + fieldNesting fields → (ts : List Token) →
    (fieldTokens fields ++ ts).foldlM (step limit)
        ⟨.record before :: stack, depth, .separator⟩ = none
  | [], _, _, _, hroom, h, _ => by
      rw [fieldNesting] at h
      omega
  | (n, v) :: fields, before, stack, depth, hroom, h, ts => by
      rw [fieldNesting] at h
      rw [fieldTokens, List.cons_append, List.foldlM_cons]
      show (v.tokens ++ fieldTokens fields ++ ts).foldlM (step limit)
        ⟨.named n :: .record before :: stack, depth, .value⟩ = _
      rw [List.append_assoc]
      rcases Nat.lt_or_ge limit (depth + v.nesting) with hv | hv
      · exact foldlM_deep v _ _ hroom hv _
      · rw [foldlM_tokens v _ _ hv]
        exact foldlM_deepFields fields ((n, v) :: before) stack depth hroom (by omega) ts

end

/-! ## From the text to the document -/

theorem nesting_number {n : Number} {j : Json}
    (h : readWithin? 0 (String.ofList (Token.number n).write) = some j) : j.nesting = 0 := by
  rcases reread_number n with ⟨-, hnone⟩ | ⟨-, -, j', -, hread, -, hflat⟩
  · rw [hnone] at h
    cases h
  · rw [hread] at h
    obtain rfl := Option.some.inj h
    exact hflat

mutual

theorem nesting_reread : {j j' : Json} → j.reread? = some j' → j'.nesting = j.nesting
  | .null, _, h | .bool _, _, h | .str _, _, h => by
      obtain rfl := Option.some.inj h
      rfl
  | .int n, _, h => by
      rw [reread?, write, chars, tokens, List.flatMap_singleton] at h
      exact nesting_number h
  | .real x, _, h => by
      rw [reread?, write, chars, tokens, List.flatMap_singleton] at h
      exact nesting_number h
  | .arr _, _, h => by
      obtain ⟨items', hitems, rfl⟩ := Option.map_eq_some_iff.1 h
      rw [nesting, nesting, itemNesting_reread hitems]
  | .obj _, _, h => by
      obtain ⟨fields', hfields, rfl⟩ := Option.map_eq_some_iff.1 h
      rw [nesting, nesting, fieldNesting_reread hfields]

theorem itemNesting_reread : {items items' : List Json} →
    rereadItems? items = some items' → itemNesting items' = itemNesting items
  | [], _, h => by
      obtain rfl := Option.some.inj h
      rfl
  | _ :: _, _, h => by
      obtain ⟨y, hy, h⟩ := Option.bind_eq_some_iff.1 h
      obtain ⟨rest', hrest, rfl⟩ := Option.map_eq_some_iff.1 h
      rw [itemNesting, itemNesting, nesting_reread hy, itemNesting_reread hrest]

theorem fieldNesting_reread : {fields fields' : List (String × Json)} →
    rereadFields? fields = some fields' → fieldNesting fields' = fieldNesting fields
  | [], _, h => by
      obtain rfl := Option.some.inj h
      rfl
  | (_, _) :: _, _, h => by
      obtain ⟨w, hw, h⟩ := Option.bind_eq_some_iff.1 h
      obtain ⟨rest', hrest, rfl⟩ := Option.map_eq_some_iff.1 h
      rw [fieldNesting, fieldNesting, nesting_reread hw, fieldNesting_reread hrest]

end

/-- A document's text is read as what its numbers make of the document, if its brackets
do not nest too deep, and is not read at all if they do. -/
theorem readWithin?_write_eq (limit : Nat) (j : Json) :
    readWithin? limit j.write = if j.nesting ≤ limit then j.reread? else none := by
  have hchars := readAll_tokens j [] [] endsNumeral_nil
  rw [List.append_nil] at hchars
  unfold readWithin? write chars
  rw [String.toList_ofList, hchars]
  cases hread : j.reread? with
  | none => simp
  | some j' =>
      rw [Option.bind_some, List.append_nil, readAll, List.reverse_reverse, Option.bind_some,
        ofTokens?, ← nesting_reread hread]
      show (List.foldlM (step limit) ⟨[], 0, .value⟩ j'.tokens).bind _ = _
      split
      · next hdeep =>
          have hmachine := foldlM_tokens j' [] 0 (show 0 + j'.nesting ≤ limit by omega) []
          rw [List.append_nil] at hmachine
          rw [hmachine]
          rfl
      · next hdeep =>
          have hstop := foldlM_deep j' [] 0 (Nat.zero_le _)
            (show limit < 0 + j'.nesting by omega) []
          rw [List.append_nil] at hstop
          rw [hstop]
          rfl

/-! ## Documents without real numbers -/

mutual

/-- Whether the text of a document says everything about it: there are no real
numbers, and the whole ones are within the range that is read as such. -/
def IsExact : Json → Prop
  | .int n => Token.IsWhole n
  | .real _ => False
  | .arr items => AreExact items
  | .obj fields => FieldsExact fields
  | _ => True

def AreExact : List Json → Prop
  | [] => True
  | x :: rest => IsExact x ∧ AreExact rest

def FieldsExact : List (String × Json) → Prop
  | [] => True
  | (_, v) :: rest => IsExact v ∧ FieldsExact rest

end

theorem reread_whole {n : Int} (h : Token.IsWhole n) :
    (Json.int n).reread? = some (.int n) := by
  have hexact : (Token.number (.int n)).IsExact := h
  rw [reread?, write, chars, tokens, List.flatMap_singleton]
  unfold readWithin?
  rw [String.toList_ofList, readAll_alone, Token.next?_exact hexact]
  rfl

mutual

theorem reread_exact : {j : Json} → IsExact j → j.reread? = some j
  | .null, _ | .bool _, _ | .str _, _ => rfl
  | .int _, h => reread_whole h
  | .real _, h => h.elim
  | .arr _, h => by rw [reread?, reread_exactItems h, Option.map_some]
  | .obj _, h => by rw [reread?, reread_exactFields h, Option.map_some]

theorem reread_exactItems : {items : List Json} → AreExact items →
    rereadItems? items = some items
  | [], _ => rfl
  | _ :: _, ⟨hx, hrest⟩ => by
      rw [rereadItems?, reread_exact hx, Option.bind_some, reread_exactItems hrest,
        Option.map_some]

theorem reread_exactFields : {fields : List (String × Json)} → FieldsExact fields →
    rereadFields? fields = some fields
  | [], _ => rfl
  | (_, _) :: _, ⟨hv, hrest⟩ => by
      rw [rereadFields?, reread_exact hv, Option.bind_some, reread_exactFields hrest,
        Option.map_some]

end

theorem readWithin?_write {j : Json} (hexact : IsExact j) (hdeep : j.nesting ≤ limit) :
    readWithin? limit j.write = some j := by
  rw [readWithin?_write_eq, if_pos hdeep, reread_exact hexact]

end Metering.Json
