import Metering.Proofs.Ledger

/-!
# What a reader sees

A reader asks for the events after the one it saw last. What it is answered
depends only on the rows that stand behind that event: `eventsAfter_of_suffix`
says that they are cut to the limit and decoded, and nothing else happens. The
decoding either gives one event for each row, in order, or fails for a row
that is damaged; it never says that an event is missing.

`past` is the same question put to a plain list of rows, with no ledger and
no identifiers in it, for saying what a reader should have seen.
-/

namespace Metering

theorem mapM_eq_ok {ε α β : Type} {f : α → Except ε β} {xs : List α}
    {ys : List β} : xs.mapM f = .ok ys ↔ xs.map f = ys.map .ok := by
  induction xs generalizing ys with
  | nil => cases ys <;> simp [pure, Except.pure]
  | cons x xs ih =>
      rw [List.mapM_cons, List.map_cons]
      constructor
      · intro h
        cases hx : f x with
        | error e => rw [hx] at h; cases h
        | ok y =>
            cases hxs : xs.mapM f with
            | error e => rw [hx, hxs] at h; cases h
            | ok zs =>
                rw [hx, hxs] at h
                obtain rfl := Except.ok.inj h
                rw [ih.1 hxs, List.map_cons]
      · intro h
        cases ys with
        | nil => cases h
        | cons y ys =>
            obtain ⟨hx, hxs⟩ := List.cons.inj h
            rw [hx, ih.2 hxs]
            rfl

theorem mapM_mapM_eq_ok {ε α β γ : Type} {f : α → Except ε β} {g : β → Except ε γ}
    {xs : List α} {zs : List γ} :
    (xs.mapM f >>= fun ys => ys.mapM g) = .ok zs ↔
      xs.map (fun x => f x >>= g) = zs.map .ok := by
  constructor
  · intro h
    cases hxs : xs.mapM f with
    | error e => rw [hxs] at h; cases h
    | ok ys =>
        rw [hxs] at h
        have hmap := mapM_eq_ok.1 hxs
        have hys : ys.map g = zs.map .ok := mapM_eq_ok.1 h
        calc xs.map (fun x => f x >>= g)
            = (xs.map f).map (· >>= g) := by rw [List.map_map]; rfl
          _ = ys.map g := by rw [hmap, List.map_map]; rfl
          _ = zs.map .ok := hys
  · intro h
    induction xs generalizing zs with
    | nil =>
        cases zs with
        | nil => rfl
        | cons z zs => cases h
    | cons x xs ih =>
        cases zs with
        | nil => cases h
        | cons z zs =>
            obtain ⟨hx, hxs⟩ := List.cons.inj h
            have hx : f x >>= g = .ok z := hx
            have hrest := ih hxs
            cases hf : f x with
            | error e => rw [hf] at hx; cases hx
            | ok y =>
                cases hm : xs.mapM f with
                | error e => rw [hm] at hrest; cases hrest
                | ok ys =>
                    rw [hf] at hx
                    rw [hm] at hrest
                    rw [List.mapM_cons, hf, hm]
                    show (y :: ys).mapM g = _
                    rw [List.mapM_cons, show g y = .ok z from hx,
                      show ys.mapM g = .ok zs from hrest]
                    rfl

theorem exists_of_mapM_eq_error {ε α β : Type} {f : α → Except ε β} {xs : List α}
    {e : ε} (h : xs.mapM f = .error e) : ∃ x ∈ xs, f x = .error e := by
  induction xs with
  | nil => cases h
  | cons x xs ih =>
      rw [List.mapM_cons] at h
      cases hx : f x with
      | error e' =>
          rw [hx] at h
          exact ⟨x, by simp, hx.trans (congrArg _ (Except.error.inj h))⟩
      | ok y =>
          cases hxs : xs.mapM f with
          | error e' =>
              rw [hx, hxs] at h
              obtain ⟨z, hz, hfz⟩ := ih (hxs.trans (congrArg _ (Except.error.inj h)))
              exact ⟨z, List.mem_cons_of_mem _ hz, hfz⟩
          | ok ys => rw [hx, hxs] at h; cases h

namespace EventRow

/-- The first pass over rows, which looks at the states. -/
def withState (r : EventRow) : Except Error (EventRow × EventState) := do
  pure (r, ← r.decodeState)

/-- The second pass, which looks at the payloads. -/
def withPayload : EventRow × EventState → Except Error Event
  | (r, state) => do pure (r.toEvent state (← r.decodePayload))

theorem decode_eq (r : EventRow) : r.decode = r.withState >>= withPayload := by
  unfold decode withState
  cases r.decodeState <;> rfl

theorem decodeAll_eq (rows : List EventRow) :
    decodeAll rows = rows.mapM withState >>= fun states => states.mapM withPayload :=
  rfl

/-- Rows are decoded as a whole exactly if each of them is. -/
theorem decodeAll_eq_ok {rows : List EventRow} {es : List Event} :
    decodeAll rows = .ok es ↔ rows.map decode = es.map .ok := by
  rw [decodeAll_eq, mapM_mapM_eq_ok, funext decode_eq]

theorem exists_of_mem_decodeAll {rows : List EventRow} {es : List Event}
    (h : decodeAll rows = .ok es) {e : Event} (he : e ∈ es) :
    ∃ r ∈ rows, r.decode = .ok e := by
  have hin : Except.ok e ∈ es.map (Except.ok (ε := Error)) := List.mem_map_of_mem he
  rw [← decodeAll_eq_ok.1 h] at hin
  exact List.mem_map.1 hin

theorem guid_of_decode {r : EventRow} {e : Event} (h : r.decode = .ok e) :
    e.guid = r.guid := by
  unfold decode at h
  cases hs : r.decodeState with
  | error err => rw [hs] at h; cases h
  | ok state =>
      cases hp : r.decodePayload with
      | error err => rw [hs, hp] at h; cases h
      | ok payload =>
          rw [hs, hp] at h
          obtain rfl := Except.ok.inj h
          rfl

theorem map_guid_of_decode {rows : List EventRow} {es : List Event}
    (h : rows.map decode = es.map .ok) : es.map (·.guid) = rows.map (·.guid) := by
  induction rows generalizing es with
  | nil =>
      obtain rfl : es = [] := List.map_eq_nil_iff.1 h.symm
      rfl
  | cons r rows ih =>
      cases es with
      | nil => cases h
      | cons e es =>
          obtain ⟨hr, hrows⟩ := List.cons.inj h
          rw [List.map_cons, List.map_cons, guid_of_decode hr, ih hrows]

theorem exists_of_isOk {r : EventRow} (h : r.decode.isOk = true) : ∃ e, r.decode = .ok e := by
  cases hdecode : r.decode with
  | error e => rw [hdecode] at h; cases h
  | ok e => exact ⟨e, rfl⟩

theorem exists_decodeAll {rows : List EventRow}
    (h : ∀ r ∈ rows, ∃ e, r.decode = .ok e) : ∃ es, decodeAll rows = .ok es := by
  simp only [decodeAll_eq_ok]
  induction rows with
  | nil => exact ⟨[], rfl⟩
  | cons r rows ih =>
      obtain ⟨e, he⟩ := h r (by simp)
      obtain ⟨es, hes⟩ := ih fun s hs => h s (List.mem_cons_of_mem _ hs)
      exact ⟨e :: es, by rw [List.map_cons, List.map_cons, he, hes]⟩

theorem decodeAll_ne_notFound (rows : List EventRow) (what : String) :
    decodeAll rows ≠ .error (.notFound what) := by
  intro h
  rw [decodeAll_eq] at h
  cases hrows : rows.mapM withState with
  | error e =>
      rw [hrows] at h
      obtain rfl := Except.error.inj h
      obtain ⟨r, -, hr⟩ := exists_of_mapM_eq_error hrows
      unfold withState decodeState at hr
      cases hs : EventState.ofName? r.state <;> rw [hs] at hr <;> cases hr
  | ok states =>
      rw [hrows] at h
      obtain ⟨⟨r, state⟩, -, hs⟩ := exists_of_mapM_eq_error (f := withPayload) h
      simp only [withPayload, decodePayload, Error.malformedDocument] at hs
      cases hj : Json.read? r.payload <;> rw [hj] at hs <;> cases hs

end EventRow

namespace Ledger

/-- The rows of a list that stand behind the one with a guid. -/
def past (guid : String) (rows : List EventRow) : List EventRow :=
  (rows.dropWhile (·.guid ≠ guid)).tail

theorem past_of_suffix {rows rest : List EventRow} {w : EventRow}
    (hguids : rows.Pairwise (·.guid ≠ ·.guid)) (h : w :: rest <:+ rows) :
    past w.guid rows = rest := by
  obtain ⟨front, rfl⟩ := h
  unfold past
  rw [List.dropWhile_append_of_pos]
  · rw [List.dropWhile_cons_of_neg (by simp), List.tail_cons]
  · intro r hr
    have := (List.pairwise_append.1 hguids).2.2 r hr w (by simp)
    simpa using this

theorem past_append {guid : String} {rows : List EventRow} (more : List EventRow)
    (h : ∃ r ∈ rows, r.guid = guid) :
    past guid (rows ++ more) = past guid rows ++ more := by
  unfold past
  obtain ⟨r, hr, hguid⟩ := h
  induction rows with
  | nil => cases hr
  | cons x rows ih =>
      by_cases hx : x.guid = guid
      · rw [List.cons_append, List.dropWhile_cons_of_neg (by simpa using hx),
          List.dropWhile_cons_of_neg (by simpa using hx)]
        rfl
      · rw [List.cons_append, List.dropWhile_cons_of_pos (by simpa using hx),
          List.dropWhile_cons_of_pos (by simpa using hx)]
        refine ih ((List.mem_cons.1 hr).resolve_left ?_)
        rintro rfl
        exact hx hguid

theorem filter_of_suffix {rows rest : List EventRow} {w : EventRow}
    (hrising : rows.Pairwise (·.id < ·.id)) (h : w :: rest <:+ rows) :
    rows.filter (w.id < ·.id) = rest := by
  obtain ⟨front, rfl⟩ := h
  obtain ⟨-, htail, hcross⟩ := List.pairwise_append.1 hrising
  obtain ⟨hw, -⟩ := List.pairwise_cons.1 htail
  have hlow : ∀ r ∈ front, ¬ w.id < r.id := fun r hr => by
    have := hcross r hr w (by simp)
    omega
  rw [List.filter_append, List.filter_eq_nil_iff.2 (by simpa using hlow),
    List.nil_append, List.filter_cons_of_neg (by simp),
    List.filter_eq_self.2 (by simpa using hw)]

theorem eventsAfter_of_mem {l : Ledger} (hl : l.WellFormed) {w : EventRow}
    (hw : w ∈ l.rows) (k : Kind) (limit : Nat) :
    l.eventsAfter k (some w.guid) limit =
      EventRow.decodeAll (Page.take limit (l.rows.filter (w.id < ·.id))) := by
  unfold eventsAfter
  simp only [hl.row?_guid hw]
  rfl

theorem eventsAfter_none {l : Ledger} (hl : l.WellFormed) (k : Kind) (limit : Nat) :
    l.eventsAfter k none limit = EventRow.decodeAll (Page.take limit l.rows) := by
  have hall : l.rows.filter (0 < ·.id) = l.rows :=
    List.filter_eq_self.2 fun r hr => by simpa using hl.positive r hr
  rw [← hall]
  rfl

theorem eventsAfter_of_missing {l : Ledger} {guid : String}
    (h : ∀ r ∈ l.rows, r.guid ≠ guid) (k : Kind) (limit : Nat) :
    l.eventsAfter k (some guid) limit = .error (missing k guid) := by
  have hrow : l.row? guid = none := by
    unfold row?
    rw [List.find?_eq_none]
    exact fun r hr => by simpa using h r hr
  unfold eventsAfter
  simp only [hrow]
  rfl

/-- A reader is answered with what follows the event that it names. -/
theorem eventsAfter_of_suffix {l : Ledger} (hl : l.WellFormed) {w : EventRow}
    {rest : List EventRow} (h : w :: rest <:+ l.rows) (k : Kind) (limit : Nat) :
    l.eventsAfter k (some w.guid) limit =
      EventRow.decodeAll (Page.take limit rest) := by
  rw [eventsAfter_of_mem hl (h.subset (by simp)), filter_of_suffix hl.rising h]

end Ledger

end Metering
