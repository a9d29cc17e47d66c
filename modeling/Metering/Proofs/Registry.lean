import Metering.Consumer

/-!
# Registries

No consumer is registered twice, so what a registry says of a consumer is one
registration or none. Each operation changes what it says of the consumer that
it names and of no other, and none of them registers anyone twice.
-/

namespace Metering.Registry

/-- No consumer is registered twice. -/
def Distinct (r : Registry) : Prop := r.Pairwise (·.consumer ≠ ·.consumer)

theorem Distinct.filter {r : Registry} (h : r.Distinct) (q : Registration → Bool) :
    Distinct (r.filter q) := List.Pairwise.filter q h

theorem mem_of_find? {r : Registry} {c : String} {x : Registration}
    (h : r.find? c = some x) : x ∈ r ∧ x.consumer = c :=
  ⟨List.mem_of_find?_eq_some h, by simpa using List.find?_some h⟩

theorem find?_eq_none {r : Registry} {c : String} :
    r.find? c = none ↔ ∀ x ∈ r, x.consumer ≠ c := by
  unfold find?
  simp

theorem Distinct.find?_eq_some {r : Registry} (h : r.Distinct) {x : Registration}
    (hx : x ∈ r) : r.find? x.consumer = some x := by
  induction r with
  | nil => cases hx
  | cons y rest ih =>
      obtain ⟨hy, hrest⟩ := List.pairwise_cons.1 h
      rcases List.mem_cons.1 hx with rfl | hx
      · exact List.find?_cons_of_pos (by simp)
      · exact (List.find?_cons_of_neg (by simpa using hy x hx)).trans (ih hrest hx)

theorem Distinct.find?_filter {r : Registry} (h : r.Distinct)
    {q : Registration → Bool} {c : String} {x : Registration}
    (hx : find? (r.filter q) c = some x) : r.find? c = some x ∧ q x = true := by
  obtain ⟨hmem, rfl⟩ := mem_of_find? hx
  obtain ⟨hmem, hq⟩ := List.mem_filter.1 hmem
  exact ⟨h.find?_eq_some hmem, hq⟩

/-! ## Registering -/

theorem register_ok {now : Int} {consumer watermark : String} {r r' : Registry}
    {x : Registration} (h : r.register now consumer watermark = .ok (x, r')) :
    x.consumer = consumer ∧ x.watermark = watermark ∧ r.find? consumer = none ∧
      r' = r ++ [x] := by
  unfold register at h
  cases h₁ : checkGuid "consumer_guid" consumer with
  | error e => rw [h₁] at h; cases h
  | ok u =>
      cases h₂ : checkGuid "last_processed_guid" watermark with
      | error e => rw [h₁, h₂] at h; cases h
      | ok u =>
          rw [h₁, h₂] at h
          cases hf : r.find? consumer with
          | some old => rw [hf] at h; cases h
          | none =>
              rw [hf] at h
              obtain ⟨rfl, rfl⟩ := Prod.mk.inj (Except.ok.inj h)
              exact ⟨rfl, rfl, rfl, rfl⟩

theorem Distinct.register {now : Int} {consumer watermark : String}
    {r r' : Registry} {x : Registration} (hr : r.Distinct)
    (h : r.register now consumer watermark = .ok (x, r')) : r'.Distinct := by
  obtain ⟨rfl, -, hnone, rfl⟩ := register_ok h
  refine List.pairwise_append.2 ⟨hr, List.pairwise_singleton _ _, ?_⟩
  intro y hy z hz
  rw [List.mem_singleton.1 hz]
  exact find?_eq_none.1 hnone y hy

theorem find?_register {now : Int} {consumer watermark c : String}
    {r r' : Registry} {x : Registration} (hne : consumer ≠ c)
    (h : r.register now consumer watermark = .ok (x, r')) :
    r'.find? c = r.find? c := by
  obtain ⟨rfl, -, -, rfl⟩ := register_ok h
  unfold find?
  rw [List.find?_append]
  simp [hne]

theorem find?_register_self {now : Int} {consumer watermark : String} {r r' : Registry}
    {x : Registration} (h : r.register now consumer watermark = .ok (x, r')) :
    r'.find? consumer = some x ∧ x.watermark = watermark := by
  obtain ⟨rfl, hmark, hnone, rfl⟩ := register_ok h
  refine ⟨?_, hmark⟩
  unfold find? at hnone ⊢
  rw [List.find?_append, hnone]
  simp

/-! ## Moving a watermark -/

theorem update_ok {now : Int} {consumer watermark : String} {r r' : Registry}
    {x : Registration} (h : r.update now consumer watermark = .ok (x, r')) :
    ∃ old, r.find? consumer = some old ∧
      x = { old with watermark := watermark, updatedAt := now } ∧
      r' = r.map fun y => if y.consumer = consumer then x else y := by
  unfold update at h
  cases h₁ : checkGuid "last_processed_guid" watermark with
  | error e => rw [h₁] at h; cases h
  | ok u =>
      cases hf : r.find? consumer with
      | none => rw [h₁, hf] at h; cases h
      | some old =>
          rw [h₁, hf] at h
          obtain ⟨rfl, rfl⟩ := Prod.mk.inj (Except.ok.inj h)
          exact ⟨old, rfl, rfl, rfl⟩

theorem consumer_update {now : Int} {consumer watermark : String}
    {r r' : Registry} {x : Registration}
    (h : r.update now consumer watermark = .ok (x, r')) :
    r'.map (·.consumer) = r.map (·.consumer) := by
  obtain ⟨old, hold, rfl, rfl⟩ := update_ok h
  rw [List.map_map]
  refine List.map_congr_left fun y _ => ?_
  simp only [Function.comp]
  split
  · next hy => rw [hy]; exact (mem_of_find? hold).2
  · rfl

theorem Distinct.update {now : Int} {consumer watermark : String}
    {r r' : Registry} {x : Registration} (hr : r.Distinct)
    (h : r.update now consumer watermark = .ok (x, r')) : r'.Distinct := by
  have hnames := List.pairwise_map.2 hr
  rw [← consumer_update h] at hnames
  exact List.pairwise_map.1 hnames

theorem find?_update {now : Int} {consumer watermark c : String}
    {r r' : Registry} {x : Registration} (hne : consumer ≠ c)
    (h : r.update now consumer watermark = .ok (x, r')) :
    r'.find? c = r.find? c := by
  obtain ⟨old, hold, rfl, rfl⟩ := update_ok h
  have hname := (mem_of_find? hold).2
  clear h hold
  induction r with
  | nil => rfl
  | cons y rest ih =>
      unfold find? at ih ⊢
      rw [List.map_cons]
      by_cases hy : y.consumer = consumer
      · rw [if_pos hy, List.find?_cons_of_neg (by simpa [hname] using hne),
          List.find?_cons_of_neg (by simpa [hy] using hne), ih]
      · rw [if_neg hy, List.find?_cons, List.find?_cons, ih]

theorem find?_update_self {now : Int} {consumer watermark : String}
    {r r' : Registry} {x : Registration}
    (h : r.update now consumer watermark = .ok (x, r')) :
    r'.find? consumer = some x ∧ x.watermark = watermark := by
  obtain ⟨old, hold, rfl, rfl⟩ := update_ok h
  refine ⟨?_, rfl⟩
  have hname := (mem_of_find? hold).2
  have hmem := (mem_of_find? hold).1
  clear h hold
  induction r with
  | nil => cases hmem
  | cons y rest ih =>
      unfold find? at ih ⊢
      rw [List.map_cons]
      by_cases hy : y.consumer = consumer
      · rw [if_pos hy, List.find?_cons_of_pos (by simpa using hname)]
      · rw [if_neg hy, List.find?_cons_of_neg (by simpa using hy)]
        refine ih ((List.mem_cons.1 hmem).resolve_left ?_)
        rintro rfl
        exact hy hname

theorem deregister_ok {consumer : String} {r r' : Registry}
    (h : r.deregister consumer = .ok r') :
    r' = r.filter (·.consumer ≠ consumer) := by
  unfold deregister at h
  split at h
  · exact (Except.ok.inj h).symm
  · cases h

theorem find?_deregister {consumer c : String} {r r' : Registry}
    (hne : consumer ≠ c) (h : r.deregister consumer = .ok r') :
    r'.find? c = r.find? c := by
  rw [deregister_ok h]
  clear h
  induction r with
  | nil => rfl
  | cons y rest ih =>
      unfold find? at ih ⊢
      by_cases hy : y.consumer = consumer
      · rw [List.filter_cons_of_neg (by simpa using hy),
          List.find?_cons_of_neg (by simpa [hy] using hne), ih]
      · rw [List.filter_cons_of_pos (by simpa using hy), List.find?_cons,
          List.find?_cons, ih]

end Metering.Registry
