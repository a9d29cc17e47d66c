import Metering.Inventory.Basic
import Mathlib.Data.Finset.Card
import Mathlib.Order.Interval.Finset.Nat

/-!
# Tables with two keys

The rows of a table are known by their number and by their guid, so to look a
row up is to say which row it is. Every operation on a table leaves it so. Of an
inventory more is to be said, since spaces name organizations and service
instances name spaces by number: what is named is there, for it could not be
removed.
-/

namespace Metering

theorem find?_key_eq_some {α κ : Type} [DecidableEq κ] {key : α → κ} {xs : List α}
    (hnodup : (xs.map key).Nodup) {k : κ} {x : α} :
    xs.find? (fun y => key y = k) = some x ↔ x ∈ xs ∧ key x = k := by
  induction xs with
  | nil => simp
  | cons y ys ih =>
      obtain ⟨hy, hys⟩ := List.nodup_cons.1 hnodup
      rw [List.find?_cons]
      split
      · next hkey =>
          have hkey : key y = k := of_decide_eq_true hkey
          rw [Option.some.injEq, List.mem_cons]
          constructor
          · rintro rfl
            exact ⟨Or.inl rfl, hkey⟩
          · rintro ⟨rfl | hx, hk⟩
            · rfl
            · exact absurd (List.mem_map.2 ⟨x, hx, hk.trans hkey.symm⟩) hy
      · next hkey =>
          have hkey : key y ≠ k := of_decide_eq_false hkey
          rw [ih hys, List.mem_cons]
          constructor
          · exact fun ⟨hx, hk⟩ => ⟨Or.inr hx, hk⟩
          · rintro ⟨rfl | hx, hk⟩
            · exact absurd hk hkey
            · exact ⟨hx, hk⟩

theorem filter_key_eq {α κ : Type} [DecidableEq κ] {key : α → κ} {xs : List α}
    (hnodup : (xs.map key).Nodup) (k : κ) :
    xs.filter (fun y => key y = k) = (xs.find? fun y => key y = k).toList := by
  induction xs with
  | nil => rfl
  | cons y ys ih =>
      obtain ⟨hy, hys⟩ := List.nodup_cons.1 hnodup
      rw [List.find?_cons, List.filter_cons]
      by_cases hkey : key y = k
      · have hrest : ys.filter (fun z => key z = k) = [] := by
          rw [List.filter_eq_nil_iff]
          intro z hz hsame
          have hsame : key z = k := of_decide_eq_true hsame
          exact hy (List.mem_map.2 ⟨z, hz, hsame.trans hkey.symm⟩)
        rw [decide_eq_true hkey, if_pos rfl, hrest]
        rfl
      · rw [decide_eq_false hkey, if_neg Bool.false_ne_true]
        exact ih hys

namespace Inventory

namespace Table

variable {α : Type} {t : Table α}

/-- A table as its operations leave it. -/
structure IsKept (t : Table α) : Prop where
  ids : (t.entries.map (·.id)).Nodup
  guids : (t.entries.map (·.guid)).Nodup
  issued : ∀ e ∈ t.entries, 0 < e.id ∧ e.id ≤ t.issued

theorem IsKept.withGuid?_eq_some (h : t.IsKept) {guid : String} {e : Entry α} :
    t.withGuid? guid = some e ↔ e ∈ t.entries ∧ e.guid = guid :=
  find?_key_eq_some h.guids

theorem IsKept.withId?_eq_some (h : t.IsKept) {id : Nat} {e : Entry α} :
    t.withId? id = some e ↔ e ∈ t.entries ∧ e.id = id :=
  find?_key_eq_some h.ids

theorem IsKept.length_le (h : t.IsKept) : t.entries.length ≤ t.issued := by
  have hsub : (t.entries.map (·.id)).toFinset ⊆ Finset.Icc 1 t.issued := by
    intro id hid
    obtain ⟨e, he, rfl⟩ := List.mem_map.1 (List.mem_toFinset.1 hid)
    exact Finset.mem_Icc.2 (h.issued e he)
  have hcard := Finset.card_le_card hsub
  rw [List.toFinset_card_of_nodup h.ids, List.length_map, Nat.card_Icc] at hcard
  omega

theorem isKept_empty : (empty : Table α).IsKept :=
  ⟨List.nodup_nil, List.nodup_nil, fun _ he => absurd he List.not_mem_nil⟩

theorem entries_of_insert {name guid : String} {value : α} {t' : Table α}
    (h : t.insert name guid value = .ok t') :
    t.withGuid? guid = none ∧
      t' = ⟨t.entries ++ [⟨t.issued + 1, guid, value⟩], t.issued + 1⟩ := by
  unfold insert at h
  split at h
  · cases h
  · next hfree => exact ⟨by simpa using hfree, (Except.ok.inj h).symm⟩

theorem IsKept.insert (h : t.IsKept) {name guid : String} {value : α} {t' : Table α}
    (hinsert : t.insert name guid value = .ok t') : t'.IsKept := by
  obtain ⟨hfree, rfl⟩ := entries_of_insert hinsert
  refine ⟨?_, ?_, ?_⟩
  · rw [List.map_append, List.map_singleton]
    refine List.nodup_append.2 ⟨h.ids, List.nodup_singleton _, fun id hid id' hid' => ?_⟩
    obtain ⟨e, he, rfl⟩ := List.mem_map.1 hid
    rw [List.mem_singleton.1 hid']
    have hle := (h.issued e he).2
    show e.id ≠ t.issued + 1
    omega
  · rw [List.map_append, List.map_singleton]
    refine List.nodup_append.2 ⟨h.guids, List.nodup_singleton _, fun g hg g' hg' => ?_⟩
    obtain ⟨e, he, rfl⟩ := List.mem_map.1 hg
    rw [List.mem_singleton.1 hg']
    simpa using List.find?_eq_none.1 hfree e he
  · intro e he
    rcases List.mem_append.1 he with he | he
    · have hbounds := h.issued e he
      exact ⟨hbounds.1, Nat.le_succ_of_le hbounds.2⟩
    · rw [List.mem_singleton.1 he]
      exact ⟨Nat.succ_pos _, Nat.le_refl _⟩

theorem IsKept.remove (h : t.IsKept) (guid : String) : (t.remove guid).IsKept where
  ids := h.ids.sublist (List.filter_sublist.map _)
  guids := h.guids.sublist (List.filter_sublist.map _)
  issued := fun e he => h.issued e (List.mem_filter.1 he).1

theorem IsKept.amend (h : t.IsKept) (guid : String) (change : α → α) :
    (t.amend guid change).IsKept := by
  let put (e : Entry α) : Entry α :=
    if e.guid = guid then { e with value := change e.value } else e
  have hid : ∀ e, (put e).id = e.id := fun e => by
    show (if _ then _ else _ : Entry α).id = e.id
    split <;> rfl
  have hguid : ∀ e, (put e).guid = e.guid := fun e => by
    show (if _ then _ else _ : Entry α).guid = e.guid
    split <;> rfl
  refine ⟨?_, ?_, ?_⟩
  · have hsame : (t.entries.map put).map (·.id) = t.entries.map (·.id) := by
      rw [List.map_map]
      exact List.map_congr_left fun e _ => hid e
    exact hsame ▸ h.ids
  · have hsame : (t.entries.map put).map (·.guid) = t.entries.map (·.guid) := by
      rw [List.map_map]
      exact List.map_congr_left fun e _ => hguid e
    exact hsame ▸ h.guids
  · intro e he
    obtain ⟨f, hf, rfl⟩ := List.mem_map.1 he
    show 0 < (put f).id ∧ (put f).id ≤ t.issued
    rw [hid]
    exact h.issued f hf

end Table

/-! ## Inventories -/

/-- An inventory as its operations leave it. -/
structure IsKept (inv : Inventory) : Prop where
  organizations : inv.organizations.IsKept
  spaces : inv.spaces.IsKept
  apps : inv.apps.IsKept
  droplets : inv.droplets.IsKept
  processes : inv.processes.IsKept
  brokers : inv.brokers.IsKept
  offerings : inv.offerings.IsKept
  plans : inv.plans.IsKept
  instances : inv.instances.IsKept
  organizationOf : ∀ s ∈ inv.spaces.entries,
    ∃ o ∈ inv.organizations.entries, o.id = s.value.organization
  spaceOf : ∀ i ∈ inv.instances.entries, ∃ s ∈ inv.spaces.entries, s.id = i.value.space

theorem isKept_empty : empty.IsKept where
  organizations := Table.isKept_empty
  spaces := Table.isKept_empty
  apps := Table.isKept_empty
  droplets := Table.isKept_empty
  processes := Table.isKept_empty
  brokers := Table.isKept_empty
  offerings := Table.isKept_empty
  plans := Table.isKept_empty
  instances := Table.isKept_empty
  organizationOf := fun _ hs => absurd hs List.not_mem_nil
  spaceOf := fun _ hi => absurd hi List.not_mem_nil

theorem of_present {α : Type} {table column : String} {value : Option α} {a : α}
    (h : present table column value = .ok a) : value = some a := by
  cases value with
  | none => cases h
  | some b => exact congrArg some (Except.ok.inj h)

theorem mem_of_present {α : Type} {t : Table α} {table column : String}
    {guid : Option String} {e : Entry α}
    (h : present table column (guid.bind t.withGuid?) = .ok e) : e ∈ t.entries := by
  obtain ⟨g, -, hfind⟩ := Option.bind_eq_some_iff.1 (of_present h)
  exact List.mem_of_find?_eq_some hfind

theorem Table.forall_of_insert {α : Type} {t t' : Table α} {name guid : String} {value : α}
    (h : t.insert name guid value = .ok t') {p : α → Prop}
    (hold : ∀ e ∈ t.entries, p e.value) (hnew : p value) :
    ∀ e ∈ t'.entries, p e.value := by
  intro e he
  rw [(Table.entries_of_insert h).2] at he
  rcases List.mem_append.1 he with he | he
  · exact hold e he
  · rwa [List.mem_singleton.1 he]

theorem Table.mem_of_insert {α : Type} {t t' : Table α} {name guid : String} {value : α}
    (h : t.insert name guid value = .ok t') {e : Entry α} (he : e ∈ t.entries) :
    e ∈ t'.entries := by
  rw [(Table.entries_of_insert h).2]
  exact List.mem_append_left _ he

section Adding

variable {guid name : Option String} {inv inv' : Inventory}

theorem IsKept.addOrganization (h : inv.IsKept)
    (hadd : inv.addOrganization guid name = .ok inv') : inv'.IsKept := by
  obtain ⟨g, -, hadd⟩ := bind_eq_ok.1 hadd
  obtain ⟨n, -, hadd⟩ := bind_eq_ok.1 hadd
  obtain ⟨t, ht, hadd⟩ := bind_eq_ok.1 hadd
  obtain rfl := Except.ok.inj hadd
  refine { h with organizations := h.organizations.insert ht, organizationOf := ?_ }
  intro s hs
  obtain ⟨o, ho, hid⟩ := h.organizationOf s hs
  exact ⟨o, Table.mem_of_insert ht ho, hid⟩

theorem IsKept.addSpace (h : inv.IsKept) {organization : Option String}
    (hadd : inv.addSpace guid name organization = .ok inv') : inv'.IsKept := by
  obtain ⟨g, -, hadd⟩ := bind_eq_ok.1 hadd
  obtain ⟨n, -, hadd⟩ := bind_eq_ok.1 hadd
  obtain ⟨o, ho, hadd⟩ := bind_eq_ok.1 hadd
  obtain ⟨t, ht, hadd⟩ := bind_eq_ok.1 hadd
  obtain rfl := Except.ok.inj hadd
  refine { h with spaces := h.spaces.insert ht, organizationOf := ?_, spaceOf := ?_ }
  · exact Table.forall_of_insert ht
      (p := fun s => ∃ o ∈ inv.organizations.entries, o.id = s.organization)
      h.organizationOf ⟨o, mem_of_present ho, rfl⟩
  · intro i hi
    obtain ⟨s, hs, hid⟩ := h.spaceOf i hi
    exact ⟨s, Table.mem_of_insert ht hs, hid⟩

theorem IsKept.addApp (h : inv.IsKept) {space droplet : Option String}
    (hadd : inv.addApp guid name space droplet = .ok inv') : inv'.IsKept := by
  obtain ⟨g, -, hadd⟩ := bind_eq_ok.1 hadd
  obtain ⟨n, -, hadd⟩ := bind_eq_ok.1 hadd
  obtain ⟨s, -, hadd⟩ := bind_eq_ok.1 hadd
  obtain ⟨t, ht, hadd⟩ := bind_eq_ok.1 hadd
  obtain rfl := Except.ok.inj hadd
  exact { h with apps := h.apps.insert ht }

theorem IsKept.addDroplet (h : inv.IsKept) {app buildpackGuid buildpackName : Option String}
    (hadd : inv.addDroplet guid app buildpackGuid buildpackName = .ok inv') :
    inv'.IsKept := by
  obtain ⟨g, -, hadd⟩ := bind_eq_ok.1 hadd
  obtain ⟨a, -, hadd⟩ := bind_eq_ok.1 hadd
  obtain ⟨t, ht, hadd⟩ := bind_eq_ok.1 hadd
  obtain rfl := Except.ok.inj hadd
  exact { h with droplets := h.droplets.insert ht }

theorem IsKept.addProcess (h : inv.IsKept) {app type state : Option String}
    {instances memory : Cell}
    (hadd : inv.addProcess guid app type state instances memory = .ok inv') :
    inv'.IsKept := by
  obtain ⟨g, -, hadd⟩ := bind_eq_ok.1 hadd
  obtain ⟨a, -, hadd⟩ := bind_eq_ok.1 hadd
  obtain ⟨y, -, hadd⟩ := bind_eq_ok.1 hadd
  obtain ⟨s, -, hadd⟩ := bind_eq_ok.1 hadd
  obtain ⟨t, ht, hadd⟩ := bind_eq_ok.1 hadd
  obtain rfl := Except.ok.inj hadd
  exact { h with processes := h.processes.insert ht }

theorem IsKept.addBroker (h : inv.IsKept)
    (hadd : inv.addBroker guid name = .ok inv') : inv'.IsKept := by
  obtain ⟨g, -, hadd⟩ := bind_eq_ok.1 hadd
  obtain ⟨n, -, hadd⟩ := bind_eq_ok.1 hadd
  obtain ⟨t, ht, hadd⟩ := bind_eq_ok.1 hadd
  obtain rfl := Except.ok.inj hadd
  exact { h with brokers := h.brokers.insert ht }

theorem IsKept.addOffering (h : inv.IsKept) {broker : Option String}
    (hadd : inv.addOffering guid name broker = .ok inv') : inv'.IsKept := by
  obtain ⟨g, -, hadd⟩ := bind_eq_ok.1 hadd
  obtain ⟨n, -, hadd⟩ := bind_eq_ok.1 hadd
  obtain ⟨t, ht, hadd⟩ := bind_eq_ok.1 hadd
  obtain rfl := Except.ok.inj hadd
  exact { h with offerings := h.offerings.insert ht }

theorem IsKept.addPlan (h : inv.IsKept) {offering : Option String}
    (hadd : inv.addPlan guid name offering = .ok inv') : inv'.IsKept := by
  obtain ⟨g, -, hadd⟩ := bind_eq_ok.1 hadd
  obtain ⟨n, -, hadd⟩ := bind_eq_ok.1 hadd
  obtain ⟨t, ht, hadd⟩ := bind_eq_ok.1 hadd
  obtain rfl := Except.ok.inj hadd
  exact { h with plans := h.plans.insert ht }

theorem IsKept.addInstance (h : inv.IsKept) {space plan : Option String} {managed : Cell}
    (hadd : inv.addInstance guid name space plan managed = .ok inv') : inv'.IsKept := by
  obtain ⟨g, -, hadd⟩ := bind_eq_ok.1 hadd
  obtain ⟨n, -, hadd⟩ := bind_eq_ok.1 hadd
  obtain ⟨s, hs, hadd⟩ := bind_eq_ok.1 hadd
  obtain ⟨m, -, hadd⟩ := bind_eq_ok.1 hadd
  obtain ⟨t, ht, hadd⟩ := bind_eq_ok.1 hadd
  obtain rfl := Except.ok.inj hadd
  refine { h with instances := h.instances.insert ht, spaceOf := ?_ }
  exact Table.forall_of_insert ht (p := fun i => ∃ s ∈ inv.spaces.entries, s.id = i.space)
    h.spaceOf ⟨s, mem_of_present hs, rfl⟩

theorem IsKept.addRunning (h : inv.IsKept) {space app process : String} {instances : Cell}
    (hadd : inv.addRunning space app process instances = .ok inv') : inv'.IsKept := by
  unfold Inventory.addRunning at hadd
  split at hadd
  · obtain ⟨mid, hmid, hadd⟩ := bind_eq_ok.1 hadd
    obtain rfl := Except.ok.inj hmid
    exact h.addProcess hadd
  · obtain ⟨mid, hmid, hadd⟩ := bind_eq_ok.1 hadd
    exact (h.addApp hmid).addProcess hadd

end Adding

/-! ## Removing and changing -/

section Removing

variable {inv inv' : Inventory} {guid : String} {n : Nat}

theorem of_removeFrom {α : Type} {t : Table α} {isNamed : Nat → Bool}
    {put : Table α → Inventory} (h : removeFrom t guid isNamed put = .ok (n, inv')) :
    inv' = put t ∨ inv' = put (t.remove guid) ∧
      ∃ e, t.withGuid? guid = some e ∧ isNamed e.id = false := by
  unfold removeFrom at h
  split at h
  · exact Or.inl (Prod.mk.inj (Except.ok.inj h)).2.symm
  · next e he =>
      split at h
      · cases h
      · next hfree =>
          exact Or.inr ⟨(Prod.mk.inj (Except.ok.inj h)).2.symm, e, he, by simpa using hfree⟩

theorem Table.IsKept.mem_remove {α β : Type} {t : Table α} (ht : t.IsKept) {users : Table β}
    {reference : β → Option Nat} {e : Entry α} (hfound : t.withGuid? guid = some e)
    (hfree : names users reference e.id = false) {u : Entry β} (hu : u ∈ users.entries)
    {f : Entry α} (hf : f ∈ t.entries) (hnamed : reference u.value = some f.id) :
    f ∈ (t.remove guid).entries := by
  refine List.mem_filter.2 ⟨hf, ?_⟩
  rw [decide_eq_true_eq]
  intro hguid
  obtain ⟨he, heguid⟩ := ht.withGuid?_eq_some.1 hfound
  obtain rfl := List.inj_on_of_nodup_map ht.guids he hf (heguid.trans hguid.symm)
  have hany : names users reference e.id = true :=
    List.any_eq_true.2 ⟨u, hu, decide_eq_true hnamed⟩
  rw [hany] at hfree
  cases hfree

theorem IsKept.remove (h : inv.IsKept) {table : String}
    (hremove : inv.remove table guid = .ok (n, inv')) : inv'.IsKept := by
  unfold Inventory.remove at hremove
  simp only [] at hremove
  split at hremove
  · rcases of_removeFrom hremove with rfl | ⟨rfl, e, he, hfree⟩
    · exact h
    · refine { h with organizations := h.organizations.remove guid, organizationOf := ?_ }
      intro s hs
      obtain ⟨o, ho, hid⟩ := h.organizationOf s hs
      exact ⟨o, h.organizations.mem_remove he hfree hs ho (congrArg some hid.symm), hid⟩
  split at hremove
  · rcases of_removeFrom hremove with rfl | ⟨rfl, e, he, hfree⟩
    · exact h
    · refine { h with spaces := h.spaces.remove guid, organizationOf := ?_, spaceOf := ?_ }
      · exact fun s hs => h.organizationOf s (List.mem_filter.1 hs).1
      · intro i hi
        obtain ⟨s, hs, hid⟩ := h.spaceOf i hi
        exact ⟨s, h.spaces.mem_remove he hfree hi hs (congrArg some hid.symm), hid⟩
  split at hremove
  · rcases of_removeFrom hremove with rfl | ⟨rfl, -⟩
    · exact h
    · exact { h with apps := h.apps.remove guid }
  split at hremove
  · rcases of_removeFrom hremove with rfl | ⟨rfl, -⟩
    · exact h
    · exact { h with droplets := h.droplets.remove guid }
  split at hremove
  · rcases of_removeFrom hremove with rfl | ⟨rfl, -⟩
    · exact h
    · exact { h with processes := h.processes.remove guid }
  split at hremove
  · rcases of_removeFrom hremove with rfl | ⟨rfl, -⟩
    · exact h
    · exact { h with brokers := h.brokers.remove guid }
  split at hremove
  · rcases of_removeFrom hremove with rfl | ⟨rfl, -⟩
    · exact h
    · exact { h with offerings := h.offerings.remove guid }
  split at hremove
  · rcases of_removeFrom hremove with rfl | ⟨rfl, -⟩
    · exact h
    · exact { h with plans := h.plans.remove guid }
  split at hremove
  · rcases of_removeFrom hremove with rfl | ⟨rfl, -⟩
    · exact h
    · refine { h with instances := h.instances.remove guid, spaceOf := ?_ }
      exact fun i hi => h.spaceOf i (List.mem_filter.1 hi).1
  cases hremove

theorem IsKept.setProcess (h : inv.IsKept) {column : ProcessColumn} {text : Option String}
    {cell : Cell} (hset : inv.setProcess guid column text cell = .ok (n, inv')) :
    inv'.IsKept := by
  unfold Inventory.setProcess at hset
  simp only [] at hset
  split at hset
  · cases hset
  · obtain ⟨-, rfl⟩ := Prod.mk.inj (Except.ok.inj hset)
    exact { h with processes := h.processes.amend _ _ }

end Removing

end Inventory

end Metering
