import Metering.Active.Listing
import Metering.Proofs.Items
import Metering.Proofs.Paging
import Metering.Proofs.Tables

/-!
# What is listed is what is active

`IsActive` says which resources of a kind are in use, by rows of the inventory
that name one another, and `ActiveResource` what is told of each. The listing
has exactly these, each once, by space and number, and so do its pages taken
together: the inventory is a source that keeps to this order.

What has to be known of the inventory is that its tables have the keys that
they should have, and that cells for numbers hold numbers.
-/

namespace Metering

namespace Inventory

/-- The number in a cell that holds one. -/
def Cell.number? : Cell → Option Int
  | .int n => some n
  | _ => none

/-- A cell that holds what its column declares: nothing, or a number of 64 bits. -/
def Cell.IsNumeric : Cell → Prop
  | .null => True
  | .int n => Word.holdsSigned n = true
  | _ => False

instance : (c : Cell) → Decidable c.IsNumeric
  | .null => inferInstanceAs (Decidable True)
  | .int n => inferInstanceAs (Decidable (Word.holdsSigned n = true))
  | .real => inferInstanceAs (Decidable False)
  | .text _ => inferInstanceAs (Decidable False)

/-- An inventory whose columns hold what they declare. -/
structure IsTyped (inv : Inventory) : Prop where
  instances : ∀ e ∈ inv.processes.entries, e.value.instances.IsNumeric
  memory : ∀ e ∈ inv.processes.entries, e.value.memory.IsNumeric
  managed : ∀ e ∈ inv.instances.entries, e.value.managed.IsNumeric ∧ e.value.managed ≠ .null
  processIds : inv.processes.issued ≤ Word.maxSigned
  instanceIds : inv.instances.issued ≤ Word.maxSigned

/-! ## What is active -/

/-- A process that is started and no task or build, with its app and where that is. -/
structure IsRunningIn (inv : Inventory) (e : Entry Process) (app : Entry App)
    (space : Entry Space) (org : Entry Organization) : Prop where
  exists_process : e ∈ inv.processes.entries
  exists_app : app ∈ inv.apps.entries
  exists_space : space ∈ inv.spaces.entries
  exists_org : org ∈ inv.organizations.entries
  started : e.value.state = "STARTED"
  not_task : e.value.type ≠ "TASK"
  not_build : e.value.type ≠ "build"
  in_app : e.value.app = app.guid
  in_space : app.value.space = space.guid
  in_org : space.value.organization = org.id

/-- What is told of a process in its app. -/
def processResource (inv : Inventory) (e : Entry Process) (app : Entry App)
    (space : Entry Space) (org : Entry Organization) : ActiveResource where
  id := e.id
  guid := e.guid
  parent := some app.guid
  space := some space.guid
  spaceName := some space.value.name
  org := some org.guid
  orgName := some org.value.name
  instances := e.value.instances.number?.getD 0
  item := .process (processItem e app (app.value.droplet.bind inv.droplets.withGuid?)
    e.value.instances.number? e.value.memory.number?)

/-- A service instance, with where it is. -/
structure IsPlacedIn (inv : Inventory) (e : Entry ServiceInstance) (space : Entry Space)
    (org : Entry Organization) : Prop where
  exists_service : e ∈ inv.instances.entries
  exists_space : space ∈ inv.spaces.entries
  exists_org : org ∈ inv.organizations.entries
  in_space : e.value.space = space.id
  in_org : space.value.organization = org.id

/-- What is told of a service instance. -/
def serviceResource (inv : Inventory) (e : Entry ServiceInstance) (space : Entry Space)
    (org : Entry Organization) : ActiveResource :=
  let plan := e.value.plan.bind inv.plans.withId?
  let offering := plan.bind fun p => p.value.offering.bind inv.offerings.withId?
  let broker := offering.bind fun o => o.value.broker.bind inv.brokers.withId?
  { id := e.id
    guid := e.guid
    parent := none
    space := some space.guid
    spaceName := some space.value.name
    org := some org.guid
    orgName := some org.value.name
    instances := 1
    item := .service (serviceItem e (e.value.managed.number? ≠ some 0) plan offering broker) }

/-- Whether a resource is one of a kind that the inventory says is active. -/
def IsActive (inv : Inventory) : Kind → ActiveResource → Prop
  | .process, r => ∃ e app space org,
      inv.IsRunningIn e app space org ∧ r = inv.processResource e app space org
  | .service, r => ∃ e space org,
      inv.IsPlacedIn e space org ∧ r = inv.serviceResource e space org

end Inventory

namespace ActiveResource

/-- A resource as it is listed. -/
def listed (r : ActiveResource) : Listed where
  space := (Cursor.at r).space
  id := r.id.toNat
  row := .ok r

/-- Whether a resource is listed before another. -/
def precedes (a b : ActiveResource) : Bool := a.listed.precedes b.listed

end ActiveResource

namespace Inventory

variable {inv : Inventory}

/-- A process that is active, if it is. -/
def activeProcess? (inv : Inventory) (e : Entry Process) : Option ActiveResource :=
  if e.value.isRunning then do
    let app ← inv.apps.withGuid? e.value.app
    let space ← inv.spaces.withGuid? app.value.space
    let org ← inv.organizations.withId? space.value.organization
    some (inv.processResource e app space org)
  else none

/-- A service instance that is active, if it is. -/
def activeInstance? (inv : Inventory) (e : Entry ServiceInstance) : Option ActiveResource := do
  let space ← inv.spaces.withId? e.value.space
  let org ← inv.organizations.withId? space.value.organization
  some (inv.serviceResource e space org)

/-- The active resources of a kind, in the order of their table. -/
def found (inv : Inventory) : Kind → List ActiveResource
  | .process => inv.processes.entries.filterMap inv.activeProcess?
  | .service => inv.instances.entries.filterMap inv.activeInstance?

theorem whole_of_isNumeric {c : Cell} (h : c.IsNumeric) (index : Nat) (column : String) :
    c.whole index column = .ok c.number? := by
  cases c with
  | null => rfl
  | int n => rfl
  | real => exact h.elim
  | text s => exact h.elim

theorem listProcess_eq (ht : inv.IsTyped) {e : Entry Process}
    (he : e ∈ inv.processes.entries) :
    inv.listProcess e = (inv.activeProcess? e).map ActiveResource.listed := by
  have hrow : ∀ app droplet space org, processRow e app droplet space org = .ok
      { id := e.id
        guid := e.guid
        parent := some app.guid
        space := some space.guid
        spaceName := some space.value.name
        org := some org.guid
        orgName := some org.value.name
        instances := e.value.instances.number?.getD 0
        item := .process (processItem e app droplet e.value.instances.number?
          e.value.memory.number?) } := by
    intro app droplet space org
    unfold processRow
    rw [whole_of_isNumeric (ht.instances e he), whole_of_isNumeric (ht.memory e he)]
    rfl
  unfold listProcess activeProcess?
  split
  · cases inv.apps.withGuid? e.value.app with
    | none => rfl
    | some app =>
        simp only [Option.bind_eq_bind, Option.bind_some]
        cases inv.spaces.withGuid? app.value.space with
        | none => rfl
        | some space =>
            simp only [Option.bind_some]
            cases inv.organizations.withId? space.value.organization with
            | none => rfl
            | some org =>
                simp only [Option.bind_some, hrow]
                rfl
  · rfl

theorem listInstance_eq (ht : inv.IsTyped) {e : Entry ServiceInstance}
    (he : e ∈ inv.instances.entries) :
    inv.listInstance e = (inv.activeInstance? e).map ActiveResource.listed := by
  obtain ⟨m, hm⟩ : ∃ m, e.value.managed = .int m := by
    obtain ⟨hnumeric, hpresent⟩ := ht.managed e he
    cases hcell : e.value.managed with
    | null => exact absurd hcell hpresent
    | int m => exact ⟨m, rfl⟩
    | real => exact (hcell ▸ hnumeric).elim
    | text s => exact (hcell ▸ hnumeric).elim
  unfold listInstance activeInstance?
  cases inv.spaces.withId? e.value.space with
  | none => rfl
  | some space =>
      simp only [Option.bind_eq_bind, Option.bind_some]
      cases inv.organizations.withId? space.value.organization with
      | none => rfl
      | some org =>
          simp only [Option.bind_some, serviceRow, serviceResource, hm]
          rfl

/-! ## What is found is what is active -/

theorem activeProcess?_eq_some (hk : inv.IsKept) {e : Entry Process} {r : ActiveResource}
    (he : e ∈ inv.processes.entries) :
    inv.activeProcess? e = some r ↔ ∃ app space org,
      inv.IsRunningIn e app space org ∧ r = inv.processResource e app space org := by
  have hrunning : e.value.isRunning = true ↔ e.value.state = "STARTED" ∧
      e.value.type ≠ "TASK" ∧ e.value.type ≠ "build" := by
    unfold Process.isRunning
    rw [Bool.and_eq_true, Bool.and_eq_true, decide_eq_true_eq, decide_eq_true_eq,
      decide_eq_true_eq, and_assoc]
  unfold activeProcess?
  constructor
  · intro h
    split at h
    · next hrun =>
        obtain ⟨app, happ, h⟩ := Option.bind_eq_some_iff.1 h
        obtain ⟨space, hspace, h⟩ := Option.bind_eq_some_iff.1 h
        obtain ⟨org, horg, h⟩ := Option.bind_eq_some_iff.1 h
        obtain ⟨happ, happ'⟩ := hk.apps.withGuid?_eq_some.1 happ
        obtain ⟨hspace, hspace'⟩ := hk.spaces.withGuid?_eq_some.1 hspace
        obtain ⟨horg, horg'⟩ := hk.organizations.withId?_eq_some.1 horg
        obtain ⟨hstate, htask, hbuild⟩ := hrunning.1 hrun
        exact ⟨app, space, org, ⟨he, happ, hspace, horg, hstate, htask, hbuild, happ'.symm,
          hspace'.symm, horg'.symm⟩, (Option.some.inj h).symm⟩
    · cases h
  · rintro ⟨app, space, org, hin, rfl⟩
    rw [if_pos (hrunning.2 ⟨hin.started, hin.not_task, hin.not_build⟩)]
    have happ := hk.apps.withGuid?_eq_some.2 ⟨hin.exists_app, hin.in_app.symm⟩
    have hspace := hk.spaces.withGuid?_eq_some.2 ⟨hin.exists_space, hin.in_space.symm⟩
    have horg := hk.organizations.withId?_eq_some.2 ⟨hin.exists_org, hin.in_org.symm⟩
    rw [happ, Option.bind_eq_bind, Option.bind_some, hspace, Option.bind_eq_bind,
      Option.bind_some, horg]
    rfl

theorem activeInstance?_eq_some (hk : inv.IsKept) {e : Entry ServiceInstance}
    {r : ActiveResource} (he : e ∈ inv.instances.entries) :
    inv.activeInstance? e = some r ↔ ∃ space org,
      inv.IsPlacedIn e space org ∧ r = inv.serviceResource e space org := by
  unfold activeInstance?
  constructor
  · intro h
    obtain ⟨space, hspace, h⟩ := Option.bind_eq_some_iff.1 h
    obtain ⟨org, horg, h⟩ := Option.bind_eq_some_iff.1 h
    obtain ⟨hspace, hspace'⟩ := hk.spaces.withId?_eq_some.1 hspace
    obtain ⟨horg, horg'⟩ := hk.organizations.withId?_eq_some.1 horg
    exact ⟨space, org, ⟨he, hspace, horg, hspace'.symm, horg'.symm⟩,
      (Option.some.inj h).symm⟩
  · rintro ⟨space, org, hin, rfl⟩
    have hspace := hk.spaces.withId?_eq_some.2 ⟨hin.exists_space, hin.in_space.symm⟩
    have horg := hk.organizations.withId?_eq_some.2 ⟨hin.exists_org, hin.in_org.symm⟩
    rw [hspace, Option.bind_eq_bind, Option.bind_some, horg]
    rfl

theorem mem_found (hk : inv.IsKept) {k : Kind} {r : ActiveResource} :
    r ∈ inv.found k ↔ inv.IsActive k r := by
  cases k with
  | process =>
      rw [found, List.mem_filterMap]
      constructor
      · rintro ⟨e, he, h⟩
        exact ⟨e, (activeProcess?_eq_some hk he).1 h⟩
      · rintro ⟨e, app, space, org, hin, rfl⟩
        exact ⟨e, hin.exists_process,
          (activeProcess?_eq_some hk hin.exists_process).2 ⟨app, space, org, hin, rfl⟩⟩
  | service =>
      rw [found, List.mem_filterMap]
      constructor
      · rintro ⟨e, he, h⟩
        exact ⟨e, (activeInstance?_eq_some hk he).1 h⟩
      · rintro ⟨e, space, org, hin, rfl⟩
        exact ⟨e, hin.exists_service,
          (activeInstance?_eq_some hk hin.exists_service).2 ⟨space, org, hin, rfl⟩⟩

theorem exists_active_of_instance (hk : inv.IsKept) {e : Entry ServiceInstance}
    (he : e ∈ inv.instances.entries) : ∃ r, inv.IsActive .service r ∧ r.guid = e.guid := by
  obtain ⟨space, hspace, hid⟩ := hk.spaceOf e he
  obtain ⟨org, horg, hid'⟩ := hk.organizationOf space hspace
  exact ⟨inv.serviceResource e space org,
    ⟨e, space, org, ⟨he, hspace, horg, hid.symm, hid'.symm⟩, rfl⟩, rfl⟩

theorem pairwise_filterMap_id {α : Type} {t : Table α} (ht : t.IsKept)
    {f : Entry α → Option ActiveResource} (hid : ∀ e r, f e = some r → r.id = e.id) :
    (t.entries.filterMap f).Pairwise fun a b => a.id ≠ b.id := by
  refine List.pairwise_filterMap.2 ?_
  refine (List.pairwise_map.1 ht.ids).imp fun hne r hr s hs => ?_
  rw [hid _ r hr, hid _ s hs]
  exact fun heq => hne (Int.ofNat.inj heq)

theorem id_of_activeProcess? {e : Entry Process} {r : ActiveResource}
    (h : inv.activeProcess? e = some r) : r.id = e.id := by
  unfold activeProcess? at h
  split at h
  · obtain ⟨app, -, h⟩ := Option.bind_eq_some_iff.1 h
    obtain ⟨space, -, h⟩ := Option.bind_eq_some_iff.1 h
    obtain ⟨org, -, h⟩ := Option.bind_eq_some_iff.1 h
    rw [← Option.some.inj h]
    rfl
  · cases h

theorem id_of_activeInstance? {e : Entry ServiceInstance} {r : ActiveResource}
    (h : inv.activeInstance? e = some r) : r.id = e.id := by
  obtain ⟨space, -, h⟩ := Option.bind_eq_some_iff.1 h
  obtain ⟨org, -, h⟩ := Option.bind_eq_some_iff.1 h
  rw [← Option.some.inj h]
  rfl

theorem pairwise_found (hk : inv.IsKept) (k : Kind) :
    (inv.found k).Pairwise fun a b => a.id ≠ b.id := by
  cases k with
  | process => exact pairwise_filterMap_id hk.processes fun _ _ => id_of_activeProcess?
  | service => exact pairwise_filterMap_id hk.instances fun _ _ => id_of_activeInstance?

theorem length_found_le (hk : inv.IsKept) (ht : inv.IsTyped) (k : Kind) :
    (inv.found k).length ≤ Word.maxSigned := by
  have hle {n m : Nat} (hn : n ≤ m) (hm : (m : Int) ≤ Word.maxSigned) :
      (n : Int) ≤ Word.maxSigned := by omega
  cases k with
  | process =>
      exact hle (Nat.le_trans (List.length_filterMap_le _ _) hk.processes.length_le)
        ht.processIds
  | service =>
      exact hle (Nat.le_trans (List.length_filterMap_le _ _) hk.instances.length_le)
        ht.instanceIds

/-! ## The order of the listing -/

/-- The active resources of a kind, by space and number. -/
def actives (inv : Inventory) (k : Kind) : List ActiveResource :=
  (inv.found k).mergeSort ActiveResource.precedes

theorem listing_eq (ht : inv.IsTyped) (k : Kind) :
    inv.listing k = (inv.actives k).map ActiveResource.listed := by
  have hsort : ∀ rows : List ActiveResource,
      (rows.mergeSort ActiveResource.precedes).map ActiveResource.listed =
        (rows.map ActiveResource.listed).mergeSort Listed.precedes := fun rows =>
    List.map_mergeSort fun _ _ _ _ => rfl
  unfold listing actives
  rw [hsort]
  cases k with
  | process =>
      simp only [found, List.map_filterMap]
      rw [List.filterMap_congr fun e he => listProcess_eq ht he]
  | service =>
      simp only [found, List.map_filterMap]
      rw [List.filterMap_congr fun e he => listInstance_eq ht he]

end Inventory

namespace ActiveResource

theorem precedes_iff {a b : ActiveResource} :
    a.precedes b = true ↔ a.listed.space < b.listed.space ∨
      a.listed.space = b.listed.space ∧ a.listed.id ≤ b.listed.id := by
  unfold precedes Listed.precedes
  rw [Bool.or_eq_true, Bool.and_eq_true, decide_eq_true_eq, decide_eq_true_eq,
    decide_eq_true_eq]

theorem precedes_iff_not_before {a b : ActiveResource} :
    a.precedes b = true ↔
      ¬ Cursor.Before ⟨b.listed.space, b.listed.id⟩ ⟨a.listed.space, a.listed.id⟩ := by
  rw [precedes_iff, Cursor.not_before_iff, Int.ofNat_le]

theorem precedes_trans (a b c : ActiveResource) (hab : a.precedes b = true)
    (hbc : b.precedes c = true) : a.precedes c = true := by
  rw [precedes_iff_not_before] at *
  exact Cursor.not_before_trans hab hbc

theorem precedes_total (a b : ActiveResource) : (a.precedes b || b.precedes a) = true := by
  rw [Bool.or_eq_true, precedes_iff_not_before, precedes_iff_not_before]
  exact Cursor.not_before_total _ _

end ActiveResource

namespace Listed

theorem isAfter_listed {c : Cursor} {r : ActiveResource} (hid : 0 ≤ r.id) :
    isAfter c r.listed = decide (c.Before (Cursor.at r)) := by
  have hnat : ((r.id.toNat : Nat) : Int) = r.id := Int.toNat_of_nonneg hid
  unfold isAfter
  rw [Bool.eq_iff_iff, Bool.or_eq_true, Bool.and_eq_true, decide_eq_true_eq,
    decide_eq_true_eq, decide_eq_true_eq, decide_eq_true_eq]
  show _ ∨ _ ∧ c.id < ((r.id.toNat : Nat) : Int) ↔ _
  rw [hnat]
  exact Iff.rfl

theorem mapM_row_listed (rows : List ActiveResource) :
    (rows.map ActiveResource.listed).mapM (·.row) = .ok rows := by
  induction rows with
  | nil => rfl
  | cons r rows ih =>
      rw [List.map_cons, List.mapM_cons, ih]
      rfl

/-- Pages of a listing that is no longer than numbers go are its rows behind a place. -/
theorem page_eq {rows : List ActiveResource} (hid : ∀ r ∈ rows, 0 ≤ r.id)
    (hmany : rows.length ≤ Page.signedBound) (after : Option Cursor) (limit : Nat) :
    Listed.page (rows.map ActiveResource.listed) after limit =
      .ok ((Source.rowsAfter after rows).take limit) := by
  have hpage : Listed.page (rows.map ActiveResource.listed) after limit =
      (Page.take limit ((Source.rowsAfter after rows).map ActiveResource.listed)).mapM
        (·.row) := by
    cases after with
    | none => rfl
    | some c =>
        have hfilter : rows.filter (isAfter c ∘ ActiveResource.listed) =
            rows.filter fun r => c.Before (Cursor.at r) :=
          List.filter_congr fun r hr => isAfter_listed (hid r hr)
        rw [Source.rowsAfter, ← hfilter, ← List.filter_map]
        rfl
  have hshort : (Source.rowsAfter after rows).length ≤ Page.signedBound := by
    refine Nat.le_trans ?_ hmany
    cases after with
    | none => exact Nat.le_refl _
    | some c => exact List.length_filter_le _ _
  rw [hpage]
  unfold Page.take
  split
  · rw [← List.map_take, mapM_row_listed]
  · next hlarge =>
      rw [mapM_row_listed, List.take_of_length_le (by omega)]

end Listed

namespace Inventory

variable {inv : Inventory}

theorem mem_actives (hk : inv.IsKept) {k : Kind} {r : ActiveResource} :
    r ∈ inv.actives k ↔ inv.IsActive k r := by
  rw [← mem_found hk]
  exact (List.mergeSort_perm _ _).mem_iff

theorem IsActive.id_nonneg {k : Kind} {r : ActiveResource} (h : inv.IsActive k r) :
    0 ≤ r.id := by
  cases k with
  | process =>
      obtain ⟨e, app, space, org, -, rfl⟩ := h
      exact Int.natCast_nonneg _
  | service =>
      obtain ⟨e, space, org, -, rfl⟩ := h
      exact Int.natCast_nonneg _

theorem pairwise_actives (hk : inv.IsKept) (k : Kind) :
    (inv.actives k).Pairwise fun a b => (Cursor.at a).Before (Cursor.at b) := by
  have hsorted : (inv.actives k).Pairwise fun a b => a.precedes b = true :=
    List.pairwise_mergeSort ActiveResource.precedes_trans ActiveResource.precedes_total _
  have hdistinct : (inv.actives k).Pairwise fun a b => a.id ≠ b.id :=
    (List.mergeSort_perm _ _).symm.pairwise (pairwise_found hk k) fun h => h.symm
  have hid : ∀ r ∈ inv.actives k, 0 ≤ r.id := fun r hr => ((mem_actives hk).1 hr).id_nonneg
  refine (hsorted.and hdistinct).imp_of_mem fun {a b} ha hb h => ?_
  rcases ActiveResource.precedes_iff.1 h.1 with hlt | ⟨heq, hle⟩
  · exact Or.inl hlt
  · have hle : a.id.toNat ≤ b.id.toNat := hle
    have hlt : a.id < b.id := by
      have ha' := hid a ha
      have hb' := hid b hb
      have hne := h.2
      omega
    exact Or.inr ⟨heq, hlt⟩

/-- The inventory is a source of its active resources. -/
theorem source_lists (hk : inv.IsKept) (ht : inv.IsTyped) (k : Kind) :
    (inv.source k).Lists (inv.actives k) where
  ordered := pairwise_actives hk k
  pages := by
    intro number after size hsize
    have hmany : (inv.actives k).length ≤ Page.signedBound := by
      have hle := length_found_le hk ht k
      rw [actives, List.length_mergeSort]
      unfold Word.maxSigned at hle
      unfold Page.signedBound
      omega
    show Listed.page (inv.listing k) after size = _
    rw [listing_eq ht, Listed.page_eq (fun r hr => ((mem_actives hk).1 hr).id_nonneg) hmany]
  few := by
    show (inv.actives k).length < (inv.listing k).length + 1
    rw [listing_eq ht, List.length_map]
    exact Nat.lt_succ_self _

theorem IsActive.fits (ht : inv.IsTyped) {k : Kind} {r : ActiveResource}
    (h : inv.IsActive k r) : r.item.Fits := by
  have hnumber : ∀ c : Cell, c.IsNumeric → ∀ n, c.number? = some n →
      Word.holdsSigned n = true := by
    intro c hc n hn
    cases c with
    | int m =>
        obtain rfl := Option.some.inj hn
        exact hc
    | _ => cases hn
  cases k with
  | process =>
      obtain ⟨e, app, space, org, hin, rfl⟩ := h
      exact ⟨hnumber _ (ht.instances e hin.exists_process),
        hnumber _ (ht.memory e hin.exists_process)⟩
  | service =>
      obtain ⟨e, space, org, -, rfl⟩ := h
      trivial

end Inventory

end Metering
