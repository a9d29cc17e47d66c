import Metering.Proofs.Listing
import Metering.Proofs.Visiting

/-!
# A listing is a join

The active resources of a kind are the rows that a join of tables has: every
process with every app that it names, every space that the app names, and so on,
those that have no droplet once without. A listing looks rows up instead. It
is the same because a name is a key: what is named is one row or none, and so
no row of the first table comes twice, whatever it is joined to.

With that, the inventory is a source that answers from the rows of a join, and
`visits_each_once` says what a visitor sees of it, and of any source like it.
-/

namespace Metering

namespace Inventory

/-! ## Joins -/

/-- What there is, or one place where there is nothing. -/
def orNone {α : Type} : List α → List (Option α)
  | [] => [none]
  | x :: xs => (x :: xs).map some

theorem orNone_toList {α : Type} (o : Option α) : orNone o.toList = [o] := by
  cases o <;> rfl

/-- The row of a service instance that is joined to certain others. -/
def instanceRow (e : Entry ServiceInstance) (space : Entry Space) (org : Entry Organization)
    (plan : Option (Entry Plan)) (offering : Option (Entry Offering))
    (broker : Option (Entry Broker)) : Except Error ActiveResource := do
  let managed ← e.value.managed.whole 3 "is_gateway_service"
  pure {
    id := e.id
    guid := e.guid
    parent := none
    space := some space.guid
    spaceName := some space.value.name
    org := some org.guid
    orgName := some org.value.name
    instances := 1
    item := .service (serviceItem e (managed ≠ some 0) plan offering broker) }

/-- The rows of the processes, joined to all that they name, of those that are running. -/
def joinedProcesses (inv : Inventory) : List Listed :=
  inv.processes.entries.flatMap fun e =>
  (inv.apps.entries.filter fun app => app.guid = e.value.app).flatMap fun app =>
  (inv.spaces.entries.filter fun space => space.guid = app.value.space).flatMap fun space =>
  (inv.organizations.entries.filter fun org => org.id = space.value.organization).flatMap
    fun org =>
  (orNone (inv.droplets.entries.filter fun d => app.value.droplet = some d.guid)).flatMap
    fun droplet =>
  if e.value.isRunning then [⟨space.guid, e.id, processRow e app droplet space org⟩] else []

/-- The rows of the service instances, joined to all that they name. -/
def joinedInstances (inv : Inventory) : List Listed :=
  inv.instances.entries.flatMap fun e =>
  (inv.spaces.entries.filter fun space => space.id = e.value.space).flatMap fun space =>
  (inv.organizations.entries.filter fun org => org.id = space.value.organization).flatMap
    fun org =>
  (orNone (inv.plans.entries.filter fun p => e.value.plan = some p.id)).flatMap fun plan =>
  (orNone (inv.offerings.entries.filter fun o =>
    plan.bind (·.value.offering) = some o.id)).flatMap fun offering =>
  (orNone (inv.brokers.entries.filter fun b =>
    offering.bind (·.value.broker) = some b.id)).map fun broker =>
    ⟨space.guid, e.id, instanceRow e space org plan offering broker⟩

/-- The rows of a kind, in the order of its table. -/
def joined (inv : Inventory) : Kind → List Listed
  | .process => inv.joinedProcesses
  | .service => inv.joinedInstances

/-- The numbers of all that may be active, in the order of its table. -/
def numbers (inv : Inventory) : Kind → List Int
  | .process => inv.processes.entries.map fun e => (e.id : Int)
  | .service => inv.instances.entries.map fun e => (e.id : Int)

/-- A name leads to one row or to none, so what is joined by it is looked up. -/
theorem orNone_key {α κ : Type} [DecidableEq κ] {key : α → κ} {xs : List α}
    (hnodup : (xs.map key).Nodup) (name : Option κ) :
    orNone (xs.filter fun x => name = some (key x)) =
      [name.bind fun k => xs.find? fun x => key x = k] := by
  cases name with
  | none =>
      rw [List.filter_eq_nil_iff.2 (by simp)]
      rfl
  | some k =>
      have hname : xs.filter (fun x => some k = some (key x)) =
          xs.filter fun x => key x = k :=
        List.filter_congr fun x _ => decide_eq_decide.2 (Option.some_inj.trans eq_comm)
      rw [hname, filter_key_eq hnodup, orNone_toList]
      rfl

namespace Table

variable {α : Type} {t : Table α}

theorem IsKept.filter_guid (h : t.IsKept) (guid : String) :
    t.entries.filter (fun e => e.guid = guid) = (t.withGuid? guid).toList :=
  filter_key_eq h.guids guid

theorem IsKept.filter_id (h : t.IsKept) (id : Nat) :
    t.entries.filter (fun e => e.id = id) = (t.withId? id).toList :=
  filter_key_eq h.ids id

theorem IsKept.orNone_guid (h : t.IsKept) (guid : Option String) :
    orNone (t.entries.filter fun e => guid = some e.guid) = [guid.bind t.withGuid?] :=
  orNone_key h.guids guid

theorem IsKept.orNone_id (h : t.IsKept) (id : Option Nat) :
    orNone (t.entries.filter fun e => id = some e.id) = [id.bind t.withId?] :=
  orNone_key h.ids id

end Table

variable {inv : Inventory}

theorem joinedProcesses_eq (h : inv.IsKept) :
    inv.joinedProcesses = inv.processes.entries.filterMap inv.listProcess := by
  unfold joinedProcesses
  simp only [h.apps.filter_guid, h.spaces.filter_guid, h.organizations.filter_id,
    h.droplets.orNone_guid, List.flatMap_singleton]
  rw [List.filterMap_eq_flatMap_toList]
  refine List.flatMap_congr fun e _ => ?_
  unfold listProcess
  cases hrunning : e.value.isRunning with
  | false => simp
  | true =>
      simp only [if_true]
      cases inv.apps.withGuid? e.value.app with
      | none => rfl
      | some app =>
          simp only [Option.toList_some, List.flatMap_singleton, Option.bind_eq_bind,
            Option.bind_some]
          cases inv.spaces.withGuid? app.value.space with
          | none => rfl
          | some space =>
              simp only [Option.toList_some, List.flatMap_singleton, Option.bind_some]
              cases inv.organizations.withId? space.value.organization <;> rfl

theorem serviceRow_eq (inv : Inventory) (e : Entry ServiceInstance) (space : Entry Space)
    (org : Entry Organization) :
    inv.serviceRow e space org =
      let plan := e.value.plan.bind inv.plans.withId?
      let offering := (plan.bind (·.value.offering)).bind inv.offerings.withId?
      let broker := (offering.bind (·.value.broker)).bind inv.brokers.withId?
      instanceRow e space org plan offering broker := by
  simp only [serviceRow, instanceRow, Option.bind_assoc]

theorem joinedInstances_eq (h : inv.IsKept) :
    inv.joinedInstances = inv.instances.entries.filterMap inv.listInstance := by
  unfold joinedInstances
  simp only [h.spaces.filter_id, h.organizations.filter_id, h.plans.orNone_id,
    h.offerings.orNone_id, h.brokers.orNone_id, List.flatMap_singleton, List.map_singleton]
  rw [List.filterMap_eq_flatMap_toList]
  refine List.flatMap_congr fun e _ => ?_
  unfold listInstance
  cases inv.spaces.withId? e.value.space with
  | none => rfl
  | some space =>
      simp only [Option.toList_some, List.flatMap_singleton, Option.bind_eq_bind,
        Option.bind_some]
      cases inv.organizations.withId? space.value.organization with
      | none => rfl
      | some org =>
          simp only [Option.toList_some, List.flatMap_singleton, Option.bind_some,
            serviceRow_eq]
          rfl

/-- A join whose cells hold what they should has a row for each that is found. -/
theorem joined_eq (hk : inv.IsKept) (ht : inv.IsTyped) (k : Kind) :
    inv.joined k = (inv.found k).map ActiveResource.listed := by
  cases k with
  | process =>
      rw [joined, joinedProcesses_eq hk, found, List.map_filterMap]
      exact List.filterMap_congr fun e he => listProcess_eq ht he
  | service =>
      rw [joined, joinedInstances_eq hk, found, List.map_filterMap]
      exact List.filterMap_congr fun e he => listInstance_eq ht he

theorem map_filterMap_sublist {α β γ : Type} {f : α → Option β} {g : β → γ} {h : α → γ}
    (hf : ∀ x y, f x = some y → g y = h x) (xs : List α) :
    ((xs.filterMap f).map g).Sublist (xs.map h) := by
  induction xs with
  | nil => exact List.Sublist.refl _
  | cons x xs ih =>
      rw [List.filterMap_cons, List.map_cons]
      cases hx : f x with
      | none => exact ih.cons _
      | some y =>
          rw [List.map_cons, hf x y hx]
          exact ih.cons_cons _

theorem found_sublist (inv : Inventory) (k : Kind) :
    ((inv.found k).map (·.id)).Sublist (inv.numbers k) := by
  cases k with
  | process => exact map_filterMap_sublist (fun _ _ => id_of_activeProcess?) _
  | service => exact map_filterMap_sublist (fun _ _ => id_of_activeInstance?) _

theorem nodup_numbers (hk : inv.IsKept) (k : Kind) : (inv.numbers k).Nodup := by
  have hcast : ∀ {α : Type} {t : Table α}, t.IsKept →
      (t.entries.map fun e => (e.id : Int)).Nodup := by
    intro α t ht
    have hids := ht.ids.map (f := Int.ofNat) fun _ _ => Int.ofNat.inj
    rwa [List.map_map] at hids
  cases k with
  | process => exact hcast hk.processes
  | service => exact hcast hk.instances

theorem found_distinct (hk : inv.IsKept) (k : Kind) :
    (inv.found k).Pairwise fun a b => Cursor.at a ≠ Cursor.at b :=
  (pairwise_found hk k).imp fun hne heq => hne (congrArg Cursor.id heq)

theorem source_answers (hk : inv.IsKept) (ht : inv.IsTyped) (k : Kind) :
    (inv.source k).Answers (inv.found k) := by
  intro number after size hsize
  have hperm : (inv.actives k).Perm (inv.found k) := List.mergeSort_perm _ _
  rw [(source_lists hk ht k).pages number after size hsize,
    Source.byPlace_rowsAfter hperm (pairwise_actives hk k)]

end Inventory

namespace Source

/-- A visitor of a source that answers from rows with different places sees each of them,
once and by place, whatever the size of the pages: either it takes all, and is told how
many there were, or it fails at one and sees none of the others. An inventory is such a
source for the rows of its joins, and these have no row of the kind's own table twice. -/
theorem visits_each_once :
    (∀ (s : Source) (rows : List ActiveResource), s.Answers rows →
      (rows.Pairwise fun a b => Cursor.at a ≠ Cursor.at b) →
      ∀ size, rows.length / max size 1 < s.maxPages →
      ∃ ordered : List ActiveResource, ordered.Perm rows ∧
        (ordered.Pairwise fun a b => (Cursor.at a).Before (Cursor.at b)) ∧
        ∀ {σ : Type} (visit : Visitor ActiveResource σ) (st : σ),
          (∃ t, visit.Takes ordered st t ∧
            s.forEach visit size st = (.ok rows.length, t)) ∨
          ∃ e t, visit.Refuses ordered st e t ∧ s.forEach visit size st = (.error e, t)) ∧
    ∀ (inv : Inventory) (k : Kind), inv.IsKept → inv.IsTyped →
      ∃ rows, (inv.joined k).mapM (·.row) = .ok rows ∧
        ((rows.map (·.id)).Sublist (inv.numbers k) ∧ (inv.numbers k).Nodup) ∧
        (rows.Pairwise fun a b => Cursor.at a ≠ Cursor.at b) ∧
        (inv.source k).Answers rows ∧
        ∀ size, rows.length / max size 1 < (inv.source k).maxPages := by
  refine ⟨fun s rows h hdistinct size hfew => ?_, fun inv k hk ht => ?_⟩
  · have hperm : (byPlace rows).Perm rows := List.mergeSort_perm rows _
    refine ⟨byPlace rows, hperm, pairwise_byPlace hdistinct, fun visit st => ?_⟩
    rw [h.forEach_eq hdistinct hfew]
    rcases visit.takes_or_refuses (byPlace rows) st with ⟨t, ht⟩ | ⟨e, t, ht⟩
    · refine Or.inl ⟨t, ht, ?_⟩
      rw [Visitor.visitAll_of_takes ht, Nat.zero_add, hperm.length_eq]
    · exact Or.inr ⟨e, t, ht, Visitor.visitAll_of_refuses ht 0⟩
  · refine ⟨inv.found k, ?_, ⟨Inventory.found_sublist inv k, Inventory.nodup_numbers hk k⟩,
      Inventory.found_distinct hk k, Inventory.source_answers hk ht k, fun size => ?_⟩
    · rw [Inventory.joined_eq hk ht, Listed.mapM_row_listed]
    · have hfew := (Inventory.source_lists hk ht k).few
      rw [Inventory.actives, List.length_mergeSort] at hfew
      exact Nat.lt_of_le_of_lt (Nat.div_le_self _ _) hfew

/-- A platform with three service instances in two spaces, the newest of which has a plan. -/
def fewInstances : Inventory :=
  { Inventory.empty with
    organizations := ⟨[⟨1, "org", ⟨"o"⟩⟩], 1⟩
    spaces := ⟨[⟨1, "here", "h", 1⟩, ⟨2, "there", "t", 1⟩], 2⟩
    brokers := ⟨[⟨1, "shop", ⟨"s"⟩⟩], 1⟩
    offerings := ⟨[⟨1, "store", "d", some 1⟩], 1⟩
    plans := ⟨[⟨1, "small", "s", some 1⟩, ⟨2, "loose", "l", none⟩], 2⟩
    instances := ⟨[⟨1, "a", "x", 2, some 2, .int 1⟩, ⟨2, "b", "y", 1, none, .int 0⟩,
      ⟨3, "c", "z", 1, some 1, .int 1⟩], 3⟩ }

/-- They are seen by place, on three full pages and an empty one. -/
theorem visits_each_once_instances :
    fewInstances.IsKept ∧ fewInstances.IsTyped ∧
      (fewInstances.source .service).forEach (Visitor.noting Cursor.at) 1 [] =
        (.ok 3, [⟨"here", 2⟩, ⟨"here", 3⟩, ⟨"there", 1⟩]) := by
  have hk : fewInstances.IsKept := by
    constructor <;> first | decide | constructor <;> decide
  have ht : fewInstances.IsTyped := by
    constructor <;> decide
  refine ⟨hk, ht, ?_⟩
  obtain ⟨rows, hrows, -, hdistinct, hanswers, hfew⟩ := visits_each_once.2 _ .service hk ht
  obtain ⟨ordered, hperm, hordered, hvisits⟩ :=
    visits_each_once.1 _ rows hanswers hdistinct 1 (hfew 1)
  have hplaces : rows.map Cursor.at = [⟨"there", 1⟩, ⟨"here", 2⟩, ⟨"here", 3⟩] := by
    have hall : ((fewInstances.joined .service).mapM Listed.row).map (·.map Cursor.at) =
        Except.ok [⟨"there", 1⟩, ⟨"here", 2⟩, ⟨"here", 3⟩] := by decide +kernel
    rw [hrows] at hall
    exact Except.ok.inj hall
  have hseen : ordered.map Cursor.at = [⟨"here", 2⟩, ⟨"here", 3⟩, ⟨"there", 1⟩] := by
    have hsorted : (ordered.map Cursor.at).Pairwise Cursor.Before := List.pairwise_map.2 hordered
    have hsame := hplaces ▸ hperm.map Cursor.at
    refine List.Perm.eq_of_pairwise ?_ hsorted (by decide) (hsame.trans (by decide))
    exact fun a b _ _ hab hba => absurd hba hab.asymm
  rcases hvisits (Visitor.noting Cursor.at) [] with ⟨all, htakes, hall⟩ | ⟨e, t, hrefuses, -⟩
  · have hlen : rows.length = 3 := by
      rw [← List.length_map (f := Cursor.at), hplaces]
      rfl
    rw [hall, hlen, Visitor.takes_noting.1 htakes, List.nil_append, hseen]
  · exact absurd hrefuses Visitor.not_refuses_noting

end Source

end Metering
