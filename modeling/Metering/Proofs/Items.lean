import Metering.Active.Item
import Metering.Proofs.Documents

/-!
# Items read back

The text of a list of items is read back as the same list. Two things come
together here: the text of a document is read back (`readWithin?_write`), and the
shape of an item can be told from its document, since a record without a
process's guid is no process. Numbers have to be of 64 bits, as those of the
inventory are.
-/

namespace Metering

namespace Json

theorem signed64?_int {n : Int} (h : Word.holdsSigned n = true) :
    signed64? (.int n) = some n := by
  unfold Word.holdsSigned at h
  rw [Bool.and_eq_true, decide_eq_true_eq, decide_eq_true_eq] at h
  exact if_pos h

theorem isWhole_of_holdsSigned {n : Int} (h : Word.holdsSigned n = true) :
    Token.IsWhole n := by
  unfold Word.holdsSigned Word.maxSigned at h
  unfold Token.IsWhole Word.max
  rw [Bool.and_eq_true, decide_eq_true_eq, decide_eq_true_eq] at h
  omega

theorem Fields.optional_ofOption {α : Type} {f : Fields} {name : String}
    {write : α → Json} {read : Json → Option α} {value : Option α}
    (hgiven : f.given.lookup name = some (ofOption write value))
    (hread : ∀ a, value = some a → write a ≠ .null ∧ read (write a) = some a) :
    f.optional name read = some value := by
  unfold optional
  rw [hgiven]
  cases value with
  | none => rfl
  | some a =>
      obtain ⟨hne, ha⟩ := hread a rfl
      split
      · next h => cases h
      · next h => exact absurd (Option.some.inj h) hne
      · next h =>
          obtain rfl := Option.some.inj h
          exact congrArg (Option.map some) ha

section Parts

variable {α : Type} {write : α → Json} {read : Json → Option α} {value : Option α}
  {xs : List α}

theorem isExact_ofOption (h : ∀ a, value = some a → (write a).IsExact) :
    (ofOption write value).IsExact := by
  cases value with
  | none => trivial
  | some a => exact h a rfl

theorem nesting_ofOption (h : ∀ a, (write a).nesting = 0) : (ofOption write value).nesting = 0 := by
  cases value with
  | none => rfl
  | some a => exact h a

theorem areExact_map (h : ∀ x ∈ xs, (write x).IsExact) : AreExact (xs.map write) := by
  induction xs with
  | nil => trivial
  | cons x xs ih => exact ⟨h x (by simp), ih fun y hy => h y (List.mem_cons_of_mem _ hy)⟩

theorem itemNesting_map_le {n : Nat} (h : ∀ x ∈ xs, (write x).nesting ≤ n) :
    itemNesting (xs.map write) ≤ n := by
  induction xs with
  | nil => exact Nat.zero_le n
  | cons x xs ih =>
      rw [List.map_cons, itemNesting]
      exact Nat.max_le.2 ⟨h x (by simp), ih fun y hy => h y (List.mem_cons_of_mem _ hy)⟩

theorem list?_map (h : ∀ x ∈ xs, read (write x) = some x) :
    list? read (.arr (xs.map write)) = some xs := by
  show (xs.map write).mapM read = some xs
  induction xs with
  | nil => rfl
  | cons x xs ih =>
      rw [List.map_cons, List.mapM_cons, h x (by simp),
        ih fun y hy => h y (List.mem_cons_of_mem _ hy)]
      rfl

end Parts

end Json

theorem Json.fieldsOf?_obj {d : Json.Dialect} {fields : List (String × Json)}
    {names : List String} (hnames : fields.map (·.1) = names) (hnodup : names.Nodup) :
    Json.fieldsOf? d names (.obj fields) = some ⟨true, fields⟩ := by
  have hknown : fields.filter (fun f => names.contains f.1) = fields := by
    refine List.filter_eq_self.2 fun f hf => ?_
    rw [List.contains_iff_mem, ← hnames]
    exact List.mem_map_of_mem hf
  simp only [Json.fieldsOf?, hknown]
  rw [if_pos (hnames ▸ hnodup)]

namespace ProcessItem

/-- The fields of a process's document. -/
def fields (p : ProcessItem) : List (String × Json) :=
  [("app_guid", .str p.app), ("app_name", .str p.appName),
    ("process_guid", .str p.process), ("process_type", .str p.type),
    ("instance_count", Json.ofOption .int p.instances),
    ("memory_in_mb_per_instance", Json.ofOption .int p.memory),
    ("buildpack_guid", Json.ofOption .str p.buildpack),
    ("buildpack_name", Json.ofOption .str p.buildpackName)]

theorem toJson_eq (p : ProcessItem) : p.toJson = .obj p.fields := rfl

theorem ofJson?_toJson {p : ProcessItem}
    (hinstances : ∀ n, p.instances = some n → Word.holdsSigned n = true)
    (hmemory : ∀ n, p.memory = some n → Word.holdsSigned n = true) :
    ofJson? p.toJson = some p := by
  let f : Json.Fields := ⟨true, p.fields⟩
  have hf : p.toJson.fieldsOf? .plain fieldNames = some f :=
    Json.fieldsOf?_obj rfl (by decide)
  have happ : f.required "app_guid" Json.text? = some p.app := rfl
  have hname : f.required "app_name" Json.text? = some p.appName := rfl
  have hprocess : f.required "process_guid" Json.text? = some p.process := rfl
  have htype : f.required "process_type" Json.text? = some p.type := rfl
  have hinst : f.optional "instance_count" Json.signed64? = some p.instances :=
    Json.Fields.optional_ofOption rfl fun n hn =>
      ⟨by simp, Json.signed64?_int (hinstances n hn)⟩
  have hmem : f.optional "memory_in_mb_per_instance" Json.signed64? = some p.memory :=
    Json.Fields.optional_ofOption rfl fun n hn =>
      ⟨by simp, Json.signed64?_int (hmemory n hn)⟩
  have hpack : f.optional "buildpack_guid" Json.text? = some p.buildpack :=
    Json.Fields.optional_ofOption rfl fun s _ => ⟨by simp, rfl⟩
  have hpackName : f.optional "buildpack_name" Json.text? = some p.buildpackName :=
    Json.Fields.optional_ofOption rfl fun s _ => ⟨by simp, rfl⟩
  simp only [ofJson?, hf, happ, hname, hprocess, htype, hinst, hmem, hpack, hpackName,
    Option.bind_eq_bind, Option.bind_some]
  rfl

end ProcessItem

namespace ServiceItem

/-- The fields of a service instance's document. -/
def fields (s : ServiceItem) : List (String × Json) :=
  [("service_instance_guid", .str s.service),
    ("service_instance_name", .str s.serviceName),
    ("service_instance_type", .str s.type),
    ("service_plan_guid", Json.ofOption .str s.plan),
    ("service_plan_name", Json.ofOption .str s.planName),
    ("service_offering_guid", Json.ofOption .str s.offering),
    ("service_offering_name", Json.ofOption .str s.offeringName),
    ("service_broker_guid", Json.ofOption .str s.broker),
    ("service_broker_name", Json.ofOption .str s.brokerName)]

theorem toJson_eq (s : ServiceItem) : s.toJson = .obj s.fields := rfl

theorem ofJson?_toJson (s : ServiceItem) : ofJson? s.toJson = some s := by
  let f : Json.Fields := ⟨true, s.fields⟩
  have hf : s.toJson.fieldsOf? .plain fieldNames = some f :=
    Json.fieldsOf?_obj rfl (by decide)
  have hservice : f.required "service_instance_guid" Json.text? = some s.service := rfl
  have hname : f.required "service_instance_name" Json.text? = some s.serviceName := rfl
  have htype : f.required "service_instance_type" Json.text? = some s.type := rfl
  have hopt : ∀ name value, f.given.lookup name = some (Json.ofOption .str value) →
      f.optional name Json.text? = some value := fun name value h =>
    Json.Fields.optional_ofOption h fun t _ => ⟨by simp, rfl⟩
  have hplan := hopt "service_plan_guid" s.plan rfl
  have hplanName := hopt "service_plan_name" s.planName rfl
  have hoffering := hopt "service_offering_guid" s.offering rfl
  have hofferingName := hopt "service_offering_name" s.offeringName rfl
  have hbroker := hopt "service_broker_guid" s.broker rfl
  have hbrokerName := hopt "service_broker_name" s.brokerName rfl
  simp only [ofJson?, hf, hservice, hname, htype, hplan, hplanName, hoffering,
    hofferingName, hbroker, hbrokerName, Option.bind_eq_bind, Option.bind_some]
  rfl

/-- A service instance has no app, so it is not read as a process. -/
theorem not_process (s : ServiceItem) : ProcessItem.ofJson? s.toJson = none := by
  have hf : s.toJson.fieldsOf? .plain ProcessItem.fieldNames = some ⟨true, []⟩ := rfl
  simp only [ProcessItem.ofJson?, hf, Option.bind_eq_bind, Option.bind_some]
  rfl

end ServiceItem

namespace UsageItem

/-- Whether the numbers of an item are of 64 bits. -/
def Fits : UsageItem → Prop
  | .process p => (∀ n, p.instances = some n → Word.holdsSigned n = true) ∧
      ∀ n, p.memory = some n → Word.holdsSigned n = true
  | .service _ => True

theorem ofJson?_toJson {item : UsageItem} (h : item.Fits) :
    ofJson? item.toJson = some item := by
  cases item with
  | process p =>
      rw [ofJson?, toJson, ProcessItem.ofJson?_toJson h.1 h.2]
  | service s =>
      rw [ofJson?, toJson, ServiceItem.not_process, ServiceItem.ofJson?_toJson]
      rfl

theorem isExact_toJson {item : UsageItem} (h : item.Fits) : item.toJson.IsExact := by
  have hint : ∀ value : Option Int, (∀ n, value = some n → Word.holdsSigned n = true) →
      (Json.ofOption .int value).IsExact := fun value hn =>
    Json.isExact_ofOption fun n hsome => Json.isWhole_of_holdsSigned (hn n hsome)
  have htext : ∀ value : Option String, (Json.ofOption .str value).IsExact := fun value =>
    Json.isExact_ofOption fun _ _ => trivial
  cases item with
  | process p =>
      exact ⟨trivial, trivial, trivial, trivial, hint _ h.1, hint _ h.2, htext _, htext _,
        trivial⟩
  | service s =>
      exact ⟨trivial, trivial, trivial, htext _, htext _, htext _, htext _, htext _,
        htext _, trivial⟩

theorem nesting_toJson (item : UsageItem) : item.toJson.nesting = 1 := by
  have hint : ∀ value : Option Int, (Json.ofOption .int value).nesting = 0 := fun value =>
    Json.nesting_ofOption fun _ => rfl
  have htext : ∀ value : Option String, (Json.ofOption .str value).nesting = 0 := fun value =>
    Json.nesting_ofOption fun _ => rfl
  cases item with
  | process p =>
      simp [toJson, ProcessItem.toJson, Json.nesting, Json.fieldNesting, hint, htext]
  | service s =>
      simp [toJson, ServiceItem.toJson, Json.nesting, Json.fieldNesting, htext]

theorem readAll?_writeAll {items : List UsageItem} (h : ∀ i ∈ items, i.Fits) :
    readAll? (writeAll items) = some items := by
  have hexact : (Json.arr (items.map toJson)).IsExact :=
    Json.areExact_map fun i hi => isExact_toJson (h i hi)
  have hdeep : Json.itemNesting (items.map toJson) ≤ 1 :=
    Json.itemNesting_map_le fun i _ => Nat.le_of_eq (nesting_toJson i)
  have hread : Json.read? (writeAll items) = some (.arr (items.map toJson)) :=
    Json.readWithin?_write hexact (Nat.le_trans (Nat.succ_le_succ hdeep) (by decide))
  unfold readAll?
  rw [hread]
  exact Json.list?_map fun i hi => ofJson?_toJson (h i hi)

end UsageItem

end Metering
