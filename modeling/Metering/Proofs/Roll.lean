import Mathlib.Data.Finmap
import Mathlib.Data.List.TakeWhile
import Metering.Proofs.Consumption

/-!
# A registry is a map

A registry is kept as a list, and each operation on it is told as a change of a list.
Whoever calls it sees a finite map from consumers to what they last said, and one thing
more: asked for everyone, it answers in the order in which they registered, and a
consumer that took its registration back and made it again comes last. `Roll` is this
map. It notes with each consumer the turn in which it registered, so that the order is
one of numbers and the map needs none of its own.

A call is checked before anything is done. `Call.faults` lists all that is wrong with
it, in the order in which it is looked for, and `Call.perform_cases` says all that a call
can do: it is refused for the first of its faults and does nothing, or it has none, is
answered from the roll and revises it. A run is an induction on this. What the induction
has to carry is that the list is in the order of the turns, and this rests on turns only
ever going up.
-/

namespace Metering

/-! ## The map -/

/-- What a roll says of a consumer. -/
structure Entry where
  watermark : String
  createdAt : Int
  updatedAt : Int
  /-- The turn in which the consumer registered. -/
  turn : Nat
deriving DecidableEq

/-- The registration of a consumer with an entry. -/
def Entry.registration (consumer : String) (e : Entry) : Registration :=
  ⟨consumer, e.watermark, e.createdAt, e.updatedAt⟩

/-- The registered consumers of a kind. -/
abbrev Roll := Finmap fun _ : String => Entry

namespace Roll

/-- A list shows the consumers of a roll, each once, in the order of their turns. -/
def Lists (m : Roll) (xs : List Registration) : Prop :=
  ∃ entries : List (String × Entry), xs = entries.map (fun x => x.2.registration x.1) ∧
    entries.Pairwise (·.2.turn < ·.2.turn) ∧
    ∀ c e, (c, e) ∈ entries ↔ m.lookup c = some e

/-- All entries were made before a turn. -/
def Before (turn : Nat) (m : Roll) : Prop := ∀ d e, m.lookup d = some e → e.turn < turn

variable {m : Roll} {xs : Registry} {c : String} {e : Entry} {turn : Nat}

theorem before_empty : Before turn ∅ := fun d e h => by simp at h

theorem Before.mono (h : m.Before turn) {later : Nat} (hle : turn ≤ later) : m.Before later :=
  fun d e he => Nat.lt_of_lt_of_le (h d e he) hle

theorem Before.insert (h : m.Before turn) (he : e.turn < turn) :
    Before turn (m.insert c e) := by
  intro d f hf
  by_cases hd : d = c
  · subst hd
    rw [Finmap.lookup_insert] at hf
    rwa [← Option.some.inj hf]
  · rw [Finmap.lookup_insert_of_ne _ hd] at hf
    exact h d f hf

theorem Before.erase (h : m.Before turn) (c : String) : Before turn (m.erase c) := by
  intro d f hf
  by_cases hd : d = c
  · subst hd
    rw [Finmap.lookup_erase] at hf
    cases hf
  · rw [Finmap.lookup_erase_ne hd] at hf
    exact h d f hf

theorem lists_empty : Lists ∅ [] :=
  ⟨[], rfl, List.Pairwise.nil, fun c e => by simp [Finmap.lookup_empty]⟩

theorem Lists.distinct (h : m.Lists xs) : xs.Distinct := by
  obtain ⟨entries, rfl, hturns, hentries⟩ := h
  refine List.pairwise_map.2 (hturns.imp_of_mem fun {a b} ha hb hlt heq => ?_)
  have hname : a.1 = b.1 := heq
  have ha' := (hentries a.1 a.2).1 ha
  rw [hname, (hentries b.1 b.2).1 hb] at ha'
  rw [Option.some.inj ha'] at hlt
  exact Nat.lt_irrefl _ hlt

theorem Lists.find? (h : m.Lists xs) (c : String) :
    Registry.find? xs c = (m.lookup c).map (Entry.registration c) := by
  have hdistinct := h.distinct
  obtain ⟨entries, rfl, -, hentries⟩ := h
  cases hc : m.lookup c with
  | none =>
      refine Registry.find?_eq_none.2 fun x hx heq => ?_
      obtain ⟨⟨d, e⟩, he, rfl⟩ := List.mem_map.1 hx
      have hd := (hentries d e).1 he
      rw [show d = c from heq, hc] at hd
      cases hd
  | some e =>
      exact hdistinct.find?_eq_some (List.mem_map_of_mem ((hentries c e).2 hc))

theorem Lists.isSome_find? (h : m.Lists xs) :
    (Registry.find? xs c).isSome = true ↔ c ∈ m := by
  rw [h.find?, Option.isSome_map, Finmap.lookup_isSome]

theorem Lists.insert_new (h : m.Lists xs) (hnew : c ∉ m)
    (hturn : m.Before e.turn) : Lists (m.insert c e) (xs ++ [e.registration c]) := by
  obtain ⟨entries, rfl, hturns, hentries⟩ := h
  refine ⟨entries ++ [(c, e)], by simp, ?_, fun d f => ?_⟩
  · refine List.pairwise_append.2 ⟨hturns, List.pairwise_singleton _ _, fun x hx y hy => ?_⟩
    rw [List.mem_singleton.1 hy]
    exact hturn x.1 x.2 ((hentries x.1 x.2).1 hx)
  · rw [List.mem_append, List.mem_singleton, hentries]
    by_cases hd : d = c
    · subst hd
      rw [Finmap.lookup_insert, Finmap.lookup_eq_none.2 hnew]
      simp [eq_comm]
    · rw [Finmap.lookup_insert_of_ne _ hd]
      simp [hd]

theorem Lists.insert_old (h : m.Lists xs) {old : Entry} (hold : m.lookup c = some old)
    (hturn : e.turn = old.turn) :
    Lists (m.insert c e)
      (xs.map fun x => if x.consumer = c then e.registration c else x) := by
  obtain ⟨entries, rfl, hturns, hentries⟩ := h
  have hsame : ∀ x ∈ entries, (if x.1 = c then (c, e) else x).2.turn = x.2.turn := by
    intro x hx
    split
    · next hc =>
        have hx := (hentries x.1 x.2).1 hx
        rw [hc, hold] at hx
        rw [← Option.some.inj hx]
        exact hturn
    · rfl
  refine ⟨entries.map fun x => if x.1 = c then (c, e) else x, ?_, ?_, fun d f => ?_⟩
  · rw [List.map_map, List.map_map]
    refine List.map_congr_left fun x _ => ?_
    by_cases hc : x.1 = c <;> simp [hc, Entry.registration]
  · refine List.pairwise_map.2 (hturns.imp_of_mem fun {a b} ha hb hlt => ?_)
    rwa [hsame a ha, hsame b hb]
  · rw [List.mem_map]
    by_cases hd : d = c
    · subst hd
      rw [Finmap.lookup_insert]
      constructor
      · rintro ⟨x, -, hx⟩
        split at hx
        · exact congrArg (some ·.2) hx
        · next hne => exact absurd (congrArg Prod.fst hx) hne
      · intro hf
        obtain rfl := Option.some.inj hf
        exact ⟨(d, old), (hentries d old).2 hold, if_pos rfl⟩
    · rw [Finmap.lookup_insert_of_ne _ hd, ← hentries]
      constructor
      · rintro ⟨x, hx, heq⟩
        split at heq
        · exact absurd (congrArg Prod.fst heq).symm hd
        · exact heq ▸ hx
      · exact fun hx => ⟨(d, f), hx, if_neg hd⟩

theorem Lists.erase (h : m.Lists xs) (c : String) :
    Lists (m.erase c) (xs.filter (·.consumer ≠ c)) := by
  obtain ⟨entries, rfl, hturns, hentries⟩ := h
  refine ⟨entries.filter (·.1 ≠ c), ?_, hturns.filter _, fun d f => ?_⟩
  · rw [List.filter_map]
    rfl
  · rw [List.mem_filter, hentries]
    by_cases hd : d = c
    · subst hd
      simp [Finmap.lookup_erase]
    · simp [Finmap.lookup_erase_ne hd, hd]

end Roll

/-! ## The checks -/

theorem Text.trim_eq_nil {cs : List Char} : trim cs = [] ↔ ∀ c ∈ cs, isBlank c = true := by
  have hcs : cs.takeWhile isBlank ++ cs.dropWhile isBlank = cs := List.takeWhile_append_dropWhile
  simp only [trim, List.reverse_eq_nil_iff, List.dropWhile_eq_nil_iff, List.mem_reverse]
  constructor
  · intro h c hc
    rw [← hcs, List.mem_append] at hc
    rcases hc with hc | hc
    · exact List.mem_takeWhile_imp hc
    · exact h c hc
  · exact fun h c hc => h c ((List.dropWhile_sublist _).subset hc)

namespace Registry

/-- What is wrong with a guid that is given for a field. -/
def guidFaults (field guid : String) : List Error :=
  (if Text.trim guid.toList = [] then [.invalidConsumer field "must be present"] else []) ++
    if 255 < guid.length then [.invalidConsumer field "must be at most 255 characters"] else []

/-- Whether a guid may be given. -/
def IsGuid (guid : String) : Prop :=
  Text.trim guid.toList ≠ [] ∧ guid.length ≤ 255

theorem guidFaults_eq_nil {field guid : String} : guidFaults field guid = [] ↔ IsGuid guid := by
  unfold guidFaults IsGuid
  split <;> split <;> simp_all

/-- A call on the registry of a kind. -/
inductive Call where
  | register (consumer watermark : String)
  | move (consumer watermark : String)
  | deregister (consumer : String)
  | find (consumer : String)
  | list

/-- The answer to a call that is not refused. -/
inductive Reply where
  | registered (x : Registration)
  | removed
  | found (x : Option Registration)
  | listed (xs : List Registration)
deriving DecidableEq

/-- The registrations that an answer returns. -/
def Reply.registrations : Reply → List Registration
  | registered x => [x]
  | removed => []
  | found x => x.toList
  | listed xs => xs

namespace Call

def perform (k : Kind) (now : Int) (db : Database) : Call → Except Error Reply × Database
  | register consumer watermark =>
    let (answer, db) := db.onConsumers k (Registry.register now consumer watermark)
    (answer.map .registered, db)
  | move consumer watermark =>
    let (answer, db) := db.onConsumers k (Registry.update now consumer watermark)
    (answer.map .registered, db)
  | deregister consumer =>
    let (answer, db) := db.onConsumers k fun r => do pure ((), ← r.deregister consumer)
    (answer.map fun _ => .removed, db)
  | find consumer => ((db.askConsumers k (·.find? consumer)).map .found, db)
  | list => ((db.askConsumers k id).map .listed, db)

/-- All that is wrong with a call, in the order in which it is looked for. -/
def faults (m : Roll) : Call → List Error
  | register consumer watermark =>
    guidFaults "consumer_guid" consumer ++ guidFaults "last_processed_guid" watermark ++
      if consumer ∈ m then
        [.invalidConsumer "consumer_guid" (consumer ++ " is already registered")]
      else []
  | move consumer watermark =>
    guidFaults "last_processed_guid" watermark ++
      if consumer ∈ m then [] else [.consumerNotFound consumer]
  | deregister consumer => if consumer ∈ m then [] else [.consumerNotFound consumer]
  | find _ | list => []

/-- Whether a call is granted. -/
def IsGranted (m : Roll) : Call → Prop
  | register consumer watermark => IsGuid consumer ∧ IsGuid watermark ∧ consumer ∉ m
  | move consumer watermark => IsGuid watermark ∧ consumer ∈ m
  | deregister consumer => consumer ∈ m
  | find _ | list => True

theorem faults_eq_nil {m : Roll} {c : Call} : c.faults m = [] ↔ c.IsGranted m := by
  cases c with
  | register consumer watermark =>
      simp only [faults, IsGranted, List.append_eq_nil_iff, guidFaults_eq_nil, and_assoc]
      by_cases h : consumer ∈ m <;> simp [h]
  | move consumer watermark =>
      simp only [faults, IsGranted, List.append_eq_nil_iff, guidFaults_eq_nil]
      by_cases h : consumer ∈ m <;> simp [h]
  | deregister consumer =>
      simp only [faults, IsGranted]
      by_cases h : consumer ∈ m <;> simp [h]
  | find | list => simp [faults, IsGranted]

/-- What a call is answered when it is granted. -/
def Shows (m : Roll) (now : Int) : Call → Reply → Prop
  | register consumer watermark, reply =>
    reply = .registered ⟨consumer, watermark, now, now⟩
  | move consumer watermark, reply =>
    ∃ e, m.lookup consumer = some e ∧
      reply = .registered ⟨consumer, watermark, e.createdAt, now⟩
  | deregister _, reply => reply = .removed
  | find consumer, reply => reply = .found ((m.lookup consumer).map (Entry.registration consumer))
  | list, reply => ∃ xs, reply = .listed xs ∧ m.Lists xs

/-- The roll after a call in a turn that was granted. -/
def revise (turn : Nat) (now : Int) (m : Roll) : Call → Roll
  | register consumer watermark => m.insert consumer ⟨watermark, now, now, turn⟩
  | move consumer watermark =>
    match m.lookup consumer with
    | some e => m.insert consumer { e with watermark := watermark, updatedAt := now }
    | none => m
  | deregister consumer => m.erase consumer
  | find _ | list => m

end Call

/-! ## One call -/

/-- Refuses with the first fault. -/
def refuse : List Error → Except Error Unit
  | [] => .ok ()
  | e :: _ => .error e

theorem refuse_append (es fs : List Error) :
    refuse (es ++ fs) = (do refuse es; refuse fs) := by
  cases es <;> rfl

theorem checkGuid_eq (field guid : String) :
    checkGuid field guid = refuse (guidFaults field guid) := by
  have hblank : Text.allBlank guid = true ↔ Text.trim guid.toList = [] := by
    rw [Text.trim_eq_nil]
    simp [Text.allBlank]
  unfold checkGuid guidProblem? guidFaults maxGuidLength
  by_cases h : Text.allBlank guid = true
  · rw [if_pos h, if_pos (hblank.1 h)]
    rfl
  · rw [if_neg h, if_neg (mt hblank.2 h)]
    by_cases hlong : 255 < guid.length
    · rw [if_pos hlong, if_pos hlong]
      rfl
    · rw [if_neg hlong, if_neg hlong]
      rfl

namespace Call

variable {m : Roll} {r : Registry} {consumer watermark : String}

theorem register_eq (h : m.Lists r) (now : Int) :
    r.register now consumer watermark =
      (refuse ((register consumer watermark).faults m)).map fun _ =>
        (⟨consumer, watermark, now, now⟩, r ++ [⟨consumer, watermark, now, now⟩]) := by
  unfold Registry.register
  simp only [checkGuid_eq, faults, refuse_append, h.isSome_find?]
  cases refuse (guidFaults "consumer_guid" consumer) with
  | error e => rfl
  | ok u =>
      cases refuse (guidFaults "last_processed_guid" watermark) with
      | error e => rfl
      | ok u => by_cases hc : consumer ∈ m <;> simp only [hc, if_true, if_false] <;> rfl

theorem update_known (h : m.Lists r) {e : Entry} (hc : m.lookup consumer = some e)
    (now : Int) :
    r.update now consumer watermark =
      (refuse ((move consumer watermark).faults m)).map fun _ =>
        (⟨consumer, watermark, e.createdAt, now⟩,
          r.map fun x => if x.consumer = consumer then
            ⟨consumer, watermark, e.createdAt, now⟩ else x) := by
  have hmem : consumer ∈ m := Finmap.mem_of_lookup_eq_some hc
  have hfind : r.find? consumer = some (e.registration consumer) := by rw [h.find?, hc]; rfl
  unfold Registry.update
  simp only [checkGuid_eq, faults, hfind, if_pos hmem, List.append_nil]
  cases refuse (guidFaults "last_processed_guid" watermark) <;> rfl

theorem update_unknown (h : m.Lists r) (hc : m.lookup consumer = none) (now : Int)
    (x : Registration × Registry) :
    r.update now consumer watermark =
      (refuse ((move consumer watermark).faults m)).map fun _ => x := by
  have hmem : consumer ∉ m := Finmap.lookup_eq_none.1 hc
  have hfind : r.find? consumer = none := by rw [h.find?, hc]; rfl
  unfold Registry.update
  simp only [checkGuid_eq, faults, hfind, if_neg hmem, refuse_append]
  cases refuse (guidFaults "last_processed_guid" watermark) <;> rfl

theorem deregister_eq (h : m.Lists r) :
    (do pure ((), ← r.deregister consumer)) =
      (refuse ((deregister consumer).faults m)).map fun _ =>
        ((), r.filter (·.consumer ≠ consumer)) := by
  unfold Registry.deregister
  simp only [faults, h.isSome_find?]
  by_cases hc : consumer ∈ m <;> simp only [hc, if_true, if_false] <;> rfl

variable {db : Database} {k : Kind} {turn : Nat}

theorem askConsumers_eq {α : Type} (hinst : db.installed = true) (f : Registry → α) :
    db.askConsumers k f = .ok (f (db.consumers k)) := by
  unfold Database.askConsumers Database.need
  rw [if_pos hinst]
  rfl

theorem change_cases {α : Type} {f : Registry → Except Error (α × Registry)}
    {es : List Error} {a : α} (hinst : db.installed = true)
    (hf : f (db.consumers k) = (refuse es).map fun _ => (a, r)) :
    (∃ e rest, es = e :: rest ∧ db.onConsumers k f = (.error e, db)) ∨
    (es = [] ∧ db.onConsumers k f =
      (.ok a, db.withBooks k { db.books.get k with consumers := r })) := by
  rcases Database.onConsumers_cases hinst f with ⟨e, herr, heq⟩ | ⟨b, r', hok, heq⟩
  · cases es with
    | nil => rw [hf] at herr; cases herr
    | cons e' rest =>
        rw [hf] at herr
        obtain rfl := Except.error.inj herr
        exact Or.inl ⟨_, rest, rfl, heq⟩
  · cases es with
    | nil =>
        rw [hf] at hok
        obtain ⟨rfl, rfl⟩ := Prod.mk.inj (Except.ok.inj hok)
        exact Or.inr ⟨rfl, heq⟩
    | cons e' rest => rw [hf] at hok; cases hok

/-- A call has no faults, and is answered from the roll and revises it. -/
def Grants (m : Roll) (turn : Nat) (k : Kind) (now : Int) (db : Database) (c : Call) : Prop :=
  ∃ reply r, c.faults m = [] ∧
    c.perform k now db =
      (.ok reply, db.withBooks k { db.books.get k with consumers := r }) ∧
    c.Shows m now reply ∧ (c.revise turn now m).Lists r

theorem grants_of_same {now : Int} {c : Call} {reply : Reply} (h : m.Lists (db.consumers k))
    (hfaults : c.faults m = []) (hperform : c.perform k now db = (.ok reply, db))
    (hshows : c.Shows m now reply) (hrevise : c.revise turn now m = m) :
    c.Grants m turn k now db := by
  refine ⟨reply, db.consumers k, hfaults, ?_, hshows, ?_⟩
  · rw [hperform]
    exact congrArg (Prod.mk _) (Database.withBooks_self db k).symm
  · rw [hrevise]
    exact h

/-- A call is refused for the first of its faults, or it has none and is granted. -/
theorem perform_cases (hinst : db.installed = true) (h : m.Lists (db.consumers k))
    (hturn : m.Before turn) (now : Int) (c : Call) :
    (∃ e rest, c.faults m = e :: rest ∧ c.perform k now db = (.error e, db)) ∨
    c.Grants m turn k now db := by
  cases c with
  | register consumer watermark =>
      rcases change_cases hinst (register_eq h now) with ⟨e, rest, hes, heq⟩ | ⟨hes, heq⟩
      · exact Or.inl ⟨e, rest, hes, by rw [perform, heq]; rfl⟩
      · have hnew : consumer ∉ m := (faults_eq_nil.1 hes).2.2
        exact Or.inr ⟨_, _, hes, by rw [perform, heq]; rfl, rfl, h.insert_new hnew hturn⟩
  | move consumer watermark =>
      cases hc : m.lookup consumer with
      | none =>
          rcases change_cases hinst (update_unknown h hc now default)
            with ⟨e, rest, hes, heq⟩ | ⟨hes, -⟩
          · exact Or.inl ⟨e, rest, hes, by rw [perform, heq]; rfl⟩
          · exact absurd (faults_eq_nil.1 hes).2 (Finmap.lookup_eq_none.1 hc)
      | some e =>
          rcases change_cases hinst (update_known h hc now)
            with ⟨err, rest, hes, heq⟩ | ⟨hes, heq⟩
          · exact Or.inl ⟨err, rest, hes, by rw [perform, heq]; rfl⟩
          · refine Or.inr ⟨_, _, hes, by rw [perform, heq]; rfl, ⟨e, hc, rfl⟩, ?_⟩
            rw [revise, hc]
            exact h.insert_old hc rfl
  | deregister consumer =>
      rcases change_cases (f := fun r => do pure ((), ← r.deregister consumer)) hinst
        (deregister_eq h) with ⟨e, rest, hes, heq⟩ | ⟨hes, heq⟩
      · exact Or.inl ⟨e, rest, hes, by rw [perform, heq]; rfl⟩
      · exact Or.inr ⟨_, _, hes, by rw [perform, heq]; rfl, rfl, h.erase consumer⟩
  | find consumer =>
      refine Or.inr (grants_of_same h rfl ?_ (congrArg Reply.found (h.find? consumer)) rfl)
      rw [perform, askConsumers_eq hinst]
      rfl
  | list =>
      refine Or.inr (grants_of_same h rfl ?_ ⟨_, rfl, h⟩ rfl)
      rw [perform, askConsumers_eq hinst]
      rfl

theorem find_revise {now : Int} {c : Call} {reply : Reply} (h : c.Shows m now reply)
    {x : Registration} (hx : x ∈ reply.registrations) :
    ((c.revise turn now m).lookup x.consumer).map (Entry.registration x.consumer) = some x := by
  cases c with
  | register consumer watermark =>
      subst h
      obtain rfl := List.mem_singleton.1 hx
      rw [revise, Finmap.lookup_insert]
      rfl
  | move consumer watermark =>
      obtain ⟨e, hc, rfl⟩ := h
      obtain rfl := List.mem_singleton.1 hx
      rw [revise, hc]
      exact congrArg (Option.map _) (Finmap.lookup_insert m)
  | deregister consumer =>
      subst h
      cases hx
  | find consumer =>
      subst h
      have hfound := Option.mem_toList.1 hx
      obtain ⟨e, -, rfl⟩ := Option.map_eq_some_iff.1 hfound
      exact hfound
  | list =>
      obtain ⟨xs, rfl, hlists⟩ := h
      rw [revise, ← hlists.find?]
      exact hlists.distinct.find?_eq_some hx

theorem before_revise (h : m.Before turn) (now : Int) (c : Call) :
    (c.revise turn now m).Before (turn + 1) := by
  have hmono := h.mono turn.le_succ
  cases c with
  | register consumer watermark => exact hmono.insert turn.lt_succ_self
  | move consumer watermark =>
      cases hc : m.lookup consumer with
      | none =>
          rw [revise, hc]
          exact hmono
      | some old =>
          rw [revise, hc]
          exact hmono.insert (hmono consumer old hc)
  | deregister consumer => exact hmono.erase consumer
  | find | list => exact hmono

end Call

/-! ## Many calls -/

/-- A call on the registry of a kind, at a time. -/
structure Turn where
  kind : Kind
  now : Int
  call : Call

def Turn.perform (db : Database) (t : Turn) : Except Error Reply × Database :=
  t.call.perform t.kind t.now db

def performAll (turns : List Turn) (db : Database) : Database :=
  turns.foldl (fun db t => (t.perform db).2) db

/-- The rolls of both kinds, and the turn that comes next. -/
structure Rolls where
  turn : Nat
  rolls : PerKind Roll

namespace Rolls

/-- A turn revises the roll of its kind if its call has no faults. -/
def step (m : Rolls) (t : Turn) : Rolls :=
  ⟨m.turn + 1,
    if (t.call.faults (m.rolls.get t.kind)).isEmpty then
      m.rolls.set t.kind (t.call.revise m.turn t.now (m.rolls.get t.kind))
    else m.rolls⟩

def after (m : Rolls) (turns : List Turn) : Rolls := turns.foldl step m

/-- The registries of a database list the rolls, and all entries are from earlier turns. -/
structure Describes (m : Rolls) (db : Database) : Prop where
  installed : db.installed = true
  lists : ∀ k, (m.rolls.get k).Lists (db.consumers k)
  early : ∀ k, (m.rolls.get k).Before m.turn

/-- Nobody is registered yet. -/
def none : Rolls := ⟨0, PerKind.replicate ∅⟩

theorem describes_fresh : none.Describes Database.fresh where
  installed := rfl
  lists k := by cases k <;> exact Roll.lists_empty
  early k := by cases k <;> exact Roll.before_empty

variable {m : Rolls} {db : Database}

/-- A granted turn revises the roll of its kind and no other, and one that is not
granted is no more than a turn gone by. -/
theorem Describes.step (h : m.Describes db) (t : Turn) :
    (m.step t).Describes (t.perform db).2 := by
  have hnext : ∀ k, (m.rolls.get k).Before (m.turn + 1) :=
    fun k => (h.early k).mono m.turn.le_succ
  rcases t.call.perform_cases h.installed (h.lists t.kind) (h.early t.kind) t.now
    with ⟨e, rest, hfaults, hperform⟩ | ⟨reply, r, hfaults, hperform, -, hlists⟩
  · rw [Turn.perform, hperform, Rolls.step, hfaults]
    exact ⟨h.installed, h.lists, hnext⟩
  · rw [Turn.perform, hperform, Rolls.step, hfaults]
    refine ⟨h.installed, fun k => ?_, fun k => ?_⟩
    · by_cases hk : k = t.kind
      · subst hk
        simpa [Database.consumers] using hlists
      · simpa [Database.consumers, PerKind.get_set_of_ne _ hk, Database.books_withBooks_of_ne hk]
          using h.lists k
    · by_cases hk : k = t.kind
      · subst hk
        simpa using t.call.before_revise (h.early t.kind) t.now
      · simpa [PerKind.get_set_of_ne _ hk] using hnext k

theorem Describes.after (h : m.Describes db) (turns : List Turn) :
    (m.after turns).Describes (performAll turns db) := by
  induction turns generalizing m db with
  | nil => exact h
  | cons t turns ih => exact ih (h.step t)

end Rolls

/-- After any calls on both kinds, a call does what it does to the roll of its kind. It is
granted exactly if nothing is wrong with it; if it is refused, then for the first thing that
is, and nothing has changed; and every registration that it returns can be found. -/
theorem acts_on_rolls {m : Rolls} {db : Database} (h : m.Describes db) (past : List Turn)
    (t : Turn) :
    let roll := (m.after past).rolls.get t.kind
    let old := performAll past db
    ((∃ reply, (t.perform old).1 = .ok reply) ↔ t.call.IsGranted roll) ∧
    (∀ e, (t.perform old).1 = .error e →
      (t.call.faults roll).head? = some e ∧ (t.perform old).2 = old) ∧
    ∀ reply, (t.perform old).1 = .ok reply → t.call.Shows roll t.now reply ∧
      ∀ x ∈ reply.registrations, ∀ later,
        (Turn.perform (t.perform old).2 ⟨t.kind, later, .find x.consumer⟩).1 =
          .ok (.found (some x)) := by
  have hpast := h.after past
  have hnext := hpast.step t
  intro roll old
  rcases t.call.perform_cases hpast.installed (hpast.lists t.kind) (hpast.early t.kind) t.now
    with ⟨e, rest, hfaults, hperform⟩ | ⟨reply, r, hfaults, hperform, hshows, -⟩
  · rw [Turn.perform, hperform]
    refine ⟨⟨?_, ?_⟩, ?_, ?_⟩
    · rintro ⟨reply, hreply⟩
      cases hreply
    · intro hgranted
      rw [Call.faults_eq_nil.2 hgranted] at hfaults
      cases hfaults
    · intro e' he
      rw [← Except.error.inj he]
      exact ⟨congrArg List.head? hfaults, rfl⟩
    · intro reply hreply
      cases hreply
  · have hroll : (m.after past |>.step t).rolls.get t.kind =
        t.call.revise (m.after past).turn t.now roll := by
      rw [Rolls.step, hfaults]
      exact PerKind.get_set_self _ _ _
    rw [Turn.perform, hperform] at hnext ⊢
    refine ⟨⟨fun _ => Call.faults_eq_nil.1 hfaults, fun _ => ⟨reply, rfl⟩⟩, ?_, ?_⟩
    · intro e he
      cases he
    · intro reply' hreply
      obtain rfl := Except.ok.inj hreply
      refine ⟨hshows, fun x hx later => ?_⟩
      have hlists := hnext.lists t.kind
      show Except.map Reply.found (Database.askConsumers _ _ _) = _
      rw [Call.askConsumers_eq hnext.installed, hlists.find?, hroll, Call.find_revise hshows hx]
      rfl

/-- Two consumers register, and the first takes its registration back and makes it again. -/
def rejoined : List Turn :=
  [⟨.process, 10, .register "billing" "a"⟩, ⟨.process, 20, .register "audit" "a"⟩,
    ⟨.service, 25, .register "audit" "x"⟩, ⟨.process, 30, .deregister "billing"⟩,
    ⟨.process, 40, .register "billing" "b"⟩, ⟨.process, 50, .move "audit" "c"⟩]

/-- The second is listed first now, and may not register again. -/
theorem acts_on_rolls_rejoined :
    let db := performAll rejoined Database.fresh
    let roll := (Rolls.none.after rejoined).rolls.process
    Rolls.none.Describes Database.fresh ∧
    (Turn.perform db ⟨.process, 60, .list⟩).1 =
      .ok (.listed [⟨"audit", "c", 20, 50⟩, ⟨"billing", "b", 40, 40⟩]) ∧
    roll.Lists [⟨"audit", "c", 20, 50⟩, ⟨"billing", "b", 40, 40⟩] ∧
    (Turn.perform db ⟨.process, 70, .register "audit" "d"⟩).1 =
      .error (.invalidConsumer "consumer_guid" "audit is already registered") ∧
    ¬ Call.IsGranted roll (.register "audit" "d") := by
  have hlist : (Turn.perform (performAll rejoined Database.fresh) ⟨.process, 60, .list⟩).1 =
      .ok (.listed [⟨"audit", "c", 20, 50⟩, ⟨"billing", "b", 40, 40⟩]) := by decide +kernel
  have hagain : (Turn.perform (performAll rejoined Database.fresh)
      ⟨.process, 70, .register "audit" "d"⟩).1 =
      .error (.invalidConsumer "consumer_guid" "audit is already registered") := by
    decide +kernel
  obtain ⟨xs, hxs, hlists⟩ :=
    ((acts_on_rolls Rolls.describes_fresh rejoined ⟨.process, 60, .list⟩).2.2 _ hlist).1
  obtain ⟨hgranted, -, -⟩ :=
    acts_on_rolls Rolls.describes_fresh rejoined ⟨.process, 70, .register "audit" "d"⟩
  obtain rfl := Reply.listed.inj hxs
  refine ⟨Rolls.describes_fresh, hlist, hlists, hagain, fun h => ?_⟩
  obtain ⟨reply, hreply⟩ := hgranted.2 h
  rw [hagain] at hreply
  cases hreply

end Registry

end Metering
