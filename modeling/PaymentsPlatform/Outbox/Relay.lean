/- layer: model of infrastructure/postgres/outbox.go (with pageLimit of cursor.go), of
     cmd/outbox-relay/relay.go and of the table of migrations/0012_outbox.up.sql; results
   digest: Relays beside each other and cut short anywhere, and in which order the broker first
     stores the events of one partition key. -/

import Mathlib.Data.Fintype.Basic
import PaymentsPlatform.Lib.Precedence
import PaymentsPlatform.Lib.TransitionSystem
import PaymentsPlatform.Shared.Types

namespace PaymentsPlatform.Outbox

open Lib.TransitionSystem

abbrev EventID := String

/-- The columns of `outbox_events` that the relay's statements read.  `published` says that
`published_at` is set. -/
structure OutboxRow where
  outboxID : Nat
  eventID : EventID
  partitionKey : String
  availableAt : Time
  published : Bool
  deriving DecidableEq

/-- What the broker keeps of a record, as far as order goes. -/
structure Entry where
  outboxID : Nat
  partitionKey : String
  deriving DecidableEq

def OutboxRow.entry (r : OutboxRow) : Entry := ⟨r.outboxID, r.partitionKey⟩

def outboxShardBuckets : Nat := 64

variable (hashtext : String → BitVec 32)

/-- The generated column, for the database's own hash. -/
def shardBucket (key : String) : Nat :=
  (hashtext key &&& 63#32).toNat

def shardBuckets (shard totalShards : Int) : Except GoError (List Nat) :=
  if totalShards ≤ 0 then
    throw (new .internalError
      ("postgres: outbox totalShards must be positive, got " ++ toString totalShards))
  else if shard < 0 ∨ totalShards ≤ shard then
    throw (new .internalError ("postgres: outbox shard " ++ toString shard ++
      " is out of range for " ++ toString totalShards ++ " shards"))
  else if (outboxShardBuckets : Int) < totalShards then
    throw (new .internalError ("postgres: " ++ toString totalShards ++ " relay shards exceeds the " ++
      toString outboxShardBuckets ++ " outbox buckets; " ++
      "raise OutboxShardBuckets and migrate the generated column together"))
  else pure ((List.range outboxShardBuckets).filter fun b => (b : Int) % totalShards == shard)

def pageLimit (requested : Int) : Nat :=
  if requested ≤ 0 then 50 else if 1000 < requested then 1000 else requested.toNat

structure Relay where
  tenant : TenantID
  shard : Int
  totalShards : Int
  batch : Int

/-- `newRelay` replaces a batch size that is not positive. -/
def Relay.batchSize (r : Relay) : Int := if r.batch ≤ 0 then 100 else r.batch

/-- The rows that the claim's `SELECT` may take, in its order. -/
def claimable (buckets : List Nat) (now : Time) (locked : Nat → Bool)
    (rows : List OutboxRow) : List OutboxRow :=
  (rows.filter fun r => !r.published && decide (r.availableAt ≤ now) &&
    buckets.contains (shardBucket hashtext r.partitionKey) && !locked r.outboxID).insertionSort
      fun a b => a.outboxID ≤ b.outboxID

def Relay.claim (r : Relay) (now : Time) (locked : Nat → Bool)
    (rows : List OutboxRow) : Except GoError (List OutboxRow) := do
  if r.tenant = "" then
    throw (new .missingTenantContext
      "no tenant in context; the persistence layer refuses to query without one")
  let buckets ← shardBuckets r.shard r.totalShards
  pure ((claimable hashtext buckets now locked rows).take (pageLimit r.batchSize))

def markPublished (ids : List EventID) (rows : List OutboxRow) : List OutboxRow :=
  rows.map fun r => if ids.contains r.eventID && !r.published then { r with published := true } else r

def markFailed (id : EventID) (retryAt : Time) (rows : List OutboxRow) : List OutboxRow :=
  rows.map fun r => if r.eventID == id && !r.published then { r with availableAt := retryAt } else r

/-- What is known of a record that was handed to the broker.  It may be stored and its
acknowledgement get lost. -/
inductive Delivery where
  | pending | acknowledged | unacknowledged | refused
  deriving DecidableEq

def Delivery.stored : Delivery → Bool
  | .acknowledged | .unacknowledged => true
  | _ => false

structure Record where
  row : OutboxRow
  delivery : Delivery

/-- A unit of work of `drainOnce` after its claim.  Once the server has ended it, it is not live and
locks no rows. -/
structure Batch where
  live : Bool
  records : List Record

structure State (ι : Type) where
  rows : List OutboxRow
  /-- What the broker has stored, in its order. -/
  log : List Entry
  relays : ι → Option Batch

inductive Move (ι : Type) where
  /-- A unit of work that appended these rows commits. -/
  | append (rows : List OutboxRow)
  /-- The claim of a relay, with the rows as the statement returns them: it gives no order. -/
  | claim (i : ι) (now : Time) (returned : List OutboxRow)
  /-- The broker deals with the record at that place of the batch. -/
  | deliver (i : ι) (pos : Nat) (d : Delivery)
  /-- `Publish` returns, the batch is marked and the unit of work ends. -/
  | finish (i : ι)
  /-- The server ends the unit of work. -/
  | expire (i : ι)
  | crash (i : ι)
  | markFailed (id : EventID) (retryAt : Time)

section Runs

variable {ι : Type} [DecidableEq ι] [Fintype ι]

/-- Another relay's unit of work holds the row. -/
def State.locked (s : State ι) (i : ι) (id : Nat) : Bool :=
  decide (∃ j, j ≠ i ∧ (s.relays j).any (fun b => b.live && b.records.any (·.row.outboxID == id)) = true)

def State.end_ (s : State ι) (i : ι) : State ι := { s with relays := Function.update s.relays i none }

variable (hashtext : String → BitVec 32) (relay : ι → Relay)

def State.step (s : State ι) : Move ι → State ι
  | .append rows =>
    if (rows.all fun r => r.partitionKey != "" && !r.published) &&
        ((s.rows ++ rows).map (·.outboxID)).Nodup && ((s.rows ++ rows).map (·.eventID)).Nodup then
      { s with rows := s.rows ++ rows }
    else s
  | .claim i now returned =>
    match s.relays i, (relay i).claim hashtext now (s.locked i) s.rows with
    | none, .ok batch =>
      if batch ≠ [] ∧ returned.isPerm batch = true then
        { s with
          relays := Function.update s.relays i (some ⟨true, returned.map (⟨·, .pending⟩)⟩) }
      else s
    | _, _ => s
  | .deliver i pos d =>
    match s.relays i with
    | none => s
    | some b =>
      match b.records[pos]? with
      | some ⟨row, .pending⟩ =>
        { s with
          log := if d.stored then s.log ++ [row.entry] else s.log
          relays := Function.update s.relays i
            (some { b with records := b.records.set pos ⟨row, d⟩ }) }
      | _ => s
  | .finish i =>
    match s.relays i with
    | none => s
    | some b =>
      if b.records.any (·.delivery == .pending) then s
      else if b.live && b.records.all (·.delivery == .acknowledged) then
        { s.end_ i with rows := markPublished (b.records.map (·.row.eventID)) s.rows }
      else s.end_ i
  | .expire i =>
    { s with relays := Function.update s.relays i ((s.relays i).map ({ · with live := false })) }
  | .crash i => s.end_ i
  | .markFailed id retryAt => { s with rows := Outbox.markFailed id retryAt s.rows }

/-- Any number of relays on any shards, beginning with an empty outbox. -/
def relays : System (State ι) (Move ι) where
  init s := s.rows = [] ∧ s.log = [] ∧ ∀ i, s.relays i = none
  step := State.step hashtext relay

end Runs

open Lib.Precedence Lib.TransitionSystem

def Entry.Before (a b : Entry) : Prop := a.partitionKey = b.partitionKey ∧ a.outboxID < b.outboxID

def keys (rows : List OutboxRow) : List (EventID × Entry) := rows.map fun r => (r.eventID, r.entry)

def Listed (ks : List (EventID × Entry)) (e : Entry) : Prop := ∃ id, (id, e) ∈ ks

/-- The broker stored no event while an earlier one of its key had never been stored. -/
def FirstPublishedInOrder {ι : Type} (s : State ι) : Prop :=
  Respects Entry.Before (Listed (keys s.rows)) s.log

section Guard

variable {ι : Type} [DecidableEq ι] [Fintype ι] (hashtext : String → BitVec 32) (relay : ι → Relay)

/-- Nothing that a claim could take, among the rows of the relay's own buckets, leaves an earlier
event of its key behind: that one is published, or as available as the other and not in the hands
of another relay. -/
def NothingSkipped (s : State ι) (i : ι) (now : Time) : Prop :=
  ∀ r ∈ s.rows, (shardBucket hashtext r.partitionKey : Int) % (relay i).totalShards = (relay i).shard →
    r.published = false → r.availableAt ≤ now → s.locked i r.outboxID = false →
      ∀ x ∈ s.rows, x.partitionKey = r.partitionKey → x.outboxID < r.outboxID →
        x.published = false → x.availableAt ≤ now ∧ s.locked i x.outboxID = false

def PredecessorsStored (b : Batch) (pos : Nat) : Prop :=
  ∀ r ∈ b.records.take pos, ∀ own ∈ b.records[pos]?,
    r.row.partitionKey = own.row.partitionKey → r.delivery.stored = true

/-- Events of a key are committed in the order of their numbers, a claim skips none of them and
gets its rows in order, and the broker stores a record only after its predecessors. -/
def KeepsOrder (s : State ι) : Move ι → Prop
  | .append rows => ∀ r ∈ rows, ∀ x ∈ s.rows, x.partitionKey = r.partitionKey → x.outboxID < r.outboxID
  | .claim i now returned =>
    NothingSkipped hashtext relay s i now ∧ returned.Pairwise fun x y => x.outboxID ≤ y.outboxID
  | .deliver i pos d => d.stored = true → ∀ b ∈ s.relays i, PredecessorsStored b pos
  | _ => True

instance (s : State ι) (m : Move ι) : Decidable (KeepsOrder hashtext relay s m) := by
  cases m <;> unfold KeepsOrder <;> try unfold NothingSkipped
  all_goals try unfold PredecessorsStored
  all_goals infer_instance

end Guard

structure Batch.Fits (ks : List (EventID × Entry)) (log : List Entry) (b : Batch) : Prop where
  listed : ∀ r ∈ b.records, (r.row.eventID, r.row.entry) ∈ ks
  logged : ∀ r ∈ b.records, r.delivery.stored = true → r.row.entry ∈ log
  continues : Continues Entry.Before (Listed ks) log (b.records.map (·.row.entry))

structure State.Ordered {ι : Type} (s : State ι) : Prop where
  distinct : ((keys s.rows).map Prod.fst).Nodup
  listed : ∀ e ∈ s.log, Listed (keys s.rows) e
  marked : ∀ r ∈ s.rows, r.published = true → r.entry ∈ s.log
  inOrder : FirstPublishedInOrder s
  batches : ∀ i, ∀ b ∈ s.relays i, b.Fits (keys s.rows) s.log

theorem Batch.Fits.mono {ks : List (EventID × Entry)} {log log' : List Entry} {b : Batch}
    (fits : b.Fits ks log) (more : log ⊆ log') : b.Fits ks log' :=
  ⟨fits.listed, fun r mem stored => more (fits.logged r mem stored), fits.continues.mono more⟩

theorem listed_of_mem {rows : List OutboxRow} {r : OutboxRow} (mem : r ∈ rows) :
    Listed (keys rows) r.entry :=
  ⟨r.eventID, List.mem_map_of_mem mem⟩

theorem exists_of_listed {rows : List OutboxRow} {e : Entry} (listed : Listed (keys rows) e) :
    ∃ r ∈ rows, r.entry = e := by
  obtain ⟨id, mem⟩ := listed
  obtain ⟨r, there, same⟩ := List.mem_map.mp mem
  exact ⟨r, there, congrArg Prod.snd same⟩

theorem keys_map_ite {c : OutboxRow → Bool} {f : OutboxRow → OutboxRow}
    (same : ∀ r, (f r).eventID = r.eventID ∧ (f r).entry = r.entry) (rows : List OutboxRow) :
    keys (rows.map fun r => if c r then f r else r) = keys rows := by
  unfold keys
  rw [List.map_map]
  refine List.map_congr_left fun r _ => ?_
  show ((if c r then f r else r).eventID, (if c r then f r else r).entry) = _
  split_ifs
  · rw [(same r).1, (same r).2]
  · rfl

section Steps

variable {ι : Type} [DecidableEq ι] {s : State ι}

theorem State.Ordered.update (h : s.Ordered) {log : List Entry} (more : s.log ⊆ log)
    (listed : ∀ e ∈ log, Listed (keys s.rows) e)
    (inOrder : Respects Entry.Before (Listed (keys s.rows)) log) (i : ι) {batch : Option Batch}
    (fits : ∀ b ∈ batch, b.Fits (keys s.rows) log) :
    State.Ordered { s with log := log, relays := Function.update s.relays i batch } where
  distinct := h.distinct
  listed := listed
  marked r mem published := more (h.marked r mem published)
  inOrder := inOrder
  batches j b held := by
    by_cases own : j = i
    · subst own
      exact fits b (by simpa using held)
    · exact (h.batches j b (by simpa [own] using held)).mono more

theorem State.Ordered.replace (h : s.Ordered) (i : ι) {batch : Option Batch}
    (fits : ∀ b ∈ batch, b.Fits (keys s.rows) s.log) :
    State.Ordered { s with relays := Function.update s.relays i batch } :=
  h.update (List.Subset.refl _) h.listed h.inOrder i fits

omit [DecidableEq ι] in
theorem State.Ordered.rewrite {rows : List OutboxRow} (h : s.Ordered) (same : keys rows = keys s.rows)
    (marked : ∀ r ∈ rows, r.published = true → r.entry ∈ s.log) :
    State.Ordered { s with rows := rows } where
  distinct := by rw [same]; exact h.distinct
  listed := by rw [same]; exact h.listed
  marked := marked
  inOrder := by unfold FirstPublishedInOrder; rw [same]; exact h.inOrder
  batches := by rw [same]; exact h.batches

omit [DecidableEq ι] in
theorem ordered_append {rows : List OutboxRow} (h : s.Ordered)
    (later : ∀ r ∈ rows, ∀ x ∈ s.rows, x.partitionKey = r.partitionKey → x.outboxID < r.outboxID)
    (fresh : rows.all (fun r => r.partitionKey != "" && !r.published) = true)
    (distinct : ((s.rows ++ rows).map (·.eventID)).Nodup) :
    State.Ordered { s with rows := s.rows ++ rows } := by
  have grown : keys (s.rows ++ rows) = keys s.rows ++ keys rows := List.map_append
  have known {e : Entry} (there : Listed (keys s.rows) e) : Listed (keys (s.rows ++ rows)) e :=
    there.imp fun id mem => by rw [grown]; exact List.mem_append_left _ mem
  -- a row that is new comes after every event of its key that was there
  have late (b : Entry) (there : Listed (keys (s.rows ++ rows)) b) (a : Entry)
      (old : Listed (keys s.rows) a) (first : b.Before a) : Listed (keys s.rows) b := by
    obtain ⟨r, mem, rfl⟩ := exists_of_listed there
    rcases List.mem_append.mp mem with kept | new
    · exact listed_of_mem kept
    · obtain ⟨x, there, rfl⟩ := exists_of_listed old
      exact absurd (later r new x there first.1.symm) (Nat.lt_asymm first.2)
  have entry (b : Batch) (fits : b.Fits (keys s.rows) s.log) (a : Entry)
      (mem : a ∈ b.records.map (·.row.entry)) : Listed (keys s.rows) a := by
    obtain ⟨r, there, rfl⟩ := List.mem_map.mp mem
    exact ⟨_, fits.listed r there⟩
  refine ⟨?_, fun e mem => known (h.listed e mem), ?_, h.inOrder.grow fun b there a mem =>
    late b there a (h.listed a mem), fun i b held => ?_⟩
  · show ((List.map _ (s.rows ++ rows)).map Prod.fst).Nodup
    rw [List.map_map]
    exact distinct
  · intro r mem published
    rcases List.mem_append.mp mem with kept | new
    · exact h.marked r kept published
    · have unpublished := List.all_eq_true.mp fresh r new
      simp [published] at unpublished
  · have fits := h.batches i b held
    exact ⟨fun r mem => by
        show _ ∈ keys (s.rows ++ rows)
        rw [grown]
        exact List.mem_append_left _ (fits.listed r mem),
      fits.logged, fits.continues.grow fun b' there a mem => late b' there a (entry b fits a mem)⟩

omit [DecidableEq ι] in
theorem ordered_markPublished {b : Batch} (h : s.Ordered) (fits : b.Fits (keys s.rows) s.log)
    (done : ∀ r ∈ b.records, r.delivery.stored = true) :
    State.Ordered { s with rows := markPublished (b.records.map (·.row.eventID)) s.rows } := by
  refine h.rewrite (keys_map_ite (fun _ => by exact ⟨rfl, rfl⟩) _) fun r mem published => ?_
  obtain ⟨x, there, rfl⟩ := List.mem_map.mp mem
  split at published
  · rename_i named
    rw [if_pos named]
    obtain ⟨c, mine, same⟩ := List.mem_map.mp (List.contains_iff_mem.mp (Bool.and_eq_true_iff.mp named).1)
    have own : (x.eventID, c.row.entry) ∈ keys s.rows := same ▸ fits.listed c mine
    have equal : x.entry = c.row.entry :=
      congrArg Prod.snd (List.inj_on_of_nodup_map h.distinct (List.mem_map_of_mem there) own rfl)
    show x.entry ∈ s.log
    rw [equal]
    exact fits.logged c mine (done c mine)
  · rename_i other
    rw [if_neg other]
    exact h.marked x there published

end Steps

section Runs

variable {ι : Type} [DecidableEq ι] [Fintype ι] {hashtext : String → BitVec 32} {relay : ι → Relay}
  {s : State ι} {now : Time} {locked : Nat → Bool} {rows : List OutboxRow}

theorem mem_claimable {buckets : List Nat}
    {r : OutboxRow} : r ∈ claimable hashtext buckets now locked rows ↔
      r ∈ rows ∧ r.published = false ∧ r.availableAt ≤ now ∧
        shardBucket hashtext r.partitionKey ∈ buckets ∧ locked r.outboxID = false := by
  simp [claimable, and_assoc]

variable {batch : List OutboxRow}

theorem mod_of_mem_shardBuckets {shard totalShards : Int} {buckets : List Nat}
    (listed : shardBuckets shard totalShards = .ok buckets) {b : Nat} (mem : b ∈ buckets) :
    (b : Int) % totalShards = shard := by
  unfold shardBuckets at listed
  split_ifs at listed
  cases listed
  exact beq_iff_eq.mp (List.mem_filter.mp mem).2

theorem claim_ok {r : Relay} (claimed : r.claim hashtext now locked rows = .ok batch) :
    ∃ buckets n, shardBuckets r.shard r.totalShards = .ok buckets ∧
      batch = (claimable hashtext buckets now locked rows).take n := by
  unfold Relay.claim at claimed
  split at claimed
  · cases claimed
  cases shards : shardBuckets r.shard r.totalShards with
  | error =>
    rw [shards] at claimed
    cases claimed
  | ok buckets =>
    rw [shards] at claimed
    exact ⟨buckets, _, rfl, (Except.ok.inj claimed).symm⟩

/-- Whatever `Claim` returns, an earlier event of a key that it could have taken is among it. -/
theorem mem_claim {r : Relay}
    (claimed : r.claim hashtext now locked rows = .ok batch) {x y : OutboxRow} (mem : y ∈ batch)
    (there : x ∈ rows) (key : x.partitionKey = y.partitionKey) (first : x.outboxID < y.outboxID)
    (unpublished : x.published = false) (available : x.availableAt ≤ now)
    (unlocked : locked x.outboxID = false) : x ∈ batch := by
  obtain ⟨buckets, n, -, rfl⟩ := claim_ok claimed
  have own := (mem_claimable.mp (List.mem_of_mem_take mem)).2.2.2.1
  have sorted : (claimable hashtext buckets now locked rows).Pairwise
      (fun a b => a.outboxID ≤ b.outboxID) :=
    List.pairwise_insertionSort _ _
  exact mem_take_of_lt sorted mem
    (mem_claimable.mpr ⟨there, unpublished, available, key ▸ own, unlocked⟩) first

theorem claim_sub {r : Relay}
    (claimed : r.claim hashtext now locked rows = .ok batch) {y : OutboxRow} (mem : y ∈ batch) :
    y ∈ rows ∧ (shardBucket hashtext y.partitionKey : Int) % r.totalShards = r.shard ∧
      y.published = false ∧ y.availableAt ≤ now ∧ locked y.outboxID = false := by
  obtain ⟨buckets, n, listed, rfl⟩ := claim_ok claimed
  obtain ⟨there, unpublished, available, own, unlocked⟩ :=
    mem_claimable.mp (List.mem_of_mem_take mem)
  exact ⟨there, mod_of_mem_shardBuckets listed own, unpublished, available, unlocked⟩

theorem fits_claim (h : s.Ordered) {i : ι} {returned : List OutboxRow}
    (claimed : (relay i).claim hashtext now (s.locked i) s.rows = .ok batch)
    (same : returned.Perm batch) (whole : NothingSkipped hashtext relay s i now)
    (sorted : returned.Pairwise fun x y => x.outboxID ≤ y.outboxID) :
    Batch.Fits (keys s.rows) s.log ⟨true, returned.map (⟨·, .pending⟩)⟩ where
  listed r mem := by
    obtain ⟨y, there, rfl⟩ := List.mem_map.mp mem
    exact List.mem_map_of_mem (claim_sub claimed (same.mem_iff.mp there)).1
  logged r mem stored := by
    obtain ⟨y, there, rfl⟩ := List.mem_map.mp mem
    cases stored
  continues := by
    rw [List.map_map, ← List.take_length (l := List.map _ returned)]
    refine continues_take (fun a first => Nat.lt_irrefl _ first.2) ?_ ?_ _
    · refine List.pairwise_map.mpr (sorted.imp fun {x y} le => ?_)
      exact fun first : Entry.Before y.entry x.entry => Nat.not_lt.mpr le first.2
    · intro a mem b there first
      obtain ⟨y, mine, rfl⟩ := List.mem_map.mp mem
      obtain ⟨x, stored, rfl⟩ := exists_of_listed there
      obtain ⟨known, own, unpublished, available, unlocked⟩ := claim_sub claimed (same.mem_iff.mp mine)
      cases published : x.published with
      | true => exact .inl (h.marked x stored published)
      | false =>
        obtain ⟨ready, free⟩ :=
          whole y known own unpublished available unlocked x stored first.1 first.2 published
        have taken := mem_claim claimed (same.mem_iff.mp mine) stored first.1 first.2 published ready free
        exact .inr (List.mem_map.mpr ⟨x, same.mem_iff.mpr taken, rfl⟩)

omit [Fintype ι] in
theorem ordered_deliver (h : s.Ordered) {i : ι} {b : Batch} (held : s.relays i = some b) {pos : Nat}
    {row : OutboxRow} {d : Delivery} (at_ : b.records[pos]? = some ⟨row, .pending⟩)
    (ready : d.stored = true → PredecessorsStored b pos) :
    State.Ordered { s with
      log := if d.stored then s.log ++ [row.entry] else s.log
      relays := Function.update s.relays i (some { b with records := b.records.set pos ⟨row, d⟩ }) } := by
  have fits := h.batches i b held
  have entries : (b.records.set pos ⟨row, d⟩).map (·.row.entry) = b.records.map (·.row.entry) := by
    obtain ⟨bound, own⟩ := List.getElem?_eq_some_iff.mp at_
    rw [List.map_set, show Record.row ⟨row, d⟩ = b.records[pos].row by rw [own], ← List.map_set,
      List.set_getElem_self]
  have listed := fits.listed _ (List.mem_of_getElem? at_)
  have after (log : List Entry) (more : s.log ⊆ log) (own : d.stored = true → row.entry ∈ log) :
      Batch.Fits (keys s.rows) log { b with records := b.records.set pos ⟨row, d⟩ } := by
    refine ⟨fun r mem => ?_, fun r mem stored => ?_, ?_⟩
    · rcases List.mem_or_eq_of_mem_set mem with old | rfl
      · exact fits.listed r old
      · exact listed
    · rcases List.mem_or_eq_of_mem_set mem with old | rfl
      · exact more (fits.logged r old stored)
      · exact own stored
    · show Continues _ _ _ (List.map _ (b.records.set pos ⟨row, d⟩))
      rw [entries]
      exact fits.continues.mono more
  cases stored : d.stored with
  | false =>
    exact h.replace i fun c mine => Option.mem_some_iff.mp mine ▸
      after _ (List.Subset.refl _) fun told => absurd (stored.symm.trans told) Bool.false_ne_true
  | true =>
    have more : s.log ⊆ s.log ++ [row.entry] := List.subset_append_left _ _
    refine h.update more (fun e mem => ?_) (Respects.snoc h.inOrder ?_) i fun c mine =>
      Option.mem_some_iff.mp mine ▸ after _ more fun _ => List.mem_append_right _ (List.mem_singleton_self _)
    · rcases List.mem_append.mp mem with old | new
      · exact h.listed e old
      · rw [List.mem_singleton.mp new]
        exact ⟨_, listed⟩
    · have place : (b.records.map (·.row.entry))[pos]? = some row.entry := by
        rw [List.getElem?_map, at_]
        rfl
      refine fits.continues.ready place ?_
      intro e earlier first
      rw [← List.map_take] at earlier
      obtain ⟨r, mine, rfl⟩ := List.mem_map.mp earlier
      exact fits.logged r (List.mem_of_mem_take mine) (ready stored r mine _ at_ first.1)

theorem ordered_step (h : s.Ordered) {m : Move ι} (ok : KeepsOrder hashtext relay s m) :
    (State.step hashtext relay s m).Ordered := by
  cases m with
  | append =>
    simp only [State.step]
    split
    · rename_i checks
      simp only [Bool.and_eq_true, decide_eq_true_eq] at checks
      exact ordered_append h ok checks.1.1 checks.2
    · exact h
  | claim i =>
    simp only [State.step]
    split
    · rename_i batch idle claimed
      split
      · rename_i checks
        exact h.replace i fun b mine => Option.mem_some_iff.mp mine ▸
          fits_claim h claimed (List.isPerm_iff.mp checks.2) ok.1 ok.2
      · exact h
    · exact h
  | deliver =>
    simp only [State.step]
    split
    · exact h
    · rename_i b held
      split
      · rename_i row at_
        exact ordered_deliver h held at_ fun stored => ok stored b held
      · exact h
  | finish i =>
    simp only [State.step]
    have ended : (s.end_ i).Ordered := h.replace i fun b none => absurd none (Option.not_mem_none b)
    split
    · exact h
    · rename_i b held
      split_ifs with pending done
      · exact h
      · have fits := h.batches i b held
        refine ordered_markPublished ended fits fun r mem => ?_
        have told := List.all_eq_true.mp (Bool.and_eq_true_iff.mp done).2 r mem
        rw [beq_iff_eq.mp told]
        rfl
      · exact ended
  | expire i =>
    refine h.replace i fun b mine => ?_
    obtain ⟨c, held, rfl⟩ := Option.mem_map.mp mine
    have fits := h.batches i c held
    exact ⟨fits.listed, fits.logged, fits.continues⟩
  | crash i => exact h.replace i fun b none => absurd none (Option.not_mem_none b)
  | markFailed =>
    refine h.rewrite (keys_map_ite (fun _ => by exact ⟨rfl, rfl⟩) _) fun r mem published => ?_
    obtain ⟨x, there, rfl⟩ := List.mem_map.mp mem
    split at published
    · rename_i named
      rw [if_pos named]
      exact h.marked x there published
    · rename_i other
      rw [if_neg other]
      exact h.marked x there published

/-- In every run whose moves keep the order, the events of every key are first published in the
order of the outbox. -/
theorem first_published_in_order (hashtext : String → BitVec 32) (relay : ι → Relay) (s : State ι)
    (run : (relays hashtext relay).ReachableUnder (KeepsOrder hashtext relay) s) :
    FirstPublishedInOrder s := by
  refine (System.ReachableUnder.invariant (P := State.Ordered) ?_
    (fun _ _ _ ordered ok => ordered_step ordered ok) run).inOrder
  rintro s ⟨rows, log, idle⟩
  refine ⟨by rw [rows]; exact List.nodup_nil, by rw [log]; exact fun e mem => absurd mem List.not_mem_nil,
    by rw [rows]; exact fun r mem => absurd mem List.not_mem_nil, ?_, fun i b held => ?_⟩
  · unfold FirstPublishedInOrder
    rw [log]
    exact respects_nil
  · rw [idle i] at held
    cases held

end Runs

def sampleRow (id : Nat) (key : String := "pay_1") : OutboxRow where
  outboxID := id
  eventID := "evt_" ++ toString id
  partitionKey := key
  availableAt := 0
  published := false

/-- The shard that every replica gets by default, with batches of a given size. -/
def sampleRelay (batch : Int) (_ : Bool) : Relay := ⟨"ten_1", 0, 1, batch⟩

def emptyOutbox : State Bool := ⟨[], [], fun _ => none⟩

theorem relays_init {hashtext : String → BitVec 32} {relay : Bool → Relay} :
    (relays hashtext relay).init emptyOutbox :=
  ⟨rfl, rfl, fun _ => rfl⟩

/-- Two shards, and a hash that gives each of them one payment. -/
def oneOfTwo (second : Bool) : Relay := ⟨"ten_1", if second then 1 else 0, 2, 1⟩

def lastDigit (key : String) : BitVec 32 := if key = "pay_1" then 0 else 1

/-- Each relay publishes the payment of its shard, the second one while the first holds its row. -/
def inTurn : List (Move Bool) :=
  [.append [sampleRow 1, sampleRow 2, sampleRow 3 "pay_2"], .claim false 1 [sampleRow 1],
    .claim true 1 [sampleRow 3 "pay_2"], .deliver true 0 .acknowledged, .deliver false 0 .acknowledged,
    .finish false, .claim false 1 [sampleRow 2], .deliver false 0 .acknowledged, .finish true]

theorem first_published_in_turn :
    ∃ s : State Bool, s.log = [⟨3, "pay_2"⟩, ⟨1, "pay_1"⟩, ⟨2, "pay_1"⟩] ∧
      FirstPublishedInOrder s := by
  have meets : (relays lastDigit oneOfTwo).Meets (KeepsOrder lastDigit oneOfTwo) emptyOutbox
      inTurn := by
    decide +kernel
  refine ⟨_, ?_, first_published_in_order _ _ _
    (System.reachableUnder_run (.init relays_init) inTurn meets)⟩
  decide +kernel

theorem not_firstPublishedInOrder {ι : Type} {s : State ι} (log : List Entry)
    (stored : s.log = ⟨2, "pay_1"⟩ :: log) (there : sampleRow 1 ∈ s.rows) :
    ¬ FirstPublishedInOrder s := by
  intro ordered
  have missing := ordered [] ⟨2, "pay_1"⟩ (by rw [stored]; exact ⟨log, rfl⟩) ⟨1, "pay_1"⟩
    (listed_of_mem there) ⟨rfl, by decide⟩
  exact absurd missing List.not_mem_nil

/-- The second relay passes over the row that the first one has claimed. -/
def overlapping : List (Move Bool) :=
  [.append [sampleRow 1, sampleRow 2], .claim false 1 [sampleRow 1], .claim true 1 [sampleRow 2],
    .deliver true 0 .acknowledged]

/-- The broker refuses the first record of a batch and stores the second. -/
def partialBatch : List (Move Bool) :=
  [.append [sampleRow 1, sampleRow 2], .claim false 1 [sampleRow 1, sampleRow 2],
    .deliver false 0 .refused, .deliver false 1 .acknowledged, .finish false]

theorem published_out_of_order :
    (∃ s, (relays (fun _ => 0) (sampleRelay 1)).Reachable s ∧ ¬ FirstPublishedInOrder s) ∧
      (∃ s, (relays (fun _ => 0) (sampleRelay 100)).Reachable s ∧ s.relays false = none ∧
        ¬ FirstPublishedInOrder s) := by
  refine ⟨⟨_, System.reachable_run (.init relays_init) overlapping, ?_⟩,
    ⟨_, System.reachable_run (.init relays_init) partialBatch, ?_, ?_⟩⟩
  · exact not_firstPublishedInOrder [] (by decide +kernel) (by decide +kernel)
  · decide +kernel
  · exact not_firstPublishedInOrder [] (by decide +kernel) (by decide +kernel)

end PaymentsPlatform.Outbox
