/- layer: model of infrastructure/postgres (payment_repo.go, cursor.go); results
   digest: The versioned save, the reconciler's query, and the versions that events carry. -/

import PaymentsPlatform.Payments.Payment

namespace PaymentsPlatform.Storage

open Payments (Payment Attempt)

/-- One payment as the tables hold it: its columns and its children, and the column the
reconciler's query reads. -/
structure Row where
  payment : Payment
  reconciliationRequired : Bool

/-- The row a committed save leaves, without events, and with the base version that is its version.
-/
def Row.of (p : Payment) : Row where
  payment := { p with baseVersion := p.version, events := [] }
  reconciliationRequired := p.hasUnresolvedAttempt

/-- `INSERT ... ON CONFLICT (attempt_id) DO UPDATE`, on the attempts of the row. -/
def Row.upsertAttempt (row : Row) (a : Attempt) : Row :=
  { row with
    payment.attempts :=
      if row.payment.attempts.any (·.id == a.id) then
        row.payment.attempts.map fun b => if b.id == a.id then a else b
      else row.payment.attempts ++ [a] }

/-- An audit record as a use case asks for it. -/
structure AuditEntry where
  action : String
  resourceType : String
  resourceID : String
  outcome : String
  detail : List (String × String)

/-- How the commit of a transaction ends.  The commit may reach the database and its
acknowledgement get lost. -/
inductive CommitEnd where
  | acknowledged
  | unacknowledged (err : GoError)
  | failed (err : GoError)
  deriving DecidableEq

/-- What one unit of work meets: what other writers committed before it, which of its statements
fails, and how its commit ends. -/
structure Tx where
  beginErr : Option GoError
  others : Row → Row
  saveAttemptErr : Option GoError
  updateErr : Option GoError
  childrenErr : Option GoError
  drainErr : Option GoError
  auditErr : AuditEntry → Option GoError
  readErr : Option GoError
  commitEnd : CommitEnd

/-- A unit of work in which nothing fails and nobody else writes. -/
def Tx.undisturbed : Tx where
  beginErr := none
  others := id
  saveAttemptErr := none
  updateErr := none
  childrenErr := none
  drainErr := none
  auditErr := fun _ => none
  readErr := none
  commitEnd := .acknowledged

/-- The same unit of work when the writes of others are accounted for elsewhere. -/
def Tx.alone (tx : Tx) : Tx := { tx with others := id }

/-- What `mapUniqueViolation` makes of a second attempt with the same number. -/
def duplicateAttemptNumber : GoError :=
  newWithDetail .invalidStateTransition
    "save payment attempt: attempt number already used for this payment"
    { field := "", code := "DUPLICATE_ATTEMPT_NUMBER",
      message := "reload the payment and recompute the next attempt number",
      ruleID := "I3.DENSE_ATTEMPT_NUMBERING" }

/-- Children are upserted and never deleted: what the aggregate does not hold stays. -/
def upsertAll {α : Type} (id : α → String) (stored own : List α) : List α :=
  own ++ stored.filter fun b => !own.any (id · == id b)

/-- The row a committed save leaves over a row with children the aggregate did not know. -/
def Row.over (saved stored : Row) : Row :=
  { saved with
    payment.attempts := upsertAll (·.id) stored.payment.attempts saved.payment.attempts
    payment.refunds := upsertAll (·.id) stored.payment.refunds saved.payment.refunds }

def versionConflict (p : Payment) : GoError :=
  newWithDetail .paymentAlreadyProcessed
    ("payment " ++ p.id ++ " was modified concurrently; reload and reapply")
    { field := "", code := "VERSION_CONFLICT",
      message := "another writer advanced this payment past the version you loaded; " ++
        "do not retry the command blindly, reload and decide again",
      ruleID := "I5.OPTIMISTIC_CONCURRENCY" }

/-- `Save`: the aggregate after the call, also when it fails, and the row it leaves.  The base
version moves once the UPDATE has found its row, before anything else is written. -/
def save (tx : Tx) (p : Payment) (row : Row) : Payment × Except GoError Row :=
  match tx.updateErr with
  | some e => (p, .error e)
  | none =>
    if row.payment.version ≠ p.baseVersion then (p, .error (versionConflict p))
    else
      let persisted := p.markPersisted
      match tx.childrenErr with
      | some e => (persisted, .error e)
      | none =>
        let drained := persisted.drainEvents.1
        match tx.drainErr with
        | some e => (drained, .error e)
        | none => (drained, .ok (Row.of p))

def defaultPageLimit : Nat := 50

def maxPageLimit : Nat := 1000

def pageLimit (requested : Int) : Nat :=
  if requested ≤ 0 then defaultPageLimit
  else if maxPageLimit < requested then maxPageLimit
  else requested.toNat

/-- `FindUnresolved` over the rows of the table, at clock reading `now`. -/
def findUnresolved (tenant : TenantID) (rows : List Row) (now olderThan : Int) (limit : Int) :
    List Payment :=
  let due := rows.filter fun r =>
    r.payment.tenantID == tenant && r.reconciliationRequired && r.payment.updatedAt < now - olderThan
  ((due.map (·.payment)).insertionSort fun p q => p.createdAt ≤ q.createdAt).take (pageLimit limit)

variable {p : Payment}

theorem flagged_of_mem_findUnresolved {tenant : TenantID} {rows : List Row} {now olderThan limit : Int}
    (h : p ∈ findUnresolved tenant rows now olderThan limit) :
    ∃ r ∈ rows, r.payment = p ∧ r.reconciliationRequired = true := by
  have listed := (List.perm_insertionSort _ _).subset (List.mem_of_mem_take h)
  obtain ⟨r, kept, rfl⟩ := List.mem_map.mp listed
  obtain ⟨present, due⟩ := List.mem_filter.mp kept
  simp only [Bool.and_eq_true] at due
  exact ⟨r, present, rfl, due.1.2⟩

theorem upsertAll_of_known {α : Type} {id : α → String} {stored own : List α}
    (known : ∀ b ∈ stored, ∃ a ∈ own, id a = id b) : upsertAll id stored own = own := by
  have none : stored.filter (fun b => !own.any (id · == id b)) = [] := by
    refine List.filter_eq_nil_iff.mpr fun b mem => ?_
    obtain ⟨a, held, same⟩ := known b mem
    simp only [Bool.not_eq_true', Bool.not_eq_false, List.any_eq_true]
    exact ⟨a, held, by simpa using same⟩
  rw [upsertAll, none, List.append_nil]

theorem Row.over_of_known {saved stored : Row}
    (attempts : ∀ b ∈ stored.payment.attempts, ∃ a ∈ saved.payment.attempts, a.id = b.id)
    (refunds : ∀ b ∈ stored.payment.refunds, ∃ a ∈ saved.payment.refunds, a.id = b.id) :
    saved.over stored = saved := by
  rw [Row.over, upsertAll_of_known attempts, upsertAll_of_known refunds]

theorem save_cases (tx : Tx) (p : Payment) (row : Row) :
    ∃ base events, (save tx p row).1 = { p with baseVersion := base, events := events } := by
  unfold save
  split
  · exact ⟨p.baseVersion, p.events, rfl⟩
  · split_ifs
    · exact ⟨p.baseVersion, p.events, rfl⟩
    · dsimp only
      split
      · exact ⟨p.version, p.events, rfl⟩
      · split
        · exact ⟨p.version, [], rfl⟩
        · exact ⟨p.version, [], rfl⟩

variable {row : Row}

theorem save_ok {tx : Tx} {p' : Payment} {stored : Row} (h : save tx p row = (p', .ok stored)) :
    row.payment.version = p.baseVersion ∧
      p' = { p with baseVersion := p.version, events := [] } ∧ stored = Row.of p := by
  unfold save at h
  split at h
  · cases h
  · by_cases stale : row.payment.version ≠ p.baseVersion
    · rw [if_pos stale] at h
      cases h
    · rw [if_neg stale] at h
      dsimp only at h
      split at h
      · cases h
      · split at h
        · cases h
        · cases h
          exact ⟨not_not.mp stale, rfl, rfl⟩

theorem save_current {tx : Tx} (updates : tx.updateErr = none)
    (current : row.payment.version = p.baseVersion) :
    (save tx p row).1.baseVersion = p.version := by
  unfold save
  rw [updates]
  dsimp only
  rw [if_neg (not_not.mpr current)]
  split
  · rfl
  · split
    · rfl
    · rfl

theorem save_stale (tx : Tx) (h : row.payment.version ≠ p.baseVersion) :
    ∃ e, save tx p row = (p, .error e) := by
  unfold save
  cases tx.updateErr with
  | some e => exact ⟨e, rfl⟩
  | none => exact ⟨versionConflict p, if_pos h⟩

open Lib.TransitionSystem Payments

/-- A payment in memory, its row, and the events it has raised: all, those that no reload has
discarded, and those of them the row has seen. -/
structure History where
  pay : Payment
  row : Row
  ever : List Event
  standing : List Event
  written : List Event

inductive Act where
  | call (c : Call)
  | persist (tx : Tx)
  | rehydrate

def raised (p q : Payment) : List Event := q.events.drop p.events.length

def History.act (h : History) : Act → History
  | .call c =>
    let q := (c.apply h.pay).1
    { h with
      pay := q
      ever := h.ever ++ raised h.pay q
      standing := h.standing ++ raised h.pay q }
  | .persist tx =>
    match save tx h.pay h.row with
    | (p, .ok row) => { h with pay := p, row := row, written := h.standing }
    | (p, .error _) => { h with pay := p }
  | .rehydrate =>
    match h.row.payment.rehydrate with
    | .ok p => { h with pay := p, standing := h.written }
    | .error _ => h

def History.of (p : Payment) : History := ⟨p, Row.of p, p.events, p.events, p.events⟩

/-- Histories of a payment that was just created and stored, or just read: its version is then a
`BIGINT` that the table keeps from being negative. -/
def histories : System History Act where
  init h := ∃ p, ((∃ params id now, Payment.new params id now = .ok p) ∨
    ∃ stored : Payment, stored.version < 2 ^ 63 ∧ stored.rehydrate = .ok p) ∧ h = .of p
  step := History.act

/-- No call is made on a payment that has the last version an `int64` can hold: the next one would
wrap. -/
def BelowLast (h : History) : Act → Prop
  | .call _ => h.pay.version + 1 < 2 ^ 63
  | _ => True

instance (h : History) (a : Act) : Decidable (BelowLast h a) := by
  cases a <;> unfold BelowLast <;> infer_instance

/-- A call raises nothing, or one event that carries the next version. -/
def Counted (p q : Payment) : Prop :=
  (raised p q = [] ∧ (q.version = p.version ∨ q.version = p.version + 1)) ∨
    ∃ e, raised p q = [e] ∧ e.version = q.version ∧ q.version = p.version + 1

variable {p q : Payment}

theorem counted_quiet (same : q.events = p.events) (more : q.version = p.version ∨ q.version = p.version + 1) :
    Counted p q :=
  .inl ⟨by rw [raised, same, List.drop_length], more⟩

theorem counted_raise {e : Event} (added : q.events = p.events ++ [e]) (own : e.version = q.version)
    (next : q.version = p.version + 1) : Counted p q :=
  .inr ⟨e, by rw [raised, added, List.drop_left], own, next⟩

theorem counted_transition (dst : State) (evt : Option (EventType × Payload)) (now : Time) :
    Counted p (p.transition dst evt now).1 := by
  unfold Payment.transition
  cases machine.transition p.state dst with
  | error => exact counted_quiet rfl (.inl rfl)
  | ok =>
    cases evt with
    | none => exact counted_quiet rfl (.inr rfl)
    | some => exact counted_raise rfl rfl rfl

theorem counted_call (c : Call) : Counted p (c.apply p).1 := by
  cases c with
  | attempt | refund =>
    simp only [Call.apply]
    repeat' split
    all_goals exact counted_quiet rfl (.inl rfl)
  | payment c =>
    cases c with
    | drainEvents => exact .inl ⟨List.drop_nil, .inl rfl⟩
    | markPersisted => exact counted_quiet rfl (.inl rfl)
    | requireReconciliation => exact counted_raise rfl rfl rfl
    | markProcessing | requireAction | markPending | cancel | expire | markSettled
    | markDisputed => exact counted_transition ..
    | startAttempt | markAuthorized | markCaptured | markFailed | void | addRefund | confirmRefund
    | resolveDispute =>
      simp only [Call.apply, PaymentCall.apply, Payment.Result.discard, Payment.startAttempt,
        Payment.markAuthorized, Payment.markCaptured, Payment.markFailed, Payment.void,
        Payment.addRefund, Payment.confirmRefund, Payment.resolveDispute]
      repeat' split
      all_goals first
        | exact counted_quiet rfl (.inl rfl)
        | exact counted_quiet rfl (.inr rfl)
        | exact counted_raise rfl rfl rfl
        | exact counted_transition ..

/-- The versions of `events` increase and have reached `version` at most, which is an `int64`. -/
structure Ascending (events : List Event) (version : Version) : Prop where
  increasing : events.Pairwise fun a b => a.version < b.version
  reached : ∀ e ∈ events, e.version ≤ version
  fits : version < 2 ^ 63

theorem Ascending.call {events : List Event} (h : Ascending events p.version)
    (room : p.version + 1 < 2 ^ 63) (c : Call) :
    Ascending (events ++ raised p (c.apply p).1) (c.apply p).1.version := by
  rcases counted_call (p := p) c with ⟨none, more⟩ | ⟨e, one, own, next⟩
  · rw [none, List.append_nil]
    rcases more with same | next
    · exact same ▸ h
    · exact ⟨h.increasing, fun e mem => next ▸ Nat.le_succ_of_le (h.reached e mem), next ▸ room⟩
  · have older : ∀ x ∈ events, x.version < e.version := fun x mem => by
      rw [own, next]
      exact Nat.lt_succ_of_le (h.reached x mem)
    rw [one, ← own]
    refine ⟨List.pairwise_append.mpr ⟨h.increasing, List.pairwise_singleton _ _, ?_⟩, ?_, own ▸ next ▸ room⟩
    · intro x mem y last
      rw [List.mem_singleton.mp last]
      exact older x mem
    · intro x mem
      rcases List.mem_append.mp mem with old | new
      · exact (older x old).le
      · rw [List.mem_singleton.mp new]

def Numbered (h : History) : Prop :=
  Ascending h.standing h.pay.version ∧ Ascending h.written h.row.payment.version

theorem Numbered.act {h : History} {a : Act} (numbered : Numbered h) (below : BelowLast h a) :
    Numbered (h.act a) := by
  obtain ⟨standing, written⟩ := numbered
  cases a with
  | call c => exact ⟨standing.call below c, written⟩
  | persist tx =>
    simp only [History.act]
    split
    · next saved =>
      obtain ⟨-, rfl, rfl⟩ := save_ok saved
      exact ⟨standing, standing⟩
    · next failed =>
      obtain ⟨base, events, kept⟩ := save_cases tx h.pay h.row
      rw [failed] at kept
      subst kept
      exact ⟨standing, written⟩
  | rehydrate =>
    simp only [History.act, Payment.rehydrate]
    split_ifs
    · exact ⟨written, written⟩
    · exact ⟨standing, written⟩

/-- At every point of every history, the events raised and not discarded by a reload carry
strictly increasing versions, as the `int64`s that the program compares. -/
theorem standing_increasing (h : History) (run : histories.ReachableUnder BelowLast h) :
    h.standing.Pairwise fun a b => Int64.ofNat a.version < Int64.ofNat b.version := by
  have numbered : Numbered h := by
    refine System.ReachableUnder.invariant ?_ (fun _ _ _ numbered below => numbered.act below) run
    rintro _ ⟨p, begun, rfl⟩
    have start : Ascending p.events p.version := by
      rcases begun with ⟨params, id, now, created⟩ | ⟨stored, fits, read⟩
      · obtain ⟨-, cm, payload, rfl⟩ := Payment.new_ok created
        exact ⟨List.pairwise_singleton _ _, by simp [Payment.raise, Payment.fresh],
          by simp [Payment.raise, Payment.fresh]⟩
      · unfold Payment.rehydrate at read
        split_ifs at read
        cases read
        exact ⟨List.Pairwise.nil, by simp, fits⟩
    exact ⟨start, start⟩
  have fits {e : Event} (mem : e ∈ h.standing) : e.version < 2 ^ 63 :=
    (numbered.1.reached e mem).trans_lt numbered.1.fits
  refine numbered.1.increasing.imp_of_mem fun first second lt => ?_
  rw [Int64.lt_iff_toInt_lt, Int64.toInt_ofNat_of_lt (fits first), Int64.toInt_ofNat_of_lt (fits second)]
  exact Int.ofNat_lt.mpr lt

def reload : List Act :=
  let flag : Act := .call (.payment (.requireReconciliation "att_1" "timeout" 1))
  [flag, .rehydrate, flag]

def reloadedHistory : History := histories.run (.of samplePayment) reload

theorem reachable_reloadedHistory : histories.ReachableUnder BelowLast reloadedHistory :=
  System.reachableUnder_run (S := histories) (.init ⟨samplePayment, .inl init_samplePayment, rfl⟩)
    reload (by decide +kernel)

theorem standing_increasing_reloaded :
    reloadedHistory.standing.Pairwise fun a b => Int64.ofNat a.version < Int64.ofNat b.version :=
  standing_increasing _ reachable_reloadedHistory

/-- A flag that is raised, lost with the unsaved payment and raised again carries the same
version twice. -/
theorem version_raised_twice :
    histories.ReachableUnder BelowLast reloadedHistory ∧ reloadedHistory.ever.map (·.version) = [1, 2, 2] :=
  ⟨reachable_reloadedHistory, by decide +kernel⟩

end PaymentsPlatform.Storage

namespace PaymentsPlatform

export Storage (Row Tx)

end PaymentsPlatform
