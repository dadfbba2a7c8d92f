/- layer: model of platform/idempotency (fingerprint.go, manager.go) and of
     infrastructure/postgres/idempotency_store.go; results
   digest: The record of one key, callers that run `Begin` statement by statement, and that the
     bytes a fingerprint hashes say which request it is. -/

import Mathlib.Tactic
import PaymentsPlatform.Lib.TransitionSystem
import PaymentsPlatform.Shared.Types

namespace PaymentsPlatform.Idempotency

section Bytes

/-- A Go string or slice: its length is an `int`. -/
abbrev ByteString := { l : List UInt8 // l.length < 2 ^ 63 }

/-- The bytes of an ASCII text. -/
def asciiBytes (s : String) : List UInt8 := s.toList.map fun c => UInt8.ofNat c.toNat

def fingerprintVersion : ByteString := ⟨asciiBytes "pp.idem.fingerprint.v1", by decide⟩

def jcsTag : ByteString := ⟨asciiBytes "jcs", by decide⟩

def rawTag : ByteString := ⟨asciiBytes "raw", by decide⟩

/-- `binary.BigEndian.PutUint64`. -/
def putUint64 (n : Nat) : List UInt8 :=
  [56, 48, 40, 32, 24, 16, 8, 0].map fun k => UInt8.ofNat (n / 2 ^ k)

def writeField (b : ByteString) : List UInt8 := putUint64 b.1.length ++ b.1

/-- `ports.IdempotencyKey`, as the bytes of its fields. -/
@[ext]
structure RequestScope where
  tenantID : ByteString
  merchantID : ByteString
  method : ByteString
  pathTemplate : ByteString
  key : ByteString

section Fingerprint

-- `Canonicalize`, where it succeeds, and the hex text of SHA-256.
variable (canonicalize : ByteString → Option ByteString) (sha256 : List UInt8 → String)

def bodyFields (body : ByteString) : ByteString × ByteString :=
  match canonicalize body with
  | some canonical => (jcsTag, canonical)
  | none => (rawTag, body)

/-- What is written to the hash. -/
def preimage (body : ByteString) (key : RequestScope) : List UInt8 :=
  writeField fingerprintVersion ++ writeField key.tenantID ++
    writeField key.merchantID ++ writeField key.method ++ writeField key.pathTemplate ++
      writeField key.key ++ writeField (bodyFields canonicalize body).1 ++
        writeField (bodyFields canonicalize body).2

def fingerprint (body : ByteString) (key : RequestScope) : String :=
  sha256 (preimage canonicalize body key)

/-- Both bodies are JSON with one canonical form, or both are not and are the same bytes. -/
def SameBody (body other : ByteString) : Prop :=
  match canonicalize body, canonicalize other with
  | some c, some c' => c = c'
  | none, none => body = other
  | _, _ => False

end Fingerprint

theorem putUint64_injective {m n : Nat} (hm : m < 2 ^ 64) (hn : n < 2 ^ 64)
    (same : putUint64 m = putUint64 n) : m = n := by
  simp only [putUint64, List.map_cons, List.map_nil, List.cons.injEq, ← UInt8.toNat_inj,
    UInt8.toNat_ofNat', and_true] at same
  obtain ⟨b₇, b₆, b₅, b₄, low⟩ := same
  -- half of the bytes at a time
  have high : m / 2 ^ 32 = n / 2 ^ 32 := by
    clear low
    omega
  clear b₇ b₆ b₅ b₄ hm hn
  omega

variable {a b : ByteString} {x y : List UInt8}

/-- A field can be read back from the front of what is written. -/
theorem writeField_append_inj (same : writeField a ++ x = writeField b ++ y) : a = b ∧ x = y := by
  rw [writeField, writeField, List.append_assoc, List.append_assoc] at same
  obtain ⟨length, rest⟩ := List.append_inj same rfl
  have length : a.1.length = b.1.length :=
    putUint64_injective (by have := a.2; omega) (by have := b.2; omega) length
  obtain ⟨content, rest⟩ := List.append_inj rest length
  exact ⟨Subtype.ext content, rest⟩

variable {canonicalize : ByteString → Option ByteString} {body other : ByteString}

theorem bodyFields_inj :
    bodyFields canonicalize body = bodyFields canonicalize other ↔ SameBody canonicalize body other := by
  have tags : jcsTag ≠ rawTag := by decide
  unfold bodyFields SameBody
  cases canonicalize body <;> cases canonicalize other <;> simp [tags, tags.symm]

theorem preimage_inj (canonicalize : ByteString → Option ByteString) (body other : ByteString)
    (key key' : RequestScope) :
    (preimage canonicalize body key = preimage canonicalize other key' ↔
      key = key' ∧ SameBody canonicalize body other) ∧
    ∀ sha256 : List UInt8 → String, Function.Injective sha256 →
      fingerprint canonicalize sha256 body key = fingerprint canonicalize sha256 other key' →
        key = key' ∧ SameBody canonicalize body other := by
  have read : preimage canonicalize body key = preimage canonicalize other key' →
      key = key' ∧ SameBody canonicalize body other := by
    intro same
    simp only [preimage, List.append_assoc] at same
    obtain ⟨-, same⟩ := writeField_append_inj same
    obtain ⟨tenant, same⟩ := writeField_append_inj same
    obtain ⟨merchant, same⟩ := writeField_append_inj same
    obtain ⟨method, same⟩ := writeField_append_inj same
    obtain ⟨path, same⟩ := writeField_append_inj same
    obtain ⟨key, same⟩ := writeField_append_inj same
    obtain ⟨tag, same⟩ := writeField_append_inj same
    obtain ⟨content, -⟩ := writeField_append_inj (x := []) (y := []) (by simpa using same)
    exact ⟨RequestScope.ext tenant merchant method path key, bodyFields_inj.mp (Prod.ext tag content)⟩
  refine ⟨⟨read, ?_⟩, fun sha256 collisionFree same => read (collisionFree same)⟩
  rintro ⟨rfl, same⟩
  rw [preimage, preimage, bodyFields_inj.mpr same]

end Bytes

open Pkg.ApiError (new)

inductive RecordState where
  | inFlight | completed | failedTerminal
  deriving DecidableEq

structure ResponseSnapshot where
  statusCode : Int
  body : List UInt8
  resourceID : String
  completedAt : Time

structure Row where
  fingerprint : String
  state : RecordState
  leaseOwner : String
  leaseExpiresAt : Time
  responseStatus : Option Int16
  responseBody : List UInt8
  resourceID : String
  requestID : String
  traceID : String
  completedAt : Option Time
  expiresAt : Time

structure IdempotencyKey where
  tenantID : TenantID
  merchantID : MerchantID
  method : String
  pathTemplate : String
  key : String

structure IdempotencyRecord where
  fingerprint : String
  leaseExpiresAt : Time
  expiresAt : Time
  requestID : String
  traceID : String

inductive ClaimOutcome where
  | new | replay | inProgress | fingerprintMismatch | reclaimed
  deriving DecidableEq

structure ClaimResult where
  outcome : ClaimOutcome
  snapshot : Option ResponseSnapshot := none
  retryAfter : Time := 0
  originalReqID : String := ""
  originalTrace : String := ""

def second : Time := 1000000000

def idempotencyRetention : Time := 7 * 24 * 3600 * second

variable (rec : IdempotencyRecord) (now : Time)

/-- The record with the deadlines `Claim` fills in. -/
def IdempotencyRecord.withDeadlines : IdempotencyRecord :=
  { rec with
    expiresAt := if rec.expiresAt = zeroTime then now + idempotencyRetention else rec.expiresAt
    leaseExpiresAt := if rec.leaseExpiresAt = zeroTime then now + 30 * second else rec.leaseExpiresAt }

/-! The statements, each on the row of the key and with whether it returned a row. -/

/-- `INSERT ... ON CONFLICT DO NOTHING RETURNING`. -/
def insertClaim : Option Row → Option Row × Bool
  | some row => (some row, false)
  | none =>
    (some
      { fingerprint := rec.fingerprint, state := .inFlight, leaseOwner := rec.requestID
        leaseExpiresAt := rec.leaseExpiresAt, responseStatus := none, responseBody := []
        resourceID := "", requestID := rec.requestID, traceID := rec.traceID
        completedAt := none, expiresAt := rec.expiresAt }, true)

def reclaimLease : Option Row → Option Row × Bool
  | none => (none, false)
  | some row =>
    if row.state = .inFlight ∧ row.leaseExpiresAt < now ∧ row.fingerprint = rec.fingerprint then
      (some
        { row with
          leaseOwner := rec.requestID
          leaseExpiresAt := rec.leaseExpiresAt
          requestID := rec.requestID
          traceID := rec.traceID }, true)
    else (some row, false)

def Row.snapshot (row : Row) : ResponseSnapshot where
  statusCode := (row.responseStatus.map Int16.toInt).getD 0
  body := row.responseBody
  resourceID := row.resourceID
  completedAt := row.completedAt.getD 0

def resolveRow : Option Row → Except GoError ClaimResult
  | none =>
    .error (new .serviceUnavailable
      "idempotency record disappeared between claim and read; retry")
  | some row =>
    if row.fingerprint ≠ rec.fingerprint then
      .ok { outcome := .fingerprintMismatch, originalReqID := row.requestID,
            originalTrace := row.traceID }
    else
      match row.state with
      | .completed | .failedTerminal =>
        .ok { outcome := .replay, snapshot := some row.snapshot, originalReqID := row.requestID,
              originalTrace := row.traceID }
      | .inFlight =>
        .ok { outcome := .inProgress, retryAfter := max (row.leaseExpiresAt - now) second,
              originalReqID := row.requestID, originalTrace := row.traceID }

inductive Settlement where
  | complete | failTerminal
  deriving DecidableEq

def Settlement.state : Settlement → RecordState
  | .complete => .completed
  | .failTerminal => .failedTerminal

def statusAccepted (status : Int16) : Bool := 100 ≤ status.toInt && status.toInt ≤ 599

def notClaimed (key : IdempotencyKey) : GoError :=
  new .idempotentRequestInProgress ("idempotency record for " ++ key.method ++ " " ++
    key.pathTemplate ++ " is no longer claimed by this caller")

def checkViolation : GoError := .sentinel "idempotency_records: response_status out of range"

/-- `settle`: the row is settled if it is still IN_FLIGHT, whoever holds its lease. -/
def settleRow (key : IdempotencyKey) (how : Settlement) (snap : ResponseSnapshot) (now : Time) :
    Option Row → Option Row × Except GoError Unit
  | none => (none, .error (notClaimed key))
  | some row =>
    if row.state ≠ .inFlight then (some row, .error (notClaimed key))
    else if !statusAccepted (Int16.ofInt snap.statusCode) then (some row, .error checkViolation)
    else
      (some
        { row with
          state := how.state
          responseStatus := some (Int16.ofInt snap.statusCode)
          responseBody := snap.body
          resourceID := snap.resourceID
          completedAt := some (if snap.completedAt = zeroTime then now else snap.completedAt) }, .ok ())

/-- `Release`: the row is deleted if it is still IN_FLIGHT, whoever holds its lease. -/
def releaseRow : Option Row → Option Row
  | none => none
  | some row => if row.state = .inFlight then none else some row

/-- `PurgeExpired`, as it concerns this row. -/
def purgeRow (before : Time) : Option Row → Option Row
  | none => none
  | some row => if row.expiresAt < before then none else some row

theorem insertClaim_cases (row : Option Row) :
    (row.isSome = true ∧ insertClaim rec row = (row, false)) ∨
      ∃ new, row = none ∧ insertClaim rec row = (some new, true) ∧ new.state = .inFlight ∧
        new.fingerprint = rec.fingerprint ∧ new.leaseExpiresAt = rec.leaseExpiresAt := by
  cases row with
  | none => exact .inr ⟨_, rfl, rfl, rfl, rfl, rfl⟩
  | some => exact .inl ⟨rfl, rfl⟩

theorem reclaimLease_cases (row : Option Row) : reclaimLease rec now row = (row, false) ∨
      ∃ old new, row = some old ∧ reclaimLease rec now row = (some new, true) ∧
        old.state = .inFlight ∧ old.leaseExpiresAt < now ∧ old.fingerprint = rec.fingerprint ∧
        new.state = .inFlight ∧ new.fingerprint = rec.fingerprint ∧
        new.leaseExpiresAt = rec.leaseExpiresAt := by
  cases row with
  | none => exact .inl rfl
  | some old =>
    by_cases free : old.state = .inFlight ∧ old.leaseExpiresAt < now ∧
      old.fingerprint = rec.fingerprint
    · refine .inr ⟨old, _, rfl, if_pos free, free.1, free.2.1, free.2.2, free.1, free.2.2, rfl⟩
    · exact .inl (if_neg free)

open Lib.Interleaving Lib.TransitionSystem

structure Manager where
  key : IdempotencyKey
  lease : Time
  retention : Time
  retryAfter : Time
  /-- Nil is a supported configuration. -/
  cached : Bool

inductive Outcome where
  | new | reclaimed | replay | inProgress | mismatch
  deriving DecidableEq

def Outcome.owns (o : Outcome) : Bool := o == .new || o == .reclaimed

/-- The cache's mirror of a settled record, as it is decoded. -/
structure CachedSnapshot where
  fingerprint : String
  snapshot : ResponseSnapshot

structure Handle where
  fingerprint : String
  outcome : Outcome
  snapshot : Option ResponseSnapshot
  retryAfter : Time
  originalRequestID : String
  originalTraceID : String

namespace Manager

variable (m : Manager)

/-- What the cache holds after a mirror; `accepted` is whether it took it. -/
def mirrorToCache (accepted : Bool) (fp : String) (snap : ResponseSnapshot)
    (cache : Option CachedSnapshot) : Option CachedSnapshot :=
  if m.cached && accepted then some { fingerprint := fp, snapshot := snap } else cache

/-- The store's snapshot wins; the cache is asked only without one, and believed only about the
same fingerprint. -/
def resolveSnapshot (accepted : Bool) (fp : String) (fromStore : Option ResponseSnapshot)
    (cache : Option CachedSnapshot) : Option CachedSnapshot × Option ResponseSnapshot :=
  match fromStore with
  | some snap => (m.mirrorToCache accepted fp snap cache, some snap)
  | none =>
    if !m.cached then (cache, none)
    else (cache, (cache.filter (·.fingerprint == fp)).map (·.snapshot))

def record (fp requestID traceID : String) (now : Time) : IdempotencyRecord :=
  { fingerprint := fp, leaseExpiresAt := now + m.lease, expiresAt := now + m.retention,
    requestID := requestID, traceID := traceID : IdempotencyRecord }.withDeadlines now

def unreadable : GoError :=
  new .dependencyFailure "the stored response for this idempotency key could not be read"

def reused : GoError :=
  newWithDetail .idempotencyKeyReused ""
    { field := "Idempotency-Key", code := "KEY_REUSED_WITH_DIFFERENT_BODY",
      message := "this idempotency key was already used with a different request body; use a " ++
        "new key for a new operation",
      ruleID := "L5.IDEMPOTENCY_FINGERPRINT_MATCHES" }

/-- `Begin` from the claim's result on: the cache, the handle and the error. -/
def answer (accepted : Bool) (fp : String) (cache : Option CachedSnapshot) (res : ClaimResult) :
    Option CachedSnapshot × Handle × Option GoError :=
  let handle (o : Outcome) : Handle :=
    { fingerprint := fp, outcome := o, snapshot := none, retryAfter := 0,
      originalRequestID := res.originalReqID, originalTraceID := res.originalTrace }
  match res.outcome with
  | .new => (cache, handle .new, none)
  | .reclaimed => (cache, handle .reclaimed, none)
  | .replay =>
    let (cache, snapshot) := m.resolveSnapshot accepted fp res.snapshot cache
    (cache, { handle .replay with snapshot := snapshot },
      if snapshot.isNone then some unreadable else none)
  | .inProgress =>
    (cache,
      { handle .inProgress with
        retryAfter := if res.retryAfter ≤ 0 then m.retryAfter else res.retryAfter },
      some (new .idempotentRequestInProgress ""))
  | .fingerprintMismatch => (cache, handle .mismatch, some reused)

def storeUnavailable (err : GoError) : GoError :=
  wrap err .dependencyFailure "the idempotency store is unavailable"

end Manager

/-- How a statement ends: it runs, it runs and the answer is lost, or it does not run. -/
inductive Execution where
  | answered
  | lost (err : GoError)
  | failed (err : GoError)

/-- One request's way through the manager.  A caller that holds a claim keeps the number of that
claim among those granted. -/
inductive Caller where
  | idle
  | begun (rec : IdempotencyRecord)
  | conflicted (rec : IdempotencyRecord)
  | unreclaimed (rec : IdempotencyRecord)
  | holding (rec : IdempotencyRecord) (outcome : Outcome) (claim : Nat)
  | closed (rec : IdempotencyRecord) (err : Option GoError)
  | ended (rec : IdempotencyRecord) (handle : Option Handle) (err : Option GoError)

/-- What the callers share.  `claims` counts the claims granted so far. -/
structure Shared where
  clock : Time
  row : Option Row
  cache : Option CachedSnapshot
  claims : Nat

inductive Action where
  | tick (d : Nat)
  | purge
  | evict
  | begin (fp requestID traceID : String)
  /-- The next statement of the claim. -/
  | next (x : Execution) (accepted : Bool)
  | settle (how : Settlement) (status : Int) (body : List UInt8) (resourceID : String)
      (x : Execution) (accepted : Bool)
  | release (x : Execution)

namespace Manager

variable (m : Manager) (s : Shared) (rec : IdempotencyRecord)

def grant (row : Option Row) (rec : IdempotencyRecord) (o : Outcome) : Shared × Caller :=
  ({ s with row := row, claims := s.claims + 1 }, .holding rec o (s.claims + 1))

/-- A claim statement whose answer does not arrive ends `Begin`. -/
def giveUp (row : Option Row) (rec : IdempotencyRecord) (err : GoError) : Shared × Caller :=
  ({ s with row := row }, .ended rec none (some (storeUnavailable err)))

def runInsert : Execution → Shared × Caller
  | .answered =>
    let (row, inserted) := insertClaim rec s.row
    if inserted then grant s row rec .new else ({ s with row := row }, .conflicted rec)
  | .lost err => giveUp s (insertClaim rec s.row).1 rec err
  | .failed err => giveUp s s.row rec err

def runReclaim : Execution → Shared × Caller
  | .answered =>
    let (row, reclaimed) := reclaimLease rec s.clock s.row
    if reclaimed then grant s row rec .reclaimed else ({ s with row := row }, .unreclaimed rec)
  | .lost err => giveUp s (reclaimLease rec s.clock s.row).1 rec err
  | .failed err => giveUp s s.row rec err

def runRead (accepted : Bool) : Execution → Shared × Caller
  | .answered =>
    match resolveRow rec s.clock s.row with
    | .error err => giveUp s s.row rec err
    | .ok res =>
      let (cache, handle, err) := m.answer accepted rec.fingerprint s.cache res
      ({ s with cache := cache }, .ended rec (some handle) err)
  | .lost err => giveUp s s.row rec err
  | .failed err => giveUp s s.row rec err

def settleError : Settlement → GoError → GoError
  | .complete, err => wrap err .dependencyFailure "the idempotency record could not be completed"
  | .failTerminal, err => wrap err .dependencyFailure "the idempotency record could not be finalized"

/-- `Complete` and `FailTerminal` of an owning handle that is not settled yet. -/
def runSettle (how : Settlement) (snap : ResponseSnapshot)
    (accepted : Bool) : Execution → Shared × Caller
  | .answered =>
    let (row, result) := settleRow m.key how snap s.clock s.row
    match result with
    | .error err => ({ s with row := row }, .closed rec (some (settleError how err)))
    | .ok () =>
      ({ s with row := row, cache := m.mirrorToCache accepted rec.fingerprint snap s.cache },
        .closed rec none)
  | .lost err =>
    ({ s with row := (settleRow m.key how snap s.clock s.row).1 },
      .closed rec (some (settleError how err)))
  | .failed err => (s, .closed rec (some (settleError how err)))

def releaseError (err : GoError) : GoError :=
  wrap err .dependencyFailure "the idempotency claim could not be released"

def runRelease : Execution → Shared × Caller
  | .answered => ({ s with row := releaseRow s.row }, .closed rec none)
  | .lost err => ({ s with row := releaseRow s.row }, .closed rec (some (releaseError err)))
  | .failed err => (s, .closed rec (some (releaseError err)))

/-- One action.  What a caller is not in a position to do changes nothing. -/
def act (c : Caller) : Action → Shared × Caller
  | .tick d => ({ s with clock := s.clock + d }, c)
  | .purge => ({ s with row := purgeRow s.clock s.row }, c)
  | .evict => ({ s with cache := none }, c)
  | .begin fp requestID traceID =>
    match c with
    | .idle => (s, .begun (m.record fp requestID traceID s.clock))
    | _ => (s, c)
  | .next x accepted =>
    match c with
    | .begun rec => runInsert s rec x
    | .conflicted rec => runReclaim s rec x
    | .unreclaimed rec => m.runRead s rec accepted x
    | _ => (s, c)
  | .settle how status body resourceID x accepted =>
    match c with
    | .holding rec _ _ =>
      m.runSettle s rec how
        { statusCode := status, body := body, resourceID := resourceID, completedAt := s.clock }
        accepted x
    | _ => (s, c)
  | .release x =>
    match c with
    | .holding rec _ _ => runRelease s rec x
    | _ => (s, c)

/-- Any number of callers on a key that has no record yet. -/
def callers (ι : Type) [DecidableEq ι] : System (Config Shared ι Caller) (ι × Action) :=
  interleaving m.act fun s =>
    s.shared.row = none ∧ s.shared.cache = none ∧ s.shared.claims = 0 ∧ ∀ i, s.own i = .idle

end Manager

/-! Callers of one key, on which the definitions are evaluated. -/

def sampleManager : Manager where
  key :=
    { tenantID := "ten_1", merchantID := "mer_1", method := "POST", pathTemplate := "/v1/payments",
      key := "key_1" }
  lease := 60 * second
  retention := idempotencyRetention
  retryAfter := second
  cached := false

def sampleCallers : Config Shared Nat Caller where
  shared := { clock := 1, row := none, cache := none, claims := 0 }
  own := fun _ => .idle

theorem init_sampleCallers : (sampleManager.callers Nat).init sampleCallers :=
  ⟨rfl, rfl, rfl, fun _ => rfl⟩

end PaymentsPlatform.Idempotency
