/- layer: results about idempotency claims
   digest: When at most one caller holds a live claim, and that a settled record is what every later
     request gets. -/

import PaymentsPlatform.Idempotency.Manager

namespace PaymentsPlatform.Idempotency

open Lib.Interleaving Lib.TransitionSystem
open Manager (act giveUp reused runInsert runRead runReclaim runRelease runSettle storeUnavailable)

section Claims

def Caller.claim : Caller → Option (IdempotencyRecord × Nat)
  | .holding rec _ n => some (rec, n)
  | _ => none

def Live (s : Shared) (c : Caller) : Prop := ∃ rec n, c.claim = some (rec, n) ∧ s.clock ≤ rec.leaseExpiresAt

/-- The key has been claimed by another since. -/
def Superseded (s : Shared) (c : Caller) : Prop := ∃ rec n, c.claim = some (rec, n) ∧ n < s.claims

/-- Claims are settled and released before their lease expires.  Nothing is purged. -/
def InTime (s : Shared) (c : Caller) : Action → Prop
  | .settle .. | .release .. => ∀ rec n, c.claim = some (rec, n) → s.clock ≤ rec.leaseExpiresAt
  | .purge => False
  | _ => True

structure Exclusive {ι : Type} (m : Manager) (s : Config Shared ι Caller) : Prop where
  single : ∀ i j, Live s.shared (s.own i) → Live s.shared (s.own j) → i = j
  fenced : ∀ i a, Superseded s.shared (s.own i) → InTime s.shared (s.own i) a →
    (m.act s.shared (s.own i) a).1.row = s.shared.row

/-- Nobody holds a live claim on the row. -/
def Free (s : Shared) : Prop :=
  ∀ row, s.row = some row → row.state = .inFlight → row.leaseExpiresAt < s.clock

def Leased (row : Option Row) (lease : Time) : Prop :=
  ∃ r, row = some r ∧ r.state = .inFlight ∧ r.leaseExpiresAt = lease

inductive Move (s : Shared) (c : Caller) : Shared → Caller → Prop
  | quiet (clock : Time) (cache : Option CachedSnapshot) (c' : Caller) (later : s.clock ≤ clock)
      (kept : c'.claim = none ∨ c' = c) : Move s c { s with clock := clock, cache := cache } c'
  | granted (row : Option Row) (rec : IdempotencyRecord) (o : Outcome) (free : Free s)
      (leased : Leased row rec.leaseExpiresAt) :
      Move s c { s with row := row, claims := s.claims + 1 } (.holding rec o (s.claims + 1))
  | orphaned (row : Option Row) (c' : Caller) (free : Free s) (none : c'.claim = none) :
      Move s c { s with row := row } c'
  | closed (row : Option Row) (cache : Option CachedSnapshot) (rec : IdempotencyRecord) (n : Nat)
      (c' : Caller) (held : c.claim = some (rec, n)) (live : s.clock ≤ rec.leaseExpiresAt)
      (none : c'.claim = none) : Move s c { s with row := row, cache := cache } c'

section Moves

variable {m : Manager} {s : Shared} {c : Caller}

theorem free_of_none (h : s.row = none) : Free s := fun row some => by
  rw [h] at some
  cases some

theorem free_of_expired {old : Row} (h : s.row = some old) (expired : old.leaseExpiresAt < s.clock) :
    Free s := fun row same _ => by
  rw [h] at same
  cases same
  exact expired

theorem move_caller (c' : Caller) (kept : c'.claim = none ∨ c' = c) : Move s c s c' :=
  .quiet s.clock s.cache c' (le_refl _) kept

variable (rec : IdempotencyRecord)

theorem giveUp_moves (err : Pkg.ApiError.GoError) :
    Move s c (giveUp s s.row rec err).1 (giveUp s s.row rec err).2 :=
  move_caller _ (.inl rfl)

theorem runInsert_moves (x : Execution) : Move s c (runInsert s rec x).1 (runInsert s rec x).2 := by
  rcases insertClaim_cases rec s.row with ⟨-, same⟩ | ⟨row, empty, inserted, inFlight, -, lease⟩
  · cases x with
    | answered =>
      simp only [runInsert, same]
      exact move_caller _ (.inl rfl)
    | lost err =>
      simp only [runInsert, same]
      exact giveUp_moves rec err
    | failed err => exact giveUp_moves rec err
  · have free := free_of_none empty
    cases x with
    | answered =>
      simp only [runInsert, inserted]
      exact .granted _ rec .new free ⟨row, rfl, inFlight, lease⟩
    | lost =>
      simp only [runInsert, inserted]
      exact .orphaned _ _ free rfl
    | failed err => exact giveUp_moves rec err

theorem runReclaim_moves (x : Execution) :
    Move s c (runReclaim s rec x).1 (runReclaim s rec x).2 := by
  rcases reclaimLease_cases rec s.clock s.row with
    same | ⟨old, row, found, reclaimed, -, expired, -, inFlight, -, lease⟩
  · cases x with
    | answered =>
      simp only [runReclaim, same]
      exact move_caller _ (.inl rfl)
    | lost err =>
      simp only [runReclaim, same]
      exact giveUp_moves rec err
    | failed err => exact giveUp_moves rec err
  · have free := free_of_expired found expired
    cases x with
    | answered =>
      simp only [runReclaim, reclaimed]
      exact .granted _ rec .reclaimed free ⟨row, rfl, inFlight, lease⟩
    | lost =>
      simp only [runReclaim, reclaimed]
      exact .orphaned _ _ free rfl
    | failed err => exact giveUp_moves rec err

theorem runRead_moves (accepted : Bool) (x : Execution) :
    Move s c (m.runRead s rec accepted x).1 (m.runRead s rec accepted x).2 := by
  cases x with
  | answered =>
    cases resolved : resolveRow rec s.clock s.row with
    | error err =>
      simp only [runRead, resolved]
      exact giveUp_moves rec err
    | ok =>
      simp only [runRead, resolved]
      exact .quiet s.clock _ _ (le_refl _) (.inl rfl)
  | lost err => exact giveUp_moves rec err
  | failed err => exact giveUp_moves rec err

theorem runSettle_moves {rec : IdempotencyRecord} {n : Nat} (held : c.claim = some (rec, n))
    (live : s.clock ≤ rec.leaseExpiresAt) (how : Settlement) (snap : ResponseSnapshot)
    (accepted : Bool) (x : Execution) :
    Move s c (m.runSettle s rec how snap accepted x).1 (m.runSettle s rec how snap accepted x).2 := by
  cases x with
  | answered =>
    cases ran : (settleRow m.key how snap s.clock s.row).2 with
    | error =>
      simp only [runSettle, ran]
      exact .closed _ s.cache rec n _ held live rfl
    | ok =>
      simp only [runSettle, ran]
      exact .closed _ _ rec n _ held live rfl
  | lost => exact .closed _ s.cache rec n _ held live rfl
  | failed => exact move_caller _ (.inl rfl)

theorem runRelease_moves {rec : IdempotencyRecord} {n : Nat} (held : c.claim = some (rec, n))
    (live : s.clock ≤ rec.leaseExpiresAt) (x : Execution) :
    Move s c (runRelease s rec x).1 (runRelease s rec x).2 := by
  cases x with
  | answered | lost => exact .closed _ s.cache rec n _ held live rfl
  | failed => exact move_caller _ (.inl rfl)

theorem act_moves (a : Action) (inTime : InTime s c a) :
    Move s c (m.act s c a).1 (m.act s c a).2 := by
  cases a with
  | tick d =>
    have later : s.clock ≤ s.clock + d := Int.le_add_of_nonneg_right (Int.natCast_nonneg d)
    exact .quiet (s.clock + d) s.cache c later (.inr rfl)
  | purge => exact inTime.elim
  | evict => exact .quiet s.clock _ c (le_refl _) (.inr rfl)
  | begin =>
    cases c with
    | idle => exact move_caller _ (.inl rfl)
    | _ => exact move_caller _ (.inr rfl)
  | next x accepted =>
    cases c with
    | begun rec => exact runInsert_moves rec x
    | conflicted rec => exact runReclaim_moves rec x
    | unreclaimed rec => exact runRead_moves rec accepted x
    | _ => exact move_caller _ (.inr rfl)
  | settle how status body resourceID x accepted =>
    cases c with
    | holding rec o n => exact runSettle_moves rfl (inTime rec n rfl) how _ accepted x
    | _ => exact move_caller _ (.inr rfl)
  | release x =>
    cases c with
    | holding rec o n => exact runRelease_moves rfl (inTime rec n rfl) x
    | _ => exact move_caller _ (.inr rfl)

end Moves

/-- A claim is one of those granted.  While it is live it is the last one, and the row is in
flight under its lease. -/
def Owned (s : Shared) (c : Caller) : Prop :=
  ∀ rec n, c.claim = some (rec, n) → n ≤ s.claims ∧
    (s.clock ≤ rec.leaseExpiresAt → n = s.claims ∧ Leased s.row rec.leaseExpiresAt)

def Apart (c d : Caller) : Prop :=
  ∀ rec n rec' n', c.claim = some (rec, n) → d.claim = some (rec', n') → n ≠ n'

variable {s : Shared} {c : Caller}

theorem owned_of_none (none : c.claim = none) : Owned s c := by
  intro rec n held
  rw [none] at held
  cases held

theorem apart_of_none_claim {d : Caller} (none : c.claim = none) : Apart c d := by
  intro rec n rec' n' held
  rw [none] at held
  cases held

theorem Owned.expired_of_free (h : Owned s c) (free : Free s)
    {rec : IdempotencyRecord} {n : Nat} (held : c.claim = some (rec, n)) :
    ¬ s.clock ≤ rec.leaseExpiresAt := by
  intro live
  obtain ⟨-, row, found, inFlight, lease⟩ := (h rec n held).2 live
  have expired := free row found inFlight
  rw [lease] at expired
  exact absurd live (not_le.mpr expired)

section Invariant

variable {s : Shared} {c d : Caller} {s' : Shared} {c' : Caller}

theorem Move.owned (move : Move s c s' c') (h : Owned s c) : Owned s' c' := by
  cases move with
  | quiet clock cache c' later kept =>
    rcases kept with none | rfl
    · exact owned_of_none none
    · intro rec n held
      exact ⟨(h rec n held).1, fun live => (h rec n held).2 (le_trans later live)⟩
  | granted row rec o free leased =>
    intro rec' n held
    cases held
    exact ⟨le_refl _, fun _ => ⟨rfl, leased⟩⟩
  | orphaned row c' free none => exact owned_of_none none
  | closed row cache rec n c' held live none => exact owned_of_none none

theorem Move.owned_other (move : Move s c s' c') (hc : Owned s c) (hd : Owned s d)
    (apart : Apart c d) : Owned s' d := by
  cases move with
  | quiet clock cache c' later =>
    intro rec n held
    exact ⟨(hd rec n held).1, fun live => (hd rec n held).2 (le_trans later live)⟩
  | granted row rec o free =>
    intro rec' n held
    exact ⟨Nat.le_succ_of_le (hd rec' n held).1,
      fun live => absurd live (hd.expired_of_free free held)⟩
  | orphaned row c' free =>
    intro rec' n held
    exact ⟨(hd rec' n held).1, fun live => absurd live (hd.expired_of_free free held)⟩
  | closed row cache rec n c' mine live =>
    intro rec' n' held
    refine ⟨(hd rec' n' held).1, fun alive => ?_⟩
    have last : n = s.claims := ((hc rec n mine).2 live).1
    have other : n' = s.claims := ((hd rec' n' held).2 alive).1
    exact absurd (last.trans other.symm) (apart rec n rec' n' mine held)

theorem Move.apart (move : Move s c s' c') (hd : Owned s d) (apart : Apart c d) : Apart c' d := by
  cases move with
  | quiet clock cache c' later kept =>
    rcases kept with none | rfl
    · exact apart_of_none_claim none
    · exact apart
  | granted row rec =>
    intro rec₁ n₁ rec₂ n₂ mine held
    cases mine
    exact (Nat.lt_succ_of_le (hd rec₂ n₂ held).1).ne'
  | orphaned row c' free none => exact apart_of_none_claim none
  | closed row cache rec n c' mine live none => exact apart_of_none_claim none

end Invariant

theorem stable_claims (m : Manager) : Stable m.act InTime (fun _ => True) Owned Apart where
  symm _ _ apart rec n rec' n' held held' := (apart rec' n' rec n held' held).symm
  acting _ _ a _ owned inTime := ⟨trivial, (act_moves a inTime).owned owned⟩
  watching _ _ a _ _ mine other apart inTime :=
    ⟨(act_moves a inTime).owned_other mine other apart, (act_moves a inTime).apart other apart⟩

theorem Owned.fenced {m : Manager} (h : Owned s c)
    (superseded : Superseded s c) {a : Action} (inTime : InTime s c a) :
    (m.act s c a).1.row = s.row := by
  obtain ⟨rec, n, held, later⟩ := superseded
  have expired : ¬ s.clock ≤ rec.leaseExpiresAt := fun live =>
    absurd ((h rec n held).2 live).1 later.ne
  cases c with
  | holding =>
    cases held
    cases a with
    | settle | release => exact absurd (inTime rec n rfl) expired
    | purge => exact inTime.elim
    | _ => rfl
  | _ => cases held

/-- If every claim is settled or released before its lease expires, at most one caller holds a
live claim at any time, and a caller that was replaced no longer touches the record. -/
theorem exclusive_of_inTime {ι : Type} [DecidableEq ι] (m : Manager) {s : Config Shared ι Caller}
    (h : (m.callers ι).ReachableUnder (onAction InTime) s) : Exclusive m s := by
  have start : ∀ s : Config Shared ι Caller, (s.shared.row = none ∧ s.shared.cache = none ∧
      s.shared.claims = 0 ∧ ∀ i, s.own i = .idle) → Holds (fun _ => True) Owned Apart s := by
    rintro s ⟨-, -, -, idle⟩
    refine ⟨trivial, fun i => owned_of_none ?_, fun i j _ => apart_of_none_claim ?_⟩
    · rw [idle i]
      rfl
    · rw [idle i]
      rfl
  have holds := (stable_claims m).invariant start h
  refine ⟨fun i j first second => ?_, fun i a superseded inTime =>
    (holds.each i).fenced superseded inTime⟩
  obtain ⟨rec, n, held, live⟩ := first
  obtain ⟨rec', n', held', live'⟩ := second
  by_contra different
  have last := ((holds.each i rec n held).2 live).1
  have last' := ((holds.each j rec' n' held').2 live').1
  exact holds.pair i j different rec n rec' n' held held' (last.trans last'.symm)

/-! Three callers with one request: the first outlives its lease and the second takes over. -/

def takeover : List (Nat × Action) :=
  [(0, .begin "fp" "req_0" ""), (0, .next .answered true), (0, .tick 61000000000),
    (1, .begin "fp" "req_1" ""), (1, .next .answered true), (1, .next .answered true)]

def takenOver : Config Shared Nat Caller := (sampleManager.callers Nat).run sampleCallers takeover

theorem live_takenOver : Live takenOver.shared (takenOver.own 1) :=
  ⟨_, _, rfl, by decide⟩

theorem superseded_takenOver : Superseded takenOver.shared (takenOver.own 0) :=
  ⟨_, _, rfl, by decide⟩

theorem exclusive_takenOver :
    Exclusive sampleManager takenOver ∧ Live takenOver.shared (takenOver.own 1) ∧
      Superseded takenOver.shared (takenOver.own 0) := by
  have inTime : (sampleManager.callers Nat).Meets (onAction InTime) sampleCallers takeover :=
    ⟨trivial, trivial, trivial, trivial, trivial, trivial, trivial⟩
  refine ⟨?_, live_takenOver, superseded_takenOver⟩
  exact exclusive_of_inTime sampleManager
    (System.reachableUnder_run (.init init_sampleCallers) takeover inTime)

/-- The first caller releases the record it no longer holds, and a third one claims it anew. -/
def doublyHeld : Config Shared Nat Caller :=
  (sampleManager.callers Nat).run takenOver
    [(0, .release .answered), (2, .begin "fp" "req_2" ""), (2, .next .answered true)]

theorem not_exclusive_doublyHeld :
    (sampleManager.callers Nat).Reachable takenOver ∧
      Superseded takenOver.shared (takenOver.own 0) ∧
      takenOver.shared.row.isSome = true ∧
      (sampleManager.act takenOver.shared (takenOver.own 0) (.release .answered)).1.row = none ∧
      (sampleManager.callers Nat).Reachable doublyHeld ∧
      Live doublyHeld.shared (doublyHeld.own 1) ∧ Live doublyHeld.shared (doublyHeld.own 2) := by
  have reached : (sampleManager.callers Nat).Reachable takenOver :=
    System.reachable_run (.init init_sampleCallers) takeover
  refine ⟨reached, superseded_takenOver, by decide, by decide, System.reachable_run reached _, ?_, ?_⟩
  · exact ⟨_, _, rfl, by decide⟩
  · exact ⟨_, _, rfl, by decide⟩

end Claims

/-- What `Begin` returns about a settled row: its response, or that the key is taken. -/
def AnswersFrom (row : Row) (fp : String) (handle : Handle) (err : Option GoError) : Prop :=
  (fp = row.fingerprint →
      handle.outcome = .replay ∧ handle.snapshot = some row.snapshot ∧ err = none) ∧
    (fp ≠ row.fingerprint →
      handle.outcome = .mismatch ∧ handle.snapshot = none ∧ err = some reused)

/-- How far a request has come that began when the row was settled. -/
def Later (row : Row) : Caller → Prop
  | .idle | .begun _ | .conflicted _ | .unreclaimed _ => True
  | .holding .. | .closed .. => False
  | .ended rec handle err => ∀ h, handle = some h → AnswersFrom row rec.fingerprint h err

def Caller.request : Caller → Option IdempotencyRecord
  | .begun rec | .conflicted rec | .unreclaimed rec => some rec
  | _ => none

/-- Neither NEW, RECLAIMED nor a replay. -/
def Unserved : Caller → Prop
  | .holding .. | .closed .. => False
  | .ended _ handle _ => ∀ h, handle = some h → h.outcome.owns = false ∧ h.outcome ≠ .replay
  | _ => True

section OneAction

variable {m : Manager} {s : Shared} {row : Row}

/-! The clock only moves with the clock's own action. -/

theorem clock_le_act (m : Manager) (s : Shared) (c : Caller) (a : Action) :
    s.clock ≤ (m.act s c a).1.clock := by
  cases a with
  | tick d => exact Int.le_add_of_nonneg_right (Int.natCast_nonneg d)
  | purge | evict => exact le_refl _
  | begin => cases c <;> exact le_refl _
  | next x accepted =>
    cases c with
    | begun | conflicted | unreclaimed =>
      cases x with
      | answered =>
        simp only [act, runInsert, runReclaim, runRead]
        split
        · exact le_refl _
        · exact le_refl _
      | lost | failed => exact le_refl _
    | _ => exact le_refl _
  | settle how status body resourceID x accepted =>
    cases c with
    | holding =>
      cases x with
      | answered =>
        simp only [act, runSettle]
        split
        · exact le_refl _
        · exact le_refl _
      | lost | failed => exact le_refl _
    | _ => exact le_refl _
  | release x =>
    cases c with
    | holding => cases x <;> exact le_refl _
    | _ => exact le_refl _

variable {c : Caller}

theorem next_unserved (found : s.row = some row) {rec : IdempotencyRecord}
    (request : c.request = some rec) (differs : rec.fingerprint ≠ row.fingerprint) (x : Execution)
    (accepted : Bool) : Unserved (m.act s c (.next x accepted)).2 := by
  have kept : reclaimLease rec s.clock s.row = (s.row, false) := by
    rw [found]
    exact if_neg fun h => differs h.2.2.symm
  have resolved : resolveRow rec s.clock s.row =
      .ok { outcome := .fingerprintMismatch, originalReqID := row.requestID,
            originalTrace := row.traceID } := by
    rw [found]
    exact if_pos differs.symm
  have silent : ∀ err, Unserved (.ended rec none (some err)) := fun err h none => by cases none
  cases c with
  | begun =>
    cases request
    cases x with
    | answered =>
      simp only [act, runInsert, found]
      trivial
    | lost | failed => exact silent _
  | conflicted =>
    cases request
    cases x with
    | answered =>
      simp only [act, runReclaim, kept]
      trivial
    | lost | failed => exact silent _
  | unreclaimed =>
    cases request
    cases x with
    | answered =>
      simp only [act, runRead, resolved]
      intro h same
      cases same
      exact ⟨rfl, Outcome.noConfusion⟩
    | lost | failed => exact silent _
  | _ => cases request

variable (found : s.row = some row) (settled : row.state ≠ .inFlight)

include found settled

omit settled in
theorem runInsert_answered (rec : IdempotencyRecord) :
    runInsert s rec .answered = (s, .conflicted rec) := by
  obtain ⟨clock, _, cache, claims⟩ := s
  cases found
  rfl

theorem runReclaim_answered (rec : IdempotencyRecord) :
    runReclaim s rec .answered = (s, .unreclaimed rec) := by
  obtain ⟨clock, _, cache, claims⟩ := s
  cases found
  have kept : reclaimLease rec clock (some row) = (some row, false) := if_neg fun h => settled h.1
  simp only [runReclaim, kept]
  rfl

theorem runRead_answered (rec : IdempotencyRecord) (accepted : Bool) :
    ∃ cache h err, m.runRead s rec accepted .answered =
        ({ s with cache := cache }, .ended rec (some h) err) ∧
      AnswersFrom row rec.fingerprint h err := by
  by_cases same : row.fingerprint = rec.fingerprint
  · have resolved : resolveRow rec s.clock s.row =
        .ok { outcome := .replay, snapshot := some row.snapshot, originalReqID := row.requestID,
              originalTrace := row.traceID } := by
      rw [found]
      simp only [resolveRow, same, ne_eq, not_true_eq_false, if_false]
      cases state : row.state with
      | inFlight => exact absurd state settled
      | completed | failedTerminal => rfl
    simp only [runRead, resolved]
    exact ⟨_, _, _, rfl, fun _ => ⟨rfl, rfl, rfl⟩, fun other => absurd same.symm other⟩
  · have resolved : resolveRow rec s.clock s.row =
        .ok { outcome := .fingerprintMismatch, originalReqID := row.requestID,
              originalTrace := row.traceID } := by
      rw [found]
      exact if_pos same
    simp only [runRead, resolved]
    exact ⟨_, _, _, rfl, fun equal => absurd equal.symm same, fun _ => ⟨rfl, rfl, rfl⟩⟩

theorem claim_unanswered (rec : IdempotencyRecord) (accepted : Bool) {x : Execution}
    (unanswered : x ≠ .answered) :
    ∃ err, runInsert s rec x = (s, .ended rec none (some err)) ∧
      runReclaim s rec x = (s, .ended rec none (some err)) ∧
      m.runRead s rec accepted x = (s, .ended rec none (some err)) := by
  obtain ⟨clock, _, cache, claims⟩ := s
  cases found
  have kept : reclaimLease rec clock (some row) = (some row, false) := if_neg fun h => settled h.1
  cases x with
  | answered => exact absurd rfl unanswered
  | lost err =>
    refine ⟨storeUnavailable err, rfl, ?_, rfl⟩
    simp only [runReclaim, kept]
    rfl
  | failed err => exact ⟨storeUnavailable err, rfl, rfl, rfl⟩

theorem runSettle_row (rec : IdempotencyRecord) (how : Settlement) (snap : ResponseSnapshot)
    (accepted : Bool) (x : Execution) :
    (m.runSettle s rec how snap accepted x).1.row = some row := by
  have kept : settleRow m.key how snap s.clock s.row = (some row, .error (notClaimed m.key)) := by
    rw [found]
    exact if_pos settled
  cases x with
  | answered | lost => simp only [runSettle, kept]
  | failed => exact found

theorem runRelease_row (rec : IdempotencyRecord) (x : Execution) :
    (runRelease s rec x).1.row = some row := by
  have kept : releaseRow s.row = some row := by
    rw [found]
    exact if_neg settled
  cases x with
  | answered | lost => exact kept
  | failed => exact found

theorem next_settled (later : Later row c) (x : Execution) (accepted : Bool) :
    (m.act s c (.next x accepted)).1.row = some row ∧
      Later row (m.act s c (.next x accepted)).2 := by
  by_cases answers : x = .answered
  · subst answers
    cases c with
    | begun rec =>
      simp only [act, runInsert_answered found rec]
      exact ⟨found, trivial⟩
    | conflicted rec =>
      simp only [act, runReclaim_answered found settled rec]
      exact ⟨found, trivial⟩
    | unreclaimed rec =>
      obtain ⟨cache, h, err, ran, right⟩ := runRead_answered (m := m) found settled rec accepted
      simp only [act, ran]
      refine ⟨found, fun h' same => ?_⟩
      cases same
      exact right
    | _ => exact ⟨found, later⟩
  · cases c with
    | begun rec =>
      obtain ⟨err, ran, -, -⟩ := claim_unanswered (m := m) found settled rec accepted answers
      simp only [act, ran]
      exact ⟨found, fun h none => by cases none⟩
    | conflicted rec =>
      obtain ⟨err, -, ran, -⟩ := claim_unanswered (m := m) found settled rec accepted answers
      simp only [act, ran]
      exact ⟨found, fun h none => by cases none⟩
    | unreclaimed rec =>
      obtain ⟨err, -, -, ran⟩ := claim_unanswered (m := m) found settled rec accepted answers
      simp only [act, ran]
      exact ⟨found, fun h none => by cases none⟩
    | _ => exact ⟨found, later⟩

theorem act_row (retained : s.clock ≤ row.expiresAt) (c : Caller) (a : Action) :
    (m.act s c a).1.row = some row := by
  cases a with
  | tick | evict => exact found
  | purge =>
    simp only [act, found, purgeRow]
    exact if_neg (not_lt.mpr retained)
  | begin => cases c <;> exact found
  | next x accepted =>
    cases c with
    | begun rec => exact (next_settled found settled (c := .begun rec) trivial x accepted).1
    | conflicted rec =>
      exact (next_settled found settled (c := .conflicted rec) trivial x accepted).1
    | unreclaimed rec =>
      exact (next_settled found settled (c := .unreclaimed rec) trivial x accepted).1
    | _ => exact found
  | settle how status body resourceID x accepted =>
    cases c with
    | holding rec => exact runSettle_row found settled rec how _ accepted x
    | _ => exact found
  | release x =>
    cases c with
    | holding rec => exact runRelease_row found settled rec x
    | _ => exact found

theorem act_later (later : Later row c) (a : Action) : Later row (m.act s c a).2 := by
  cases a with
  | next x accepted => exact (next_settled found settled later x accepted).2
  | begin => cases c <;> exact later
  | settle | release =>
    cases c with
    | holding => exact later.elim
    | _ => exact later
  | _ => exact later

end OneAction

section Runs

variable {ι : Type} [DecidableEq ι] {m : Manager} {s : Config Shared ι Caller} {row : Row}

theorem clock_le_run (labels : List (ι × Action)) :
    s.shared.clock ≤ ((m.callers ι).run s labels).shared.clock := by
  induction labels generalizing s with
  | nil => exact le_refl _
  | cons l rest ih => exact le_trans (clock_le_act m s.shared (s.own l.1) l.2) ih

theorem run_row (found : s.shared.row = some row) (settled : row.state ≠ .inFlight)
    (labels : List (ι × Action))
    (retained : ((m.callers ι).run s labels).shared.clock ≤ row.expiresAt) :
    ((m.callers ι).run s labels).shared.row = some row := by
  induction labels generalizing s with
  | nil => exact found
  | cons l rest ih =>
    have now : s.shared.clock ≤ row.expiresAt := le_trans (clock_le_run (l :: rest)) retained
    exact ih (act_row found settled now (s.own l.1) l.2) retained

variable {i : ι}

theorem run_later (found : s.shared.row = some row) (settled : row.state ≠ .inFlight)
    (later : Later row (s.own i)) (labels : List (ι × Action))
    (retained : ((m.callers ι).run s labels).shared.clock ≤ row.expiresAt) :
    Later row (((m.callers ι).run s labels).own i) := by
  induction labels generalizing s with
  | nil => exact later
  | cons l rest ih =>
    have now : s.shared.clock ≤ row.expiresAt := le_trans (clock_le_run (l :: rest)) retained
    refine ih (act_row found settled now (s.own l.1) l.2) ?_ retained
    by_cases mine : i = l.1
    · subst mine
      have self : ((m.callers ι).step s l).own l.1 = (m.act s.shared (s.own l.1) l.2).2 :=
        Function.update_self _ _ _
      rw [self]
      exact act_later found settled later l.2
    · have other : ((m.callers ι).step s l).own i = s.own i := Function.update_of_ne mine _ _
      rw [other]
      exact later

variable {labels : List (ι × Action)}

theorem run_own_of_others (others : ∀ l ∈ labels, l.1 ≠ i) :
    ((m.callers ι).run s labels).own i = s.own i := by
  induction labels generalizing s with
  | nil => rfl
  | cons l rest ih =>
    have still : ((m.callers ι).step s l).own i = s.own i :=
      Function.update_of_ne (others l List.mem_cons_self).symm _ _
    exact (ih fun l mem => others l (List.mem_cons_of_mem _ mem)).trans still

theorem run_leg (found : s.shared.row = some row) (settled : row.state ≠ .inFlight)
    (others : ∀ l ∈ labels, l.1 ≠ i) (a : Action)
    (retained : ((m.callers ι).run s (labels ++ [(i, a)])).shared.clock ≤ row.expiresAt) :
    ∃ sh, sh.row = some row ∧
      ((m.callers ι).run s (labels ++ [(i, a)])).own i = (m.act sh (s.own i) a).2 := by
  rw [System.run_concat] at retained ⊢
  have before : ((m.callers ι).run s labels).shared.clock ≤ row.expiresAt :=
    le_trans (clock_le_act m _ _ a) retained
  refine ⟨((m.callers ι).run s labels).shared, run_row found settled labels before, ?_⟩
  have self : ((m.callers ι).step ((m.callers ι).run s labels) (i, a)).own i =
      (m.act ((m.callers ι).run s labels).shared (((m.callers ι).run s labels).own i) a).2 :=
    Function.update_self _ _ _
  rw [self, run_own_of_others others]

end Runs

section Guarantee

variable {ι : Type} [DecidableEq ι]

/-- The labels of one `Begin`, with what the others do before and between its statements. -/
def beginLabels (i : ι) (fp requestID traceID : String) (accepted : Bool)
    (l₀ l₁ l₂ l₃ : List (ι × Action)) : List (ι × Action) :=
  (l₀ ++ [(i, .begin fp requestID traceID)]) ++ (l₁ ++ [(i, .next .answered accepted)]) ++
    (l₂ ++ [(i, .next .answered accepted)]) ++ (l₃ ++ [(i, .next .answered accepted)])

/-- Once the row is settled and as long as it is retained: it does not change, no unanswered request
gets anything but its response or a refusal, and one that begins later and whose statements are
answered gets that. -/
structure Replays (m : Manager) (s : Config Shared ι Caller) (row : Row) : Prop where
  kept : ∀ labels, ((m.callers ι).run s labels).shared.clock ≤ row.expiresAt →
    ((m.callers ι).run s labels).shared.row = some row
  answers : ∀ labels i, s.own i = .idle ∨ (s.own i).request.isSome = true →
    ((m.callers ι).run s labels).shared.clock ≤ row.expiresAt →
    Later row (((m.callers ι).run s labels).own i)
  returns : ∀ i, s.own i = .idle → ∀ fp requestID traceID accepted l₀ l₁ l₂ l₃,
    (∀ l ∈ l₀, l.1 ≠ i) → (∀ l ∈ l₁, l.1 ≠ i) → (∀ l ∈ l₂, l.1 ≠ i) → (∀ l ∈ l₃, l.1 ≠ i) →
    ((m.callers ι).run s (beginLabels i fp requestID traceID accepted l₀ l₁ l₂ l₃)).shared.clock ≤
      row.expiresAt →
    ∃ rec h err,
      ((m.callers ι).run s (beginLabels i fp requestID traceID accepted l₀ l₁ l₂ l₃)).own i =
        .ended rec (some h) err ∧ AnswersFrom row fp h err

theorem begin_returns {m : Manager} {s : Config Shared ι Caller} {row : Row}
    (found : s.shared.row = some row) (settled : row.state ≠ .inFlight) {i : ι}
    (idle : s.own i = .idle) (fp requestID traceID : String) (accepted : Bool)
    {l₀ l₁ l₂ l₃ : List (ι × Action)} (o₀ : ∀ l ∈ l₀, l.1 ≠ i) (o₁ : ∀ l ∈ l₁, l.1 ≠ i)
    (o₂ : ∀ l ∈ l₂, l.1 ≠ i) (o₃ : ∀ l ∈ l₃, l.1 ≠ i)
    (retained : ((m.callers ι).run s
      (beginLabels i fp requestID traceID accepted l₀ l₁ l₂ l₃)).shared.clock ≤ row.expiresAt) :
    ∃ rec h err,
      ((m.callers ι).run s (beginLabels i fp requestID traceID accepted l₀ l₁ l₂ l₃)).own i =
        .ended rec (some h) err ∧ AnswersFrom row fp h err := by
  unfold beginLabels at retained ⊢
  rw [System.run_append _ s (_ ++ _ ++ _) (l₃ ++ _), System.run_append _ s (_ ++ _) (l₂ ++ _),
    System.run_append _ s (l₀ ++ _) (l₁ ++ _)] at retained ⊢
  have r₂ := le_trans (clock_le_run _) retained
  have r₁ := le_trans (clock_le_run _) r₂
  have r₀ := le_trans (clock_le_run _) r₁
  have f₁ := run_row found settled _ r₀
  have f₂ := run_row f₁ settled _ r₁
  have f₃ := run_row f₂ settled _ r₂
  obtain ⟨sh₀, found₀, begun⟩ := run_leg found settled o₀ (.begin fp requestID traceID) r₀
  rw [idle] at begun
  obtain ⟨sh₁, found₁, inserted⟩ := run_leg f₁ settled o₁ (.next .answered accepted) r₁
  rw [begun] at inserted
  obtain ⟨sh₂, found₂, reclaimed⟩ := run_leg f₂ settled o₂ (.next .answered accepted) r₂
  rw [inserted] at reclaimed
  obtain ⟨sh₃, found₃, ended⟩ := run_leg f₃ settled o₃ (.next .answered accepted) retained
  rw [reclaimed] at ended
  rw [ended]
  simp only [act, runInsert_answered found₁, runReclaim_answered found₂ settled]
  obtain ⟨cache, h, err, ran, right⟩ := runRead_answered (m := m) found₃ settled
    (m.record fp requestID traceID sh₀.clock) accepted
  exact ⟨_, h, err, congrArg Prod.snd ran, right⟩

theorem later_of_pending {row : Row} {c : Caller} (h : c = .idle ∨ c.request.isSome = true) :
    Later row c := by
  rcases h with rfl | pending
  · trivial
  · cases c with
    | begun | conflicted | unreclaimed => trivial
    | _ => cases pending

/-- Every settled record is replayed until its retention is over, and while there is a record no
request with another fingerprint is served. -/
theorem replays_of_settled (m : Manager) {s : Config Shared ι Caller} {row : Row}
    (found : s.shared.row = some row) :
    (row.state ≠ .inFlight → Replays m s row) ∧
      ∀ i rec x accepted, (s.own i).request = some rec → rec.fingerprint ≠ row.fingerprint →
        Unserved (((m.callers ι).step s (i, .next x accepted)).own i) := by
  constructor
  · intro settled
    exact
      { kept := run_row found settled
        answers := fun labels i pending retained =>
          run_later found settled (later_of_pending pending) labels retained
        returns := fun i idle fp requestID traceID accepted l₀ l₁ l₂ l₃ o₀ o₁ o₂ o₃ retained =>
          begin_returns found settled idle fp requestID traceID accepted o₀ o₁ o₂ o₃ retained }
  · intro i rec x accepted request differs
    have self : ((m.callers ι).step s (i, .next x accepted)).own i =
        (m.act s.shared (s.own i) (.next x accepted)).2 := Function.update_self _ _ _
    rw [self]
    exact next_unserved found request differs x accepted

end Guarantee

/-- A request that was carried out and completed. -/
def settledCallers : Config Shared Nat Caller :=
  (sampleManager.callers Nat).run sampleCallers
    [(0, .begin "fp" "req_0" "trace_0"), (0, .next .answered true),
      (0, .settle .complete 201 [123, 125] "pay_1" .answered true)]

def settledRow : Row where
  fingerprint := "fp"
  state := .completed
  leaseOwner := "req_0"
  leaseExpiresAt := 1 + 60 * second
  responseStatus := some 201
  responseBody := [123, 125]
  resourceID := "pay_1"
  requestID := "req_0"
  traceID := "trace_0"
  completedAt := some 1
  expiresAt := 1 + idempotencyRetention

theorem replays_settledCallers :
    settledCallers.shared.row = some settledRow ∧ settledCallers.own 1 = .idle ∧
      Replays sampleManager settledCallers settledRow := by
  have found : settledCallers.shared.row = some settledRow := rfl
  exact ⟨found, rfl, (replays_of_settled sampleManager found).1 (by decide)⟩

end PaymentsPlatform.Idempotency
