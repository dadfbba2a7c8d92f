/- layer: results about the orchestrator
   digest: Refunds of one payment at the same time: what the gateway is asked to return, against
     what was captured, and that no stored refund is lost. -/

import PaymentsPlatform.Orchestration.Rules
import PaymentsPlatform.Payments.Totals

namespace PaymentsPlatform.Orchestration

open Gateways Lib.Interleaving Lib.Procedure Lib.TransitionSystem Payments
open Pkg (Money)
open Storage (Row Tx)

structure RefundTask where
  pay : Payment
  rin : RefundInput
  env : RefundEnv
  success : Attempt
  index : Nat

/-- How far a Refund request has come. -/
inductive RefundPhase where
  | waiting
  | loaded (pay : Payment)
  | started (task : RefundTask)
  | calling (task : RefundTask)
  | done

/-- The next step of a request: loading the payment and passing the checks, saving the refund,
sending the call, and recording its answer. -/
inductive RefundStep where
  | load (refusal : Option GoError)
  | start (rin : RefundInput) (env : RefundEnv)
  | send
  | close

/-- The writes of other requests are steps of their own. -/
def RefundEnv.alone (env : RefundEnv) : RefundEnv :=
  { env with
    intentTx := env.intentTx.alone
    outcomeTx := env.outcomeTx.alone
    reloadTx := env.reloadTx.alone }

/-- One step of one request.  One that is not the request's next does nothing, and neither does an
identifier already taken: they are drawn fresh. -/
def refundAct (s : Store) (phase : RefundPhase) (step : RefundStep) : Store × RefundPhase :=
  match phase, step with
  | .waiting, .load refusal =>
    match refusal, s.row.payment.rehydrate with
    | none, .ok p => (s, .loaded p)
    | _, _ => (s, .done)
  | .loaded pay, .start rin env =>
    if s.row.payment.refunds.any (·.id == env.refundID) then (s, .loaded pay)
    else
      match pay.successfulAttempt with
      | none => (s, .done)
      | some success =>
        match openRefund rin env.alone { pay, row := s.row, log := s.log } with
        | (w, .ok index) =>
          ({ row := w.row.over s.row, log := w.log },
            .started { pay := w.pay, rin, env, success, index })
        | (w, .error _) => ({ row := w.row.over s.row, log := w.log }, .done)
  | .started t, .send =>
    match sendRefund t.rin t.env t.success { pay := t.pay, row := s.row, log := s.log } with
    | (w, .ok _) => ({ s with log := w.log }, .calling t)
    | (w, .error _) => ({ s with log := w.log }, .done)
  | .calling t, .close =>
    let w := (closeRefund t.rin t.env.alone t.success t.index
      { pay := t.pay, row := s.row, log := s.log }).1
    ({ row := w.row.over s.row, log := w.log }, .done)
  | phase, _ => (s, phase)

/-! What has been sent, and what of it may be returned. -/

def Effect.refundSent : Effect → Option (RefundID × Money)
  | .refund _ request _ => some (request.refundID, request.amount)
  | _ => none

def sentRefunds (log : List Effect) : List (RefundID × Money) := log.filterMap Effect.refundSent

def releasedIn (row : Row) (id : RefundID) : Bool :=
  (row.payment.refunds.find? (·.id == id)).any Refund.released

/-- The amounts of all refund calls sent so far, without those whose stored refund is FAILED
or CANCELED. -/
def outstanding (s : Store) : Int :=
  ((sentRefunds s.log).map fun c => if releasedIn s.row c.1 then 0 else c.2.minor).sum

def RefundsWithin (s : Store) : Prop := outstanding s ≤ s.row.payment.capturedAmount.minor

instance (s : Store) : Decidable (RefundsWithin s) := by
  unfold RefundsWithin
  infer_instance

def refundKeys (refunds : List Refund) : List (RefundID × Money) :=
  refunds.map fun r => (r.id, r.amount)

/-- Refunds that are accounted for and have identifiers of their own, and a log in which every
refund call is for a stored one, each at most once. -/
structure Balanced (s : Store) : Prop where
  accounted : Accounted s.row.payment.core
  distinct : ((refundKeys s.row.payment.refunds).map Prod.fst).Nodup
  stored : ∀ c ∈ sentRefunds s.log, c ∈ refundKeys s.row.payment.refunds
  once : ((sentRefunds s.log).map Prod.fst).Nodup

/-- Any number of requests on one stored payment. -/
def refundSystem : System (Config Store Nat RefundPhase) (Nat × RefundStep) :=
  interleaving refundAct fun s => Balanced s.shared ∧ ∀ i, s.own i = .waiting

variable {refunds : List Refund}

theorem mem_refundKeys {c : RefundID × Money} :
    c ∈ refundKeys refunds ↔ ∃ r ∈ refunds, r.id = c.1 ∧ r.amount = c.2 := by
  simp only [refundKeys, List.mem_map, Prod.ext_iff]

variable {r : Refund}

theorem find_of_distinct
    (distinct : ((refundKeys refunds).map Prod.fst).Nodup) (mem : r ∈ refunds) :
    refunds.find? (·.id == r.id) = some r := by
  cases found : refunds.find? (·.id == r.id) with
  | none =>
    have absent := List.find?_eq_none.mp found r mem
    simp at absent
  | some x =>
    have same : x.id = r.id := by simpa using List.find?_some found
    have ids : (refunds.map (·.id)).Nodup := by
      simpa [refundKeys, Function.comp_def] using distinct
    rw [List.inj_on_of_nodup_map ids (List.mem_of_find?_eq_some found) mem same]

theorem Balanced.within {s : Store} (h : Balanced s) : RefundsWithin s := by
  let share (c : RefundID × Money) : Int := if releasedIn s.row c.1 then 0 else c.2.minor
  have positive := h.accounted.sound.refundPositive
  have nonneg : ∀ x ∈ (refundKeys s.row.payment.refunds).map share, 0 ≤ x := by
    intro x mem
    obtain ⟨c, known, rfl⟩ := List.mem_map.mp mem
    obtain ⟨r, held, -, amount⟩ := mem_refundKeys.mp known
    show 0 ≤ if releasedIn s.row c.1 then 0 else c.2.minor
    split_ifs
    · exact Int.le_refl 0
    · rw [← amount]
      exact (positive r held).le
  have shares : ((refundKeys s.row.payment.refunds).map share).sum =
      refundSum (fun r => !r.released) s.row.payment.refunds := by
    unfold refundKeys refundSum
    rw [List.map_map]
    refine congrArg List.sum (List.map_congr_left fun r mem => ?_)
    have status : releasedIn s.row r.id = r.released := by
      rw [releasedIn, find_of_distinct h.distinct mem]
      rfl
    show (if releasedIn s.row r.id then 0 else r.amount.minor) = _
    rw [status]
    cases held : r.released <;> simp [held]
  obtain ⟨part, perm, sublist⟩ := List.subperm_of_subset h.once.of_map h.stored
  calc outstanding s = (part.map share).sum := ((perm.map share).sum_eq).symm
    _ ≤ ((refundKeys s.row.payment.refunds).map share).sum :=
        (sublist.map share).sum_le_sum nonneg
    _ = refundSum (fun r => !r.released) s.row.payment.refunds := shares
    _ ≤ s.row.payment.capturedAmount.minor := h.accounted.active_le

/-! What a refund does to the payment in memory. -/

structure Follows (p q : Payment) : Prop where
  attempts : q.attempts = p.attempts
  keys : refundKeys q.refunds = refundKeys p.refunds
  base : q.baseVersion = p.baseVersion
  version : p.version ≤ q.version

theorem Follows.refl (p : Payment) : Follows p p := ⟨rfl, rfl, rfl, Nat.le_refl _⟩

theorem Follows.trans {p q r : Payment} (first : Follows p q) (second : Follows q r) :
    Follows p r :=
  ⟨second.attempts.trans first.attempts, second.keys.trans first.keys, second.base.trans first.base, first.version.trans second.version⟩

theorem follows_set {p : Payment} {i : Nat} {r' : Refund} (found : p.refunds[i]? = some r)
    (id : r'.id = r.id) (amount : r'.amount = r.amount) :
    Follows p { p with refunds := p.refunds.set i r' } :=
  ⟨rfl, map_set_of_eq _ found (by rw [id, amount]), rfl, Nat.le_refl _⟩

theorem follows_confirmRefund (p : Payment) (refundID : RefundID) (gatewayRef : String)
    (now : Time) : Follows p (p.confirmRefund refundID gatewayRef now).1 := by
  unfold Payment.confirmRefund
  cases found : Payment.findRefund p.refunds refundID with
  | none => exact .refl p
  | some hit =>
    obtain ⟨target, i⟩ := hit
    dsimp only
    cases marked : target.markSucceeded gatewayRef now with
    | error => exact .refl p
    | ok =>
      obtain ⟨-, -, amount, id⟩ := Refund.markSucceeded_ok marked
      have same := follows_set (findRefund_some found) id amount
      dsimp only
      split
      · exact same
      · split
        · exact same
        · split
          · exact same
          · exact same.trans ⟨rfl, rfl, rfl, Nat.le_succ _⟩

def Call.refunding : Call → Bool
  | .refund _ _ | .payment (.requireReconciliation ..) | .payment (.confirmRefund ..) => true
  | _ => false

theorem Call.follows {c : Call} (h : Call.refunding c = true) (p : Payment) :
    Follows p (c.apply p).1 := by
  cases c with
  | attempt => cases h
  | refund i c =>
    cases found : p.refunds[i]? with
    | none =>
      simp only [Call.apply, found]
      exact .refl p
    | some r =>
      cases applied : c.apply r with
      | error =>
        simp only [Call.apply, found, applied]
        exact .refl p
      | ok =>
        simp only [Call.apply, found, applied]
        obtain ⟨-, amount, id, -⟩ := RefundCall.apply_ok applied
        exact follows_set found id amount
  | payment c =>
    cases c with
    | requireReconciliation => exact ⟨rfl, rfl, rfl, Nat.le_succ _⟩
    | confirmRefund refundID gatewayRef now => exact follows_confirmRefund p refundID gatewayRef now
    | _ => cases h

/-! What a request leaves in the store. -/

/-- A payment in memory has been stored over a row at its base version, with the refunds it
had when it was read and those added since. -/
def SavedWith (added : List (RefundID × Money)) (p : Payment) (row after : Row) : Prop :=
  row.payment.version = p.baseVersion ∧
    ∃ q : Payment, Accounted q.core ∧ q.attempts = p.attempts ∧
      refundKeys q.refunds = refundKeys p.refunds ++ added ∧
      p.version + added.length ≤ q.version ∧ after = Row.of q

theorem sentRefunds_append (log more : List Effect) :
    sentRefunds (log ++ more) = sentRefunds log ++ sentRefunds more := List.filterMap_append

theorem sentRefunds_stored {log notes : List Effect} (row : Row)
    (notice : ∀ e ∈ notes, e.isNote = true) :
    sentRefunds (log ++ .stored row :: notes) = sentRefunds log := by
  have quiet : ∀ e : Effect, e.isNote = true → e.refundSent = none := by
    intro e note
    cases e <;> first | rfl | cases note
  have silent : sentRefunds (.stored row :: notes) = [] := by
    refine List.filterMap_eq_nil_iff.mpr fun e mem => ?_
    rcases List.mem_cons.mp mem with rfl | mem
    · rfl
    · exact quiet e (notice e mem)
  rw [sentRefunds_append, silent, List.append_nil]

theorem Saved.store {tx : Tx} (alone : tx.others = id) {w w' : World} (h : Saved tx w w') :
    sentRefunds w'.log = sentRefunds w.log ∧
      (w'.row = w.row ∨ w.row.payment.version = w.pay.baseVersion ∧ w'.row = Row.of w.pay) := by
  obtain ⟨-, ⟨row | row, log⟩ | ⟨current, row, notes, log, notice⟩⟩ := h
  · exact ⟨by rw [log], .inl row⟩
  · rw [alone] at row
    exact ⟨by rw [log], .inl row⟩
  · rw [alone] at current
    exact ⟨by rw [log, sentRefunds_stored _ notice], .inr ⟨current, row⟩⟩

section Answer

variable {p : Payment} {row : Row} {log : List Effect}

/-- The payment in memory while an answer is applied to it. -/
def Settling (p : Payment) (row : Row) (log : List Effect) (w : World) : Prop :=
  Accounted w.pay.core ∧ Follows p w.pay ∧ w.row = row ∧ w.log = log

theorem invoke_settling {c : Call} (refunding : Call.refunding c = true) :
    Triple (Settling p row log) (invoke c) (fun _ => Settling p row log)
      (fun _ w => w.row = row ∧ w.log = log) := by
  rintro w ⟨accounted, follows, stored, logged⟩
  unfold invoke
  cases ok : (c.apply w.pay).2 with
  | error => exact ⟨stored, logged⟩
  | ok =>
    have accepted := Call.accepted_of_ok accounted.sound ok
    exact ⟨(c.effect w.pay).accounted accepted accounted,
      follows.trans (Call.follows refunding w.pay), stored, logged⟩

variable (p row log) in
theorem settleRefund_settling (env : RefundEnv) (success : Attempt) (i : Nat) :
    Triple (Settling p row log) (settleRefund env success i) (fun _ => Settling p row log)
      (fun _ w => w.row = row ∧ w.log = log) := by
  unfold settleRefund
  split
  · split_ifs
    · exact invoke_settling rfl
    · exact invoke_settling rfl
  · exact invoke_settling rfl
  · unfold settleRefundStatus
    split
    · exact invoke_settling rfl
    · exact invoke_settling rfl
    · exact Triple.bind (invoke_settling rfl) fun _ => invoke_settling rfl
    · exact invoke_settling rfl

theorem saved_commitRefund (rin : RefundInput) (tx : Tx) (i : Nat) (w : World) :
    Saved tx w (commitRefund rin tx i w).1 := by
  refine saved_within w ((keeps_savePayment tx).bind fun _ => Keeps.read.bind fun _ =>
    Keeps.orFail.bind fun _ => triple_emit _) fun w' ran => ?_
  have recorded := triple_saveNoting w (tx.others w.row) tx
    (fun pay => { action := "payment.refunded", resourceType := "payment", resourceID := pay.id,
                  outcome := "SUCCESS", detail := refundDetail rin pay i })
    { w with row := tx.others w.row } ⟨rfl, rfl, rfl⟩
  rw [ran] at recorded
  exact recorded

variable (row log) in
theorem closeRefund_saves (rin : RefundInput) {env : RefundEnv} (alone : env.outcomeTx.others = id)
    (success : Attempt) (i : Nat) (accounted : Accounted p.core) :
    let w := (closeRefund rin env success i { pay := p, row, log }).1
    sentRefunds w.log = sentRefunds log ∧ (w.row = row ∨ SavedWith [] p row w.row) := by
  intro w
  refine (Triple.iff_state (P := Settling p row log) (I := fun w =>
    sentRefunds w.log = sentRefunds log ∧ (w.row = row ∨ SavedWith [] p row w.row))).mp
    (Triple.bind ((settleRefund_settling p row log env success i).weaken (fun _ h => h)
      (fun _ _ h => h) ?_) fun _ => Triple.iff_state.mpr ?_) _ ⟨accounted, .refl p, rfl, rfl⟩
  · rintro _ w ⟨stored, logged⟩
    exact ⟨by rw [logged], .inl stored⟩
  · rintro v ⟨accounted', follows, stored, logged⟩
    obtain ⟨sent, saved⟩ := (saved_commitRefund rin env.outcomeTx i v).store alone
    refine ⟨by rw [sent, logged], ?_⟩
    rcases saved with same | ⟨current, saved⟩
    · exact .inl (same.trans stored)
    · refine .inr ⟨?_, v.pay, accounted', follows.attempts, ?_, follows.version, saved⟩
      · rw [← stored, current, follows.base]
      · rw [follows.keys, List.append_nil]

end Answer

theorem accounted_addRefund {p q : Payment} {rin : RefundInput} {env : RefundEnv}
    (accounted : Accounted p.core)
    (added : p.addRefund rin.amount rin.reason rin.idemKey env.refundID env.addedAt = (q, .ok r)) :
    Accounted q.core ∧ q.attempts = p.attempts ∧
      refundKeys q.refunds = refundKeys p.refunds ++ [(env.refundID, rin.amount)] ∧
      q.version = p.version + 1 ∧ q.baseVersion = p.baseVersion := by
  let c : Call :=
    .payment (.addRefund rin.amount rin.reason rin.idemKey env.refundID env.addedAt)
  have applied : (c.apply p).1 = q := by
    show (Payment.Result.discard (p.addRefund _ _ _ _ _)).1 = q
    rw [added]
    rfl
  have kept : Accounted (c.apply p).1.core := (c.effect p).accounted rfl accounted
  rw [applied] at kept
  rcases p.addRefund_cases rin.amount rin.reason rin.idemKey env.refundID env.addedAt with
    ⟨e, refused⟩ | ⟨-, -, -, -, accepted⟩
  · rw [refused] at added
    cases added
  · rw [accepted] at added
    cases added
    refine ⟨kept, rfl, ?_, rfl, rfl⟩
    show List.map _ (p.refunds ++ [_]) = _
    rw [List.map_append]
    rfl

theorem openRefund_saves {p : Payment} (row : Row) (log : List Effect) (rin : RefundInput)
    {env : RefundEnv} (alone : env.intentTx.others = id) (accounted : Accounted p.core) :
    let r := openRefund rin env { pay := p, row, log }
    sentRefunds r.1.log = sentRefunds log ∧
      (r.1.row = row ∨ SavedWith [(env.refundID, rin.amount)] p row r.1.row) ∧
      ∀ i, r.2 = .ok i → SavedWith [(env.refundID, rin.amount)] p row r.1.row ∧
        r.1.pay = r.1.row.payment := by
  intro r
  rcases added : p.addRefund rin.amount rin.reason rin.idemKey env.refundID env.addedAt with
    ⟨q, e | ref⟩
  · have left : r = ({ pay := q, row, log }, .error e) := by
      refine bind_of_error ?_
      unfold addRefund
      dsimp only
      rw [added]
    rw [left]
    refine ⟨rfl, .inl rfl, fun i ok => ?_⟩
    cases ok
  · obtain ⟨kept, attempts, keys, version, base⟩ := accounted_addRefund accounted added
    let w : World := { pay := q, row, log }
    have started : addRefund rin env { pay := p, row, log } = (w, .ok ref) := by
      unfold addRefund
      dsimp only
      rw [added]
    have storing : ∀ after, row.payment.version = q.baseVersion → after = Row.of q →
        SavedWith [(env.refundID, rin.amount)] p row after := fun after current same =>
      ⟨current.trans base, q, kept, attempts, keys, version.ge, same⟩
    obtain ⟨sent, saved⟩ := (saved_store env.intentTx w).store alone
    have stored : (within env.intentTx (savePayment env.intentTx) w).1.row = row ∨
        SavedWith [(env.refundID, rin.amount)] p row
          (within env.intentTx (savePayment env.intentTx) w).1.row := by
      rcases saved with same | ⟨current, same⟩
      · exact .inl same
      · exact .inr (storing _ current same)
    rcases ran : within env.intentTx (savePayment env.intentTx) w with ⟨v, e | u⟩
    · have left : r = (v, .error e) := by
        show openRefund rin env { pay := p, row, log } = _
        rw [openRefund, bind_of_ok started, bind_read, bind_of_error ran]
      rw [ran] at sent stored
      rw [left]
      refine ⟨sent, stored, fun i ok => ?_⟩
      cases ok
    · have left : r = (v, .ok (q.refunds.length - 1)) := by
        show openRefund rin env { pay := p, row, log } = _
        rw [openRefund, bind_of_ok started, bind_read, bind_of_ok ran]
        rfl
      obtain ⟨current, same⟩ := within_savePayment_ok ran
      rw [alone] at current
      rw [ran] at sent stored
      rw [left]
      refine ⟨sent, stored, fun i ok => ⟨storing _ current ?_, ?_⟩⟩
      · rw [same]
      · rw [same]
        rfl

/-- A payment in memory beside the stored one: where the row is still at its base version, the
two have the same refunds. -/
structure Held (row : Row) (p : Payment) : Prop where
  accounted : Accounted p.core
  ahead : p.baseVersion ≤ p.version
  base : p.baseVersion ≤ row.payment.version
  keys : p.baseVersion = row.payment.version → refundKeys p.refunds = refundKeys row.payment.refunds

/-- A row after a save: no refund is lost, and a new one moves the version. -/
structure Advances (added : List (RefundID × Money)) (row row' : Row) : Prop where
  accounted : Accounted row'.payment.core
  keys : refundKeys row'.payment.refunds = refundKeys row.payment.refunds ++ added
  version : row.payment.version + added.length ≤ row'.payment.version

theorem refundKeys_known {stored : List Refund} {added : List (RefundID × Money)}
    (h : refundKeys refunds = refundKeys stored ++ added) :
    ∀ b ∈ stored, ∃ a ∈ refunds, a.id = b.id := by
  intro b mem
  have known : (b.id, b.amount) ∈ refundKeys refunds := by
    rw [h]
    exact List.mem_append_left _ (mem_refundKeys.mpr ⟨b, mem, rfl, rfl⟩)
  obtain ⟨a, held, id, -⟩ := mem_refundKeys.mp known
  exact ⟨a, held, id⟩

section Saving

variable {added : List (RefundID × Money)} {p : Payment} {row after : Row}

theorem SavedWith.refunds_over (h : SavedWith added p row after) (held : Held row p) :
    (after.over row).payment.refunds = after.payment.refunds ∧
      refundKeys after.payment.refunds = refundKeys row.payment.refunds ++ added := by
  obtain ⟨current, q, -, -, keys, -, rfl⟩ := h
  have known : refundKeys q.refunds = refundKeys row.payment.refunds ++ added := by
    rw [keys, held.keys current.symm]
  exact ⟨Storage.upsertAll_of_known (refundKeys_known known), known⟩

theorem SavedWith.advances (h : SavedWith added p row after) (held : Held row p) {row' : Row}
    (same : row' = after.over row) : Advances added row row' := by
  subst same
  obtain ⟨refunds, known⟩ := h.refunds_over held
  obtain ⟨current, q, accounted, -, -, version, rfl⟩ := h
  have core : ((Row.of q).over row).payment.core =
      { q.core with attempts := ((Row.of q).over row).payment.attempts } := by
    unfold Payment.core
    rw [refunds]
    rfl
  refine ⟨?_, by rw [refunds, known], ?_⟩
  · rw [core]
    exact ⟨accounted.sound.withAttempts _, accounted.succeeded, accounted.known⟩
  · have ahead : row.payment.version ≤ p.version := current.trans_le held.ahead
    exact (Nat.add_le_add_right ahead _).trans version

theorem SavedWith.held (h : SavedWith added p row after) (held : Held row p) :
    Held (after.over row) after.payment := by
  obtain ⟨refunds, -⟩ := h.refunds_over held
  obtain ⟨-, q, accounted, -, -, -, rfl⟩ := h
  exact ⟨accounted, Nat.le_refl _, Nat.le_refl _, fun _ => by rw [refunds]⟩

theorem Held.advance {row' : Row} (h : Held row p) (advances : Advances added row row') :
    Held row' p := by
  have older : row.payment.version ≤ row'.payment.version :=
    (Nat.le_add_right _ _).trans advances.version
  refine ⟨h.accounted, h.ahead, h.base.trans older, fun current => ?_⟩
  have still : row'.payment.version ≤ row.payment.version := current.symm.trans_le h.base
  have none : added = [] := List.length_eq_zero_iff.mp
    (Nat.le_zero.mp (Nat.le_of_add_le_add_left (advances.version.trans still)))
  rw [advances.keys, none, List.append_nil]
  exact h.keys (current.trans (still.antisymm older))

theorem held_rehydrated (accounted : Accounted row.payment.core)
    (loaded : row.payment.rehydrate = .ok p) : Held row p := by
  unfold Payment.rehydrate at loaded
  split_ifs at loaded
  cases loaded
  exact ⟨accounted, Nat.le_refl _, Nat.le_refl _, fun _ => rfl⟩

end Saving

def RefundTask.key (t : RefundTask) : RefundID × Money := (t.env.refundID, t.rin.amount)

def RefundPhase.pay : RefundPhase → Option Payment
  | .loaded p => some p
  | .started t | .calling t => some t.pay
  | _ => none

def RefundPhase.unsent : RefundPhase → Option RefundTask
  | .started t => some t
  | _ => none

def storedIDs (row : Row) : List RefundID := (refundKeys row.payment.refunds).map Prod.fst

variable (s : Store) (x : RefundPhase)

def sentIDs : List RefundID := (sentRefunds s.log).map Prod.fst

/-- Every way a step can change the row, the calls sent and the phase of the request. -/
inductive RefundMove (s s' : Store) : RefundPhase → RefundPhase → Prop
  | skip (x : RefundPhase) (same : s' = s) : RefundMove s s' x x
  | quit (x : RefundPhase) (row : s'.row = s.row) (sent : sentRefunds s'.log = sentRefunds s.log) :
      RefundMove s s' x .done
  | load {p : Payment} (same : s' = s) (loaded : s.row.payment.rehydrate = .ok p) :
      RefundMove s s' .waiting (.loaded p)
  | lose {p : Payment} {after : Row} {c : RefundID × Money} (fresh : c.1 ∉ storedIDs s.row)
      (saved : SavedWith [c] p s.row after) (row : s'.row = after.over s.row)
      (sent : sentRefunds s'.log = sentRefunds s.log) : RefundMove s s' (.loaded p) .done
  | start {p : Payment} {after : Row} {t : RefundTask} (fresh : t.key.1 ∉ storedIDs s.row)
      (saved : SavedWith [t.key] p s.row after) (current : t.pay = after.payment)
      (row : s'.row = after.over s.row) (sent : sentRefunds s'.log = sentRefunds s.log) :
      RefundMove s s' (.loaded p) (.started t)
  | send {t : RefundTask} (row : s'.row = s.row)
      (sent : sentRefunds s'.log = sentRefunds s.log ++ [t.key]) :
      RefundMove s s' (.started t) (.calling t)
  | close {t : RefundTask} {after : Row} (saved : SavedWith [] t.pay s.row after)
      (row : s'.row = after.over s.row) (sent : sentRefunds s'.log = sentRefunds s.log) :
      RefundMove s s' (.calling t) .done

theorem not_mem_storedIDs {row : Row} {id : RefundID}
    (fresh : ¬ row.payment.refunds.any (·.id == id) = true) : id ∉ storedIDs row := by
  intro mem
  obtain ⟨c, known, rfl⟩ := List.mem_map.mp mem
  obtain ⟨r, held, same, -⟩ := mem_refundKeys.mp known
  exact fresh (List.any_eq_true.mpr ⟨r, held, by rw [same]; exact beq_self_eq_true _⟩)

theorem over_self (row : Row) : row.over row = row :=
  Row.over_of_known (fun b mem => ⟨b, mem, rfl⟩) fun b mem => ⟨b, mem, rfl⟩

theorem sendRefund_cases (rin : RefundInput) (env : RefundEnv) (success : Attempt) (w : World) :
    (∃ e, sendRefund rin env success w = (w, .error e)) ∨
      ∃ call, call.refundSent = some (env.refundID, rin.amount) ∧
        sendRefund rin env success w = (w.emit call, .ok ()) := by
  unfold sendRefund
  cases resolved : env.resolve with
  | error e => exact .inl ⟨e, rfl⟩
  | ok => exact .inr ⟨_, rfl, rfl⟩

theorem refundAct_moves (a : RefundStep) (accounted : ∀ p, x.pay = some p → Accounted p.core) :
    RefundMove s (refundAct s x a).1 x (refundAct s x a).2 := by
  cases x with
  | waiting =>
    cases a with
    | load =>
      unfold refundAct
      dsimp only
      split
      · rename_i p loaded
        exact .load rfl loaded
      · exact .quit _ rfl rfl
    | start | send | close => exact .skip _ rfl
  | loaded p =>
    cases a with
    | load | send | close => exact .skip _ rfl
    | start rin env =>
      by_cases taken : s.row.payment.refunds.any (·.id == env.refundID) = true
      · simp only [refundAct, if_pos taken]
        exact .skip _ rfl
      have fresh := not_mem_storedIDs taken
      cases found : p.successfulAttempt with
      | none =>
        simp only [refundAct, if_neg taken, found]
        exact .quit _ rfl rfl
      | some =>
        obtain ⟨sent, stored, going⟩ := openRefund_saves s.row s.log rin
          (show env.alone.intentTx.others = id from rfl) (accounted p rfl)
        rcases done : openRefund rin env.alone { pay := p, row := s.row, log := s.log } with
          ⟨w, e | i⟩
        · rw [done] at sent stored
          simp only [refundAct, if_neg taken, found, done]
          rcases stored with same | saved
          · exact .quit _ (by rw [same]; exact over_self _) sent
          · exact .lose fresh saved rfl sent
        · rw [done] at sent going
          simp only [refundAct, if_neg taken, found, done]
          obtain ⟨saved, current⟩ := going i rfl
          exact .start fresh saved current rfl sent
  | started t =>
    cases a with
    | load | start | close => exact .skip _ rfl
    | send =>
      rcases sendRefund_cases t.rin t.env t.success { pay := t.pay, row := s.row, log := s.log }
        with ⟨e, failed⟩ | ⟨call, refund, went⟩
      · simp only [refundAct, failed]
        exact .quit _ rfl rfl
      · simp only [refundAct, went]
        refine .send rfl ?_
        have own : sentRefunds [call] = [t.key] := by simp [sentRefunds, refund, RefundTask.key]
        show sentRefunds (s.log ++ [call]) = _
        rw [sentRefunds_append, own]
  | calling t =>
    cases a with
    | load | start | send => exact .skip _ rfl
    | close =>
      obtain ⟨sent, stored⟩ := closeRefund_saves s.row s.log t.rin
        (show t.env.alone.outcomeTx.others = id from rfl) t.success t.index (accounted t.pay rfl)
      rcases stored with same | saved
      · refine .quit _ ?_ sent
        show Row.over _ s.row = s.row
        rw [same, over_self]
      · exact .close saved rfl sent
  | done => exact .skip _ rfl

def refundRun (steps : List RefundStep) : Store × RefundPhase :=
  steps.foldl (fun at_ step => refundAct at_.1 at_.2 step) (s, x)

theorem over_of_saved {added : List (RefundID × Money)} {p : Payment} {row after : Row}
    (held : Held row p) (attempts : p.attempts = row.payment.attempts)
    (h : after = row ∨ SavedWith added p row after) : after.over row = after := by
  rcases h with rfl | saved
  · exact over_self _
  · obtain ⟨-, known⟩ := saved.refunds_over held
    obtain ⟨-, q, -, same, -, -, rfl⟩ := saved
    refine Row.over_of_known (fun b mem => ⟨b, ?_, rfl⟩) (refundKeys_known known)
    show b ∈ q.attempts
    rw [same, attempts]
    exact mem

/-- A request that nobody interrupts does what `refundExisting` does on the payment it
loads. -/
theorem refundRun_uninterrupted (p : Payment) (rin : RefundInput) (env : RefundEnv)
    (accounted : Accounted s.row.payment.core) (loaded : s.row.payment.rehydrate = .ok p)
    (fresh : ¬ s.row.payment.refunds.any (·.id == env.refundID) = true) :
    let w := (refundExisting rin env.alone { pay := p, row := s.row, log := s.log }).1
    refundRun s .waiting [.load none, .start rin env, .send, .close] =
      ({ row := w.row, log := w.log }, .done) := by
  intro w
  let w₀ : World := { pay := p, row := s.row, log := s.log }
  have held := held_rehydrated accounted loaded
  have attempts : p.attempts = s.row.payment.attempts := by
    unfold Payment.rehydrate at loaded
    split_ifs at loaded
    cases loaded
    rfl
  have reads : (read World.pay : Proc Payment) w₀ = (w₀, .ok p) := rfl
  simp only [refundRun, List.foldl, refundAct, loaded, if_neg fresh]
  cases found : p.successfulAttempt with
  | none =>
    have left : w = w₀ := by
      show (refundExisting rin env.alone w₀).1 = w₀
      rw [refundExisting, bind_of_ok reads, found]
      rfl
    rw [left]
  | some success =>
    have runs : w = ((do
        let i ← openRefund rin env.alone
        sendRefund rin env.alone success
        closeRefund rin env.alone success i
        reload env.alone.reloadTx : Proc Payment) w₀).1 := by
      show (refundExisting rin env.alone w₀).1 = _
      rw [refundExisting, bind_of_ok reads, found]
    obtain ⟨-, stored, going⟩ := openRefund_saves s.row s.log rin
      (show env.alone.intentTx.others = id from rfl) held.accounted
    rcases opening : openRefund rin env.alone w₀ with ⟨w₁, e | i⟩
    · rw [opening] at stored
      rw [bind_of_error opening] at runs
      rw [runs]
      simp only [over_of_saved held attempts stored]
    · rw [opening] at stored going
      obtain ⟨saved, current⟩ := going i rfl
      have same := over_of_saved held attempts stored
      have held₁ : Held w₁.row w₁.pay := by
        have stepped := saved.held held
        rw [same] at stepped
        rw [current]
        exact stepped
      rw [bind_of_ok opening] at runs
      simp only [same]
      rcases sendRefund_cases rin env success w₁ with ⟨e, failed⟩ | ⟨call, -, went⟩
      · rw [bind_of_error (show sendRefund rin env.alone success w₁ = (w₁, .error e) from failed)]
          at runs
        rw [runs]
        simp only [failed]
      · rw [bind_of_ok (show sendRefund rin env.alone success w₁ = (w₁.emit call, .ok ()) from went)]
          at runs
        rw [runs]
        simp only [went]
        let w₂ := w₁.emit call
        have attempts₁ : w₁.pay.attempts = w₁.row.payment.attempts := by rw [current]
        have closed := (closeRefund_saves w₂.row w₂.log rin
          (show env.alone.outcomeTx.others = id from rfl) success i held₁.accounted).2
        have recorded := over_of_saved held₁ attempts₁ closed
        have ends : ((do
            closeRefund rin env.alone success i
            reload env.alone.reloadTx : Proc Payment) w₂).1 =
              (closeRefund rin env.alone success i w₂).1 := by
          rcases closing : closeRefund rin env.alone success i w₂ with ⟨w₃, e | u⟩
          · rw [bind_of_error closing]
          · rw [bind_of_ok closing]
            exact reload_alone rfl w₃
        rw [ends]
        exact congrArg (fun row : Row => (({ row, log := _ } : Store), RefundPhase.done)) recorded

structure Reserves (s : Store) (x : RefundPhase) : Prop where
  held : ∀ p, x.pay = some p → Held s.row p
  stored : ∀ t, x.unsent = some t → t.key ∈ refundKeys s.row.payment.refunds
  unsent : ∀ t, x.unsent = some t → t.key.1 ∉ sentIDs s

/-- Two requests have different refunds to send. -/
def Apart (y : RefundPhase) : Prop :=
  ∀ t u, x.unsent = some t → y.unsent = some u → t.key.1 ≠ u.key.1

theorem apart_of_none {x y : RefundPhase} (silent : x.unsent = none) : Apart x y := by
  intro t u unsent
  rw [silent] at unsent
  cases unsent

theorem Apart.symm {x y : RefundPhase} (h : Apart x y) : Apart y x :=
  fun t u first second same => h u t second first same.symm

theorem reserves_done : Reserves s .done := by
  refine ⟨fun p held => ?_, fun t unsent => ?_, fun t unsent => ?_⟩
  · cases held
  · cases unsent
  · cases unsent

section Step

variable {s s' : Store} {added : List (RefundID × Money)}

theorem Balanced.advance (h : Balanced s) (advances : Advances added s.row s'.row)
    (fresh : ((refundKeys s.row.payment.refunds ++ added).map Prod.fst).Nodup)
    (sent : sentRefunds s'.log = sentRefunds s.log) : Balanced s' := by
  refine ⟨advances.accounted, by rw [advances.keys]; exact fresh, fun c mem => ?_, by
    rw [sent]; exact h.once⟩
  rw [sent] at mem
  rw [advances.keys]
  exact List.mem_append_left _ (h.stored c mem)

theorem Balanced.advance_one (h : Balanced s) {c : RefundID × Money}
    (advances : Advances [c] s.row s'.row) (fresh : c.1 ∉ storedIDs s.row)
    (sent : sentRefunds s'.log = sentRefunds s.log) : Balanced s' := by
  refine h.advance advances ?_ sent
  rw [List.map_append, List.map_singleton]
  refine h.distinct.append (List.nodup_singleton _) fun id mem own => fresh ?_
  rwa [← List.mem_singleton.mp own]

theorem Balanced.same (h : Balanced s) (row : s'.row = s.row)
    (sent : sentRefunds s'.log = sentRefunds s.log) : Balanced s' := by
  obtain ⟨accounted, distinct, stored, once⟩ := h
  refine ⟨?_, ?_, ?_, ?_⟩
  · rw [row]; exact accounted
  · rw [row]; exact distinct
  · rw [row, sent]; exact stored
  · rw [sent]; exact once

theorem Reserves.advance {y : RefundPhase} (h : Reserves s y)
    (advances : Advances added s.row s'.row) (sent : sentRefunds s'.log = sentRefunds s.log) :
    Reserves s' y := by
  refine ⟨fun p held => (h.held p held).advance advances, fun t unsent => ?_, fun t unsent => ?_⟩
  · rw [advances.keys]
    exact List.mem_append_left _ (h.stored t unsent)
  · rw [sentIDs, sent]
    exact h.unsent t unsent

theorem Reserves.same {y : RefundPhase} (h : Reserves s y) (row : s'.row = s.row)
    (sent : ∀ t, y.unsent = some t → t.key.1 ∉ sentIDs s') : Reserves s' y := by
  refine ⟨?_, ?_, sent⟩
  · rw [row]
    exact h.held
  · rw [row]
    exact h.stored

end Step

theorem stable_refunds : Stable refundAct (fun _ _ _ => True) Balanced Reserves Apart where
  symm _ _ h := h.symm
  acting := by
    intro s x a balanced reserves _
    have move := refundAct_moves s x a fun p held => (reserves.held p held).accounted
    generalize (refundAct s x a).1 = s' at move ⊢
    generalize (refundAct s x a).2 = x' at move ⊢
    cases move with
    | skip x same =>
      rw [same]
      exact ⟨balanced, reserves⟩
    | quit x row sent => exact ⟨balanced.same row sent, reserves_done s'⟩
    | @load p same loaded =>
      rw [same]
      refine ⟨balanced, fun q held => ?_, fun t unsent => ?_, fun t unsent => ?_⟩
      · cases held
        exact held_rehydrated balanced.accounted loaded
      · cases unsent
      · cases unsent
    | @lose p after c fresh saved row sent =>
      have advances := saved.advances (reserves.held p rfl) row
      exact ⟨balanced.advance_one advances fresh sent, reserves_done s'⟩
    | @start p after t fresh saved current row sent =>
      have held := saved.held (reserves.held p rfl)
      have advances := saved.advances (reserves.held p rfl) row
      rw [← row] at held
      refine ⟨balanced.advance_one advances fresh sent, fun q held' => ?_, fun u unsent => ?_,
        fun u unsent => ?_⟩
      · cases held'
        rw [current]
        exact held
      · cases unsent
        rw [advances.keys]
        exact List.mem_append_right _ (List.mem_singleton.mpr rfl)
      · cases unsent
        rw [sentIDs, sent]
        intro mem
        obtain ⟨c, sentBefore, same⟩ := List.mem_map.mp mem
        exact fresh (List.mem_map.mpr ⟨c, balanced.stored c sentBefore, same⟩)
    | @send t row sent =>
      have stored := reserves.stored t rfl
      have unsent : t.key.1 ∉ (sentRefunds s.log).map Prod.fst := reserves.unsent t rfl
      refine ⟨⟨?_, ?_, ?_, ?_⟩, ?_, fun u none => ?_, fun u none => ?_⟩
      · rw [row]
        exact balanced.accounted
      · rw [row]
        exact balanced.distinct
      · intro c mem
        rw [row]
        rw [sent] at mem
        rcases List.mem_append.mp mem with before | own
        · exact balanced.stored c before
        · rwa [List.mem_singleton.mp own]
      · rw [sent, List.map_append, List.map_singleton]
        refine balanced.once.append (List.nodup_singleton _) fun id mem own => unsent ?_
        rwa [← List.mem_singleton.mp own]
      · rw [row]
        exact reserves.held
      · cases none
      · cases none
    | @close t after saved row sent =>
      have advances := saved.advances (reserves.held t.pay rfl) row
      refine ⟨balanced.advance advances ?_ sent, reserves_done s'⟩
      rw [List.append_nil]
      exact balanced.distinct
  watching := by
    intro s x a y balanced reserves watcher apart _
    have move := refundAct_moves s x a fun p held => (reserves.held p held).accounted
    generalize (refundAct s x a).1 = s' at move ⊢
    generalize (refundAct s x a).2 = x' at move ⊢
    have unsentOf : sentRefunds s'.log = sentRefunds s.log →
        ∀ t, y.unsent = some t → t.key.1 ∉ sentIDs s' := by
      intro sent t unsent
      rw [sentIDs, sent]
      exact watcher.unsent t unsent
    cases move with
    | skip x same =>
      rw [same]
      exact ⟨watcher, apart⟩
    | quit x row sent => exact ⟨watcher.same row (unsentOf sent), apart_of_none rfl⟩
    | @load p same =>
      rw [same]
      exact ⟨watcher, apart_of_none rfl⟩
    | @lose p after c fresh saved row sent =>
      have advances := saved.advances (reserves.held p rfl) row
      exact ⟨watcher.advance advances sent, apart_of_none rfl⟩
    | @start p after t fresh saved current row sent =>
      have advances := saved.advances (reserves.held p rfl) row
      refine ⟨watcher.advance advances sent, fun u v own other same => fresh ?_⟩
      cases own
      rw [same]
      exact List.mem_map_of_mem (watcher.stored v other)
    | @send t row sent =>
      refine ⟨watcher.same row fun u unsent mem => ?_, apart_of_none rfl⟩
      rw [sentIDs, sent, List.map_append, List.map_singleton] at mem
      rcases List.mem_append.mp mem with before | own
      · exact watcher.unsent u unsent before
      · exact apart t u rfl unsent (List.mem_singleton.mp own).symm
    | @close t after saved row sent =>
      have advances := saved.advances (reserves.held t.pay rfl) row
      exact ⟨watcher.advance advances sent, apart_of_none rfl⟩

theorem holds_of_reachable {s : Config Store Nat RefundPhase} (h : refundSystem.Reachable s) :
    Holds Balanced Reserves Apart s := by
  refine stable_refunds.invariant (fun s start => ?_) (h.mono fun _ _ _ => trivial)
  obtain ⟨balanced, waiting⟩ := start
  refine ⟨balanced, fun i => ?_, fun i j _ => ?_⟩
  · rw [waiting i]
    exact ⟨fun _ h => (by cases h), fun _ h => (by cases h), fun _ h => (by cases h)⟩
  · rw [waiting i]
    exact apart_of_none rfl

/-- Whatever is interleaved and answered on a captured payment, the refunds asked for and not stored
as FAILED or CANCELED stay within what is stored as captured. -/
theorem refundsWithin_of_reachable {s : Config Store Nat RefundPhase}
    (h : refundSystem.Reachable s) : RefundsWithin s.shared :=
  (holds_of_reachable h).shared.within

theorem RefundMove.keeps {s s' : Store} {x x' : RefundPhase} (move : RefundMove s s' x x')
    (held : ∀ p, x.pay = some p → Held s.row p) :
    refundKeys s.row.payment.refunds <+: refundKeys s'.row.payment.refunds := by
  cases move with
  | skip x row | load row => rw [row]
  | quit x row | send row => rw [row]
  | lose _ saved row | start _ saved _ row | close saved row =>
    rw [(saved.advances (held _ rfl) row).keys]
    exact List.prefix_append _ _

/-- A stored refund is never lost and keeps its amount, every call sent is for a stored refund and
its amount, and none is sent twice. -/
theorem refunds_stand {s : Config Store Nat RefundPhase} (h : refundSystem.Reachable s)
    (steps : List (Nat × RefundStep)) :
    let after := (refundSystem.run s steps).shared
    refundKeys s.shared.row.payment.refunds <+: refundKeys after.row.payment.refunds ∧
      (∀ c ∈ sentRefunds after.log, c ∈ refundKeys after.row.payment.refunds) ∧
      (sentIDs after).Nodup := by
  intro after
  have balanced := (holds_of_reachable (System.reachable_run h steps)).shared
  refine ⟨System.run_rel (I := refundSystem.Reachable)
    (R := fun s s' => refundKeys s.shared.row.payment.refunds <+:
      refundKeys s'.shared.row.payment.refunds)
    (fun _ a reached => .step a reached trivial) (fun _ => List.prefix_refl _)
    (fun _ _ _ => List.IsPrefix.trans) (fun s label reached => ?_) h steps, balanced.stored,
    balanced.once⟩
  have held := ((holds_of_reachable reached).each label.1).held
  exact (refundAct_moves s.shared _ label.2 fun p own => (held p own).accounted).keeps held

theorem balanced_of_reachable {p : Payment} {log : List Effect}
    (h : paymentSystem.ReachableUnder (fun q c => c.refusedConfirmation q = false) p)
    (distinct : ((refundKeys p.refunds).map Prod.fst).Nodup) (silent : sentRefunds log = []) :
    Balanced { row := Row.of p, log } := by
  have accounted : Accounted p.core := accounted_of_reachable h
  refine ⟨accounted, distinct, ?_, ?_⟩
  · rw [silent]
    exact fun c mem => absurd mem List.not_mem_nil
  · rw [silent]
    exact List.nodup_nil

def capturedCalls : List Call :=
  authorizeCalls.take 5 ++ [.payment (.markCaptured ⟨1000, "USD"⟩ 4)]

def capturedStore : Config Store Nat RefundPhase where
  shared := { row := Row.of (sampleRun capturedCalls), log := [] }
  own _ := .waiting

theorem init_capturedStore : refundSystem.init capturedStore := by
  have reached := System.reachableUnder_run
    (G := fun q c => Call.refusedConfirmation q c = false) (.init init_samplePayment)
    capturedCalls (by decide +kernel)
  exact ⟨balanced_of_reachable reached (by decide +kernel) rfl, fun _ => rfl⟩

def sampleRefund (id : RefundID) (amount : Int64) (answer : Spi.Answer) : RefundStep :=
  .start { amount := ⟨amount, "USD"⟩, reason := .requestedByCustomer, idemKey := id }
    { refundID := id, addedAt := 5, intentTx := Tx.undisturbed, resolve := .ok "", answer,
      now := 6, mutatedAt := 6, outcomeTx := Tx.undisturbed, reloadTx := Tx.undisturbed }

/-- The second request is too late to store its refund; a third one stores its own while the first
call is out, whose answer is lost. -/
def overlappingRefunds : List (Nat × RefundStep) :=
  [(0, .load none), (1, .load none), (0, sampleRefund "re_1" 600 (sampleAnswer .refunded .unset)),
    (1, sampleRefund "re_2" 600 (sampleAnswer .refunded .unset)), (0, .send), (1, .send),
    (2, .load none), (2, sampleRefund "re_3" 400 (sampleAnswer .declined .unset)), (2, .send),
    (0, .close), (2, .close)]

theorem refundsWithin_overlapping :
    refundSystem.Reachable (refundSystem.run capturedStore overlappingRefunds) ∧
      sentRefunds (refundSystem.run capturedStore overlappingRefunds).shared.log =
        [("re_1", ⟨600, "USD"⟩), ("re_3", ⟨400, "USD"⟩)] ∧
      RefundsWithin (refundSystem.run capturedStore overlappingRefunds).shared := by
  have reached := System.reachable_run (.init init_capturedStore) overlappingRefunds
  exact ⟨reached, by decide +kernel, refundsWithin_of_reachable reached⟩

theorem refunds_stand_overlapping :
    let before := refundSystem.run capturedStore (overlappingRefunds.take 4)
    refundKeys before.shared.row.payment.refunds = [("re_1", ⟨600, "USD"⟩)] ∧
      refundKeys before.shared.row.payment.refunds <+:
        refundKeys (refundSystem.run before (overlappingRefunds.drop 4)).shared.row.payment.refunds :=
  ⟨by decide +kernel, (refunds_stand (System.reachable_run (.init init_capturedStore) _) _).1⟩

theorem refundRun_captured : capturedStore.shared.row.payment.refunds = [] ∧ ∀ rin env,
    (refundRun capturedStore.shared .waiting [.load none, .start rin env, .send, .close]).2 = .done :=
  ⟨rfl, fun rin env => congrArg Prod.snd (refundRun_uninterrupted _ _ rin env
    init_capturedStore.1.accounted rfl Bool.false_ne_true)⟩

end PaymentsPlatform.Orchestration
