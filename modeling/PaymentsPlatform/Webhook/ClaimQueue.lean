/- layer: model of ClaimUnprocessed in infrastructure/postgres/webhook_repo.go; results
   digest: How often a notification that is due is passed over, and the one that blocks all
     others. -/

import PaymentsPlatform.Webhook.Transitions

namespace PaymentsPlatform.Webhook

open Lib.TransitionSystem
open Storage (Tx pageLimit)

def openStatuses : List String := ["RECEIVED", "VERIFIED", "RESOLVED"]

/-- Nobody has finished with the notification, and its backoff is over. -/
def due (now : Time) (w : InboundWebhook) : Bool :=
  openStatuses.contains w.status && w.retryAfter.all fun t => decide (t ≤ now)

/-- One call: the limit, the rows others have locked, the rows selected, the error for a violated
constraint, and how the unit of work ends. -/
structure ClaimCall where
  now : Time
  limit : Int
  locked : List WebhookID
  selected : List WebhookID
  violation : GoError
  tx : Tx

variable (s : Store) (id : WebhookID)

/-- A row that the statement may select. -/
def claimable (c : ClaimCall) (id : WebhookID) : Bool :=
  (s.webhooks id).any (due c.now) && !c.locked.contains id

def receivedAt : Time := ((s.webhooks id).map (·.receivedAt)).getD 0

/-- `ORDER BY received_at FOR UPDATE SKIP LOCKED LIMIT $1`, over the keys of the table; ties are in
any order. -/
def Selects (ids : List WebhookID) (s : Store) (c : ClaimCall) : Prop :=
  c.selected.Nodup ∧ (∀ id ∈ c.selected, id ∈ ids ∧ claimable s c id = true) ∧
    c.selected.length = min (pageLimit c.limit) (ids.filter (claimable s c)).length ∧
    ∀ a ∈ c.selected, ∀ b ∈ ids, claimable s c b = true → b ∉ c.selected →
      receivedAt s a ≤ receivedAt s b

instance (ids : List WebhookID) (s : Store) (c : ClaimCall) : Decidable (Selects ids s c) := by
  unfold Selects
  infer_instance

/-- A row that has been claimed as often as its constraint allows. -/
def spent : Bool := (s.webhooks id).any fun w => decide (8 ≤ w.attempts)

/-- The update of the selected rows.  One row that would violate a constraint aborts it. -/
def claimRows (c : ClaimCall) (s : Store) : Except GoError (Store × List InboundWebhook) :=
  if c.selected.any (spent s) then .error c.violation
  else
    let claimed : Store :=
      { s with
        webhooks := fun id =>
          if id ∈ c.selected then
            (s.webhooks id).map fun w => { w with attempts := w.attempts + 1 }
          else s.webhooks id }
    .ok (claimed, c.selected.filterMap claimed.webhooks)

def claimUnprocessed (c : ClaimCall) (s : Store) : Store × Except GoError (List InboundWebhook) :=
  s.within c.tx (claimRows c)

/-- The tables, and how many calls that went through have passed over one notification while it
was claimable. -/
structure Queue where
  store : Store
  passedOver : Nat

inductive QueueStep where
  | claim (c : ClaimCall)
  | deliver (d : Delivery)

/-- The call goes through, the notification is claimable, and it is not among the answer. -/
def passesOver (c : ClaimCall) (s : Store) : Bool :=
  c.tx.beginErr.isNone && c.tx.commitEnd == .acknowledged && claimable s c id &&
    !((claimUnprocessed c s).2.toBool && c.selected.contains id)

def Queue.step (p : Processor) (ids : List WebhookID) (id : WebhookID) (q : Queue) : QueueStep → Queue
  | .claim c =>
    if Selects ids q.store c then
      { store := (claimUnprocessed c q.store).1
        passedOver := q.passedOver + if passesOver id c q.store then 1 else 0 }
    else q
  -- a failed re-verification, a failed run and a lost connection are all among the deliveries
  | .deliver d => { q with store := (deliver p ⟨q.store, []⟩ d).store }

/-- The rows are those of the given keys, and satisfy the constraint on their attempts. -/
def Stocked (ids : List WebhookID) (s : Store) : Prop :=
  ∀ id w, s.webhooks id = some w → id ∈ ids ∧ w.attempts ≤ 8

/-- Any calls and any deliveries, from any stored notifications. -/
def queue (p : Processor) (ids : List WebhookID) (id : WebhookID) : System Queue QueueStep where
  init q := Stocked ids q.store ∧ q.passedOver = 0
  step := Queue.step p ids id

/-- No call selects a notification that was claimed eight times already. -/
def Unspent (q : Queue) : QueueStep → Prop
  | .claim c => ∀ id ∈ c.selected, spent q.store id = false
  | .deliver _ => True

/-! Deliveries leave the attempts alone. -/

def attempts : Option Nat := (s.webhooks id).map (·.attempts)

def SameAttempts (s' : Store) : Prop := ∀ id, attempts s' id = attempts s id

theorem SameAttempts.trans {a b c : Store} (h : SameAttempts a b) (h' : SameAttempts b c) :
    SameAttempts a c := fun id => (h' id).trans (h id)

theorem sameAttempts_update (f : InboundWebhook → InboundWebhook)
    (kept : ∀ w, (f w).attempts = w.attempts) :
    SameAttempts s
      { s with webhooks := Function.update s.webhooks id ((s.webhooks id).map f) } := by
  intro id'
  unfold attempts
  by_cases here : id' = id
  · subst here
    cases stored : s.webhooks id' with
    | none => simp
    | some => simp [kept]
  · simp [Function.update_of_ne here]

theorem sameAttempts_markProcessed (outcome : String) (now : Time) :
    SameAttempts s (s.markProcessed id outcome now) :=
  sameAttempts_update s id _ fun _ => rfl

theorem sameAttempts_markFailed (cause : GoError) (retryAt : Time) :
    SameAttempts s (s.markFailed id cause retryAt) :=
  sameAttempts_update s id _ fun _ => rfl

theorem Applied.webhooks {p : Processor} {env : ProcessEnv} {e : WebhookEvent} {s : Store}
    {left : Store × Bool × String} (h : Applied p env e s left) : left.1.webhooks = s.webhooks := by
  cases h <;> rfl

theorem within_keeps {α : Type} {R : Store → Prop} {tx : Tx} {s : Store}
    {body : Store → Except GoError (Store × α)} (start : R s)
    (kept : ∀ done a, body s = .ok (done, a) → R done) : R (s.within tx body).1 := by
  unfold Store.within
  cases tx.beginErr with
  | some => exact start
  | none =>
    cases ran : body s with
    | error => exact start
    | ok result =>
      obtain ⟨done, a⟩ := result
      have left := kept done a ran
      dsimp only
      cases tx.commitEnd with
      | acknowledged | unacknowledged => exact left
      | failed => exact start

theorem applyAndMark_attempts {p : Processor} {env : ProcessEnv} {w : InboundWebhook}
    {e : WebhookEvent} {s : Store} {marked : Store × Result}
    (h : p.applyAndMark env w e s = .ok marked) : SameAttempts s marked.1 := by
  obtain ⟨left, applied, rest⟩ := call_ok h
  dsimp only at rest
  split at rest
  · cases rest
  · cases rest
    have same : SameAttempts s left.1 := fun id => by
      unfold attempts
      rw [(apply_ok applied).webhooks]
    exact same.trans (sameAttempts_markProcessed _ _ _ _)

theorem Processor.finish_attempts (p : Processor) (env : ProcessEnv) (w : InboundWebhook) (s : Store) :
    SameAttempts s (p.finish env w s).1 := by
  unfold Processor.finish
  cases p.reverify w with
  | error => exact fun _ => rfl
  | ok e =>
    have kept : SameAttempts s (s.within env.tx (p.applyAndMark env w e)).1 :=
      within_keeps (R := SameAttempts s) (fun _ => rfl) fun done a ran => applyAndMark_attempts ran
    dsimp only
    rcases ended : s.within env.tx (p.applyAndMark env w e) with ⟨left, err | res⟩
    · rw [ended] at kept
      dsimp only
      cases env.markFailedErr with
      | some => exact kept
      | none => exact kept.trans (sameAttempts_markFailed _ _ _ _)
    · rw [ended] at kept
      exact kept

theorem deliver_attempts (p : Processor) (h : History) (d : Delivery) :
    SameAttempts h.store (deliver p h d).store := by
  unfold deliver
  cases d.webhook h.store with
  | none => exact fun _ => rfl
  | some w => exact p.finish_attempts d.env w h.store

def used (ids : List WebhookID) (s : Store) : Nat := (ids.map fun id => (attempts s id).getD 0).sum

variable {ids : List WebhookID}

theorem used_le {s : Store} (stocked : Stocked ids s) : used ids s ≤ 8 * ids.length := by
  have each : ∀ n ∈ ids.map fun id => (attempts s id).getD 0, n ≤ 8 := by
    intro n mem
    obtain ⟨id, -, rfl⟩ := List.mem_map.mp mem
    unfold attempts
    cases stored : s.webhooks id with
    | none => simp
    | some w => simpa using (stocked id w stored).2
  have bound := List.sum_le_card_nsmul _ 8 each
  rw [List.length_map, smul_eq_mul, Nat.mul_comm] at bound
  exact bound

theorem SameAttempts.used {s s' : Store} (h : SameAttempts s s') (ids : List WebhookID) :
    used ids s' = used ids s := by
  unfold Webhook.used
  simp only [h _]

theorem SameAttempts.stocked {s s' : Store} (h : SameAttempts s s')
    (stocked : Stocked ids s) : Stocked ids s' := by
  intro id w' stored'
  have same := h id
  unfold attempts at same
  rw [stored'] at same
  cases stored : s.webhooks id with
  | none => simp [stored] at same
  | some w =>
    have count : w'.attempts = w.attempts := by simpa [stored] using same
    rw [count]
    exact stocked id w stored

variable {c : ClaimCall} {done : Store} {rows : List InboundWebhook}

theorem claimRows_ok {s : Store} (h : claimRows c s = .ok (done, rows)) (id : WebhookID) :
    attempts done id = if id ∈ c.selected then (attempts s id).map (· + 1) else attempts s id := by
  unfold claimRows at h
  split at h
  · cases h
  · cases h
    unfold attempts
    dsimp only
    split
    · cases s.webhooks id <;> rfl
    · rfl

theorem claimRows_of_unspent {s : Store}
    (unspent : ∀ id ∈ c.selected, spent s id = false) : ∃ done rows, claimRows c s = .ok (done, rows) := by
  have none : ¬ c.selected.any (spent s) = true := by
    simpa using unspent
  unfold claimRows
  rw [if_neg none]
  exact ⟨_, _, rfl⟩

theorem claimRows_stocked {s : Store} (stocked : Stocked ids s)
    (unspent : ∀ id ∈ c.selected, spent s id = false) (h : claimRows c s = .ok (done, rows)) :
    Stocked ids done := by
  intro id w' stored'
  have count := claimRows_ok h id
  unfold attempts at count
  rw [stored'] at count
  cases stored : s.webhooks id with
  | none => simp [stored] at count
  | some w =>
    obtain ⟨listed, bound⟩ := stocked id w stored
    refine ⟨listed, ?_⟩
    by_cases chosen : id ∈ c.selected
    · have left : w.attempts < 8 := by simpa [spent, stored] using unspent id chosen
      have count' : w'.attempts = w.attempts + 1 := by simpa [stored, chosen] using count
      omega
    · have count' : w'.attempts = w.attempts := by simpa [stored, chosen] using count
      omega

theorem claimRows_used {s : Store}
    (selects : Selects ids s c) (h : claimRows c s = .ok (done, rows)) :
    used ids s + (if c.selected = [] then 0 else 1) ≤ used ids done := by
  have grows : ∀ id ∈ ids, (attempts s id).getD 0 ≤ (attempts done id).getD 0 := by
    intro id _
    rw [claimRows_ok h id]
    split
    · cases attempts s id <;> simp
    · exact le_rfl
  split
  · exact List.sum_le_sum grows
  · rename_i some
    obtain ⟨id, chosen⟩ := List.exists_mem_of_ne_nil _ some
    obtain ⟨listed, claims⟩ := selects.2.1 id chosen
    refine List.sum_lt_sum _ _ grows ⟨id, listed, ?_⟩
    rw [claimRows_ok h id, if_pos chosen]
    unfold attempts
    cases stored : s.webhooks id with
    | none => simp [claimable, stored] at claims
    | some => simp

theorem pageLimit_pos (requested : Int) : 0 < pageLimit requested := by
  unfold pageLimit Storage.defaultPageLimit Storage.maxPageLimit
  split
  · decide
  split
  · decide
  · omega

theorem Selects.selected_ne_nil {s : Store}
    (h : Selects ids s c) {id : WebhookID} (listed : id ∈ ids) (claims : claimable s c id = true) :
    c.selected ≠ [] := by
  have count := h.2.2.1
  have some : 0 < (ids.filter (claimable s c)).length :=
    List.length_pos_of_mem (List.mem_filter.mpr ⟨listed, claims⟩)
  have limit := pageLimit_pos c.limit
  intro empty
  rw [empty, List.length_nil] at count
  omega

theorem claimable_listed {s : Store} (stocked : Stocked ids s)
    {id : WebhookID} (claims : claimable s c id = true) : id ∈ ids := by
  cases stored : s.webhooks id with
  | none => simp [claimable, stored] at claims
  | some w => exact (stocked id w stored).1

/-- One call that meets the condition keeps the account: each time the notification is passed
over, another one has used an attempt up. -/
theorem Queue.claim_keeps (p : Processor) {id : WebhookID} {q : Queue}
    (stocked : Stocked ids q.store) (account : q.passedOver ≤ used ids q.store)
    (unspent : ∀ id ∈ c.selected, spent q.store id = false) :
    Stocked ids (q.step p ids id (.claim c)).store ∧
      (q.step p ids id (.claim c)).passedOver ≤ used ids (q.step p ids id (.claim c)).store := by
  unfold Queue.step
  dsimp only
  by_cases selects : Selects ids q.store c
  · rw [if_pos selects]
    obtain ⟨done, rows, ran⟩ := claimRows_of_unspent unspent
    have stocked' := claimRows_stocked stocked unspent ran
    have more := claimRows_used selects ran
    refine ⟨within_keeps (R := Stocked ids) stocked fun done' rows' ran' => ?_, ?_⟩
    · cases ran.symm.trans ran'
      exact stocked'
    by_cases passes : passesOver id c q.store = true
    · rw [if_pos passes]
      simp only [passesOver, Bool.and_eq_true, Option.isNone_iff_eq_none, beq_iff_eq] at passes
      obtain ⟨⟨⟨begun, ended⟩, claims⟩, -⟩ := passes
      have left : (claimUnprocessed c q.store).1 = done := by
        simp only [claimUnprocessed, Store.within, begun, ran, ended]
      rw [left]
      rw [if_neg (selects.selected_ne_nil (claimable_listed stocked claims) claims)] at more
      dsimp only
      omega
    · rw [if_neg passes]
      have grown : used ids q.store ≤ used ids (claimUnprocessed c q.store).1 := by
        refine within_keeps (R := fun s => used ids q.store ≤ used ids s) le_rfl ?_
        intro done' rows' ran'
        cases ran.symm.trans ran'
        omega
      dsimp only
      omega
  · rw [if_neg selects]
    exact ⟨stocked, account⟩

/-- As long as no call selects a notification claimed eight times already, any claimable one is
passed over at most eight times as often as there are notifications stored. -/
theorem passedOver_le {p : Processor} {ids : List WebhookID} {id : WebhookID} {q : Queue}
    (h : (queue p ids id).ReachableUnder Unspent q) : q.passedOver ≤ 8 * ids.length := by
  have kept : Stocked ids q.store ∧ q.passedOver ≤ used ids q.store := by
    refine System.ReachableUnder.invariant
      (P := fun q => Stocked ids q.store ∧ q.passedOver ≤ used ids q.store) ?_ ?_ h
    · rintro q ⟨stocked, none⟩
      exact ⟨stocked, by omega⟩
    · intro q a _ account unspent
      cases a with
      | claim => exact Queue.claim_keeps p account.1 account.2 unspent
      | deliver d =>
        have same := deliver_attempts p ⟨q.store, []⟩ d
        refine ⟨same.stocked account.1, ?_⟩
        change q.passedOver ≤ used ids (deliver p ⟨q.store, []⟩ d).store
        rw [same.used]
        exact account.2
  exact kept.2.trans (used_le kept.1)

/-! The notification that blocks the queue. -/

def refusing : Processor where
  verifier := fun _ => .error (.text "no verifier")
  signingSecrets := fun _ => .ok []
  ledger := none

def waiting (id : WebhookID) (receivedAt : Time) (retryAfter : Option Time) : InboundWebhook :=
  { received "gateway" with id := id, receivedAt := receivedAt, retryAfter := retryAfter }

/-- An old notification that was claimed so often, and a younger one whose backoff ends at 100. -/
def blocked (claimed : Nat) : Store where
  payments := fun _ => none
  webhooks := fun id =>
    if id = "whk_1" then some { waiting "whk_1" 0 none with attempts := claimed }
    else if id = "whk_2" then some (waiting "whk_2" 1 (some 100))
    else none
  books := ⟨[], []⟩
  exceptions := []

def claimCall (now : Time) (selected : List WebhookID) : ClaimCall where
  now := now
  limit := 100
  locked := []
  selected := selected
  violation := .text "check violation"
  tx := Tx.undisturbed

def round : List QueueStep :=
  [.claim (claimCall 1 ["whk_1"]),
    .deliver (.process "whk_1" (undisturbed fun _ => Ledger.sampleDraws))]

def sampleQueue : System Queue QueueStep := queue refusing ["whk_1", "whk_2"] "whk_2"

theorem stocked_blocked : Stocked ["whk_1", "whk_2"] (blocked 0) := by
  intro id w stored
  by_cases first : id = "whk_1"
  · simp [blocked, first] at stored
    simp [first, ← stored]
  · by_cases second : id = "whk_2"
    · simp [blocked, second] at stored
      simp [second, ← stored, waiting, received]
    · simp [blocked, first, second] at stored

theorem selects_first (n : Nat) :
    Selects ["whk_1", "whk_2"] (blocked n) (claimCall 1 ["whk_1"]) := by
  simp [Selects, claimCall, claimable, blocked, due, waiting, received, openStatuses, pageLimit,
    Storage.maxPageLimit]

theorem selects_both (n : Nat) :
    Selects ["whk_1", "whk_2"] (blocked n) (claimCall 100 ["whk_1", "whk_2"]) := by
  simp [Selects, claimCall, claimable, blocked, due, waiting, received, openStatuses, pageLimit,
    Storage.maxPageLimit]

theorem claim_first {n : Nat} (room : n < 8) :
    (claimUnprocessed (claimCall 1 ["whk_1"]) (blocked n)).1 = blocked (n + 1) := by
  have unspent : ¬ ["whk_1"].any (spent (blocked n)) = true := by
    simpa [spent, blocked] using room
  have claimed : (fun id => if id ∈ ["whk_1"] then
      ((blocked n).webhooks id).map fun w => { w with attempts := w.attempts + 1 }
      else (blocked n).webhooks id) = (blocked (n + 1)).webhooks := by
    funext id
    by_cases first : id = "whk_1" <;> simp [blocked, first]
  have ran : claimRows (claimCall 1 ["whk_1"]) (blocked n) =
      .ok (blocked (n + 1), ["whk_1"].filterMap (blocked (n + 1)).webhooks) := by
    rw [← claimed, claimRows, if_neg (show ¬ (claimCall 1 ["whk_1"]).selected.any _ = true from unspent)]
    exact congrArg (fun webhooks => Except.ok ({ blocked n with webhooks := webhooks }, _)) claimed
  simp only [claimUnprocessed, Store.within, claimCall, Tx.undisturbed] at ran ⊢
  rw [ran]

theorem claim_both : claimUnprocessed (claimCall 100 ["whk_1", "whk_2"]) (blocked 8) =
    (blocked 8, .error (.text "check violation")) := by
  have exhausted : ["whk_1", "whk_2"].any (spent (blocked 8)) = true := by decide
  have aborted : claimRows (claimCall 100 ["whk_1", "whk_2"]) (blocked 8) =
      .error (.text "check violation") := by
    rw [claimRows, if_pos (show (claimCall 100 ["whk_1", "whk_2"]).selected.any _ = true from exhausted)]
    rfl
  simp only [claimUnprocessed, Store.within, claimCall, Tx.undisturbed] at aborted ⊢
  rw [aborted]

theorem run_round {n : Nat} (room : n < 8) :
    sampleQueue.run ⟨blocked n, 0⟩ round = ⟨blocked (n + 1), 0⟩ := by
  have resting : claimable (blocked n) (claimCall 1 ["whk_1"]) "whk_2" = false := by
    simp [claimable, claimCall, blocked, due, waiting, received]
  have claimed : sampleQueue.step ⟨blocked n, 0⟩ (.claim (claimCall 1 ["whk_1"])) =
      ⟨blocked (n + 1), 0⟩ := by
    simp only [sampleQueue, queue, Queue.step, if_pos (selects_first n), claim_first room]
    simp [passesOver, resting]
  have refused : sampleQueue.step ⟨blocked (n + 1), 0⟩
      (.deliver (.process "whk_1" (undisturbed fun _ => Ledger.sampleDraws))) =
      ⟨blocked (n + 1), 0⟩ := by
    simp [sampleQueue, queue, Queue.step, deliver_process, Processor.process, undisturbed, blocked,
      waiting, received, Processor.finish, Processor.reverify, refusing, bind, Except.bind]
  rw [round, System.run_cons, claimed, System.run_cons, refused, System.run_nil]

theorem step_blocked (n : Nat) :
    sampleQueue.step ⟨blocked 8, n⟩ (.claim (claimCall 100 ["whk_1", "whk_2"])) =
      ⟨blocked 8, n + 1⟩ := by
  have ready : claimable (blocked 8) (claimCall 100 ["whk_1", "whk_2"]) "whk_2" = true := by
    simp [claimable, claimCall, blocked, due, waiting, received, openStatuses]
  have passed : passesOver "whk_2" (claimCall 100 ["whk_1", "whk_2"]) (blocked 8) = true := by
    rw [passesOver, ready, claim_both]
    rfl
  simp only [sampleQueue, queue, Queue.step, if_pos (selects_both 8), claim_both, if_pos passed]

/-- A notification claimed eight times that never verifies makes every later call fail, so that no
bound holds for one that is due. -/
theorem not_passedOver_le_blocked :
    ¬ ∃ bound : Nat, ∀ q, sampleQueue.Reachable q → q.passedOver ≤ bound := by
  rintro ⟨bound, bounded⟩
  have start : sampleQueue.Reachable ⟨blocked 0, 0⟩ := .init ⟨stocked_blocked, rfl⟩
  have rounds : ∀ n ≤ 8, sampleQueue.Reachable ⟨blocked n, 0⟩ := by
    intro n
    induction n with
    | zero => exact fun _ => start
    | succ n ih =>
      intro le
      have reached := System.reachable_run (ih (by omega)) round
      rwa [run_round (by omega)] at reached
  have stuck : ∀ n, sampleQueue.Reachable ⟨blocked 8, n⟩ := by
    intro n
    induction n with
    | zero => exact rounds 8 le_rfl
    | succ n ih =>
      have reached := System.ReachableUnder.step
        (.claim (claimCall 100 ["whk_1", "whk_2"])) ih trivial
      rwa [step_blocked] at reached
  exact absurd (bounded _ (stuck (bound + 1))) (Nat.not_succ_le_self bound)

/-- A call for one notification passes over the younger one, as often as the bound allows. -/
def narrowCall : ClaimCall := { claimCall 100 ["whk_1"] with limit := 1 }

theorem passedOver_le_narrowCall :
    (sampleQueue.step ⟨blocked 0, 0⟩ (.claim narrowCall)).passedOver = 1 ∧
      (sampleQueue.step ⟨blocked 0, 0⟩ (.claim narrowCall)).passedOver ≤ 8 * 2 := by
  have unspent : Unspent ⟨blocked 0, 0⟩ (.claim narrowCall) := by
    intro id mem
    rw [List.mem_singleton.mp mem]
    decide
  have start : sampleQueue.ReachableUnder Unspent ⟨blocked 0, 0⟩ := .init ⟨stocked_blocked, rfl⟩
  exact ⟨by decide +kernel, passedOver_le (start.step (.claim narrowCall) unspent)⟩

end PaymentsPlatform.Webhook
