/- layer: refinement of Workflows/Stages by Workflows/Engine, and runs
   digest: Every call makes only the moves of the abstract model; calls beside each other. -/

import PaymentsPlatform.Workflows.Stages

namespace PaymentsPlatform.Workflows

open Lib.Operations

section Refinement

variable {σ : Type} {S : Semantics Op Ans σ} {Inv : σ → Stage → Prop}
  {α β : Type} {ok : σ → α → Prop} {s : σ} {stage : Stage}

/-- Whatever the answers, the program keeps to the assertion, and an error leaves the call at
its end. -/
abbrev Holds (S : Semantics Op Ans σ) (Inv : σ → Stage → Prop) (ok : σ → α → Prop) (p : Eff α)
    (s : σ) : Prop :=
  GuardsE S ok (fun s _ => Inv s .ended) p s

theorem Holds.bind {then_ : σ → β → Prop} {p : Eff α} {f : α → Eff β}
    (first : Holds S Inv ok p s) (rest : ∀ s a, ok s a → Holds S Inv then_ (f a) s) :
    Holds S Inv then_ (p >>= f) s :=
  (guardsE_bind p f).mpr (first.mono rest fun _ _ h => h)

/-- The program leads to the stage. -/
abbrev Leads (S : Semantics Op Ans σ) (Inv : σ → Stage → Prop) (stage : Stage) (p : Eff α) (s : σ) :
    Prop :=
  Holds S Inv (fun s _ => Inv s stage) p s

variable {e : Engine} {worker : String} {d : Definition}

section Calls

variable (rules : Rules S Inv e d)
include rules

theorem Rules.now (h : Inv s stage) : Leads S Inv stage now s :=
  (guardsE_lift _).mpr (rules.quiet h trivial)

theorem Rules.stopping (h : Inv s stage) : Leads S Inv stage stopping s :=
  (guardsE_lift _).mpr (rules.quiet h trivial)

theorem Rules.backoff (h : Inv s stage) (policy : RetryPolicy) (n : Nat) :
    Leads S Inv stage (backoff policy n) s :=
  (guardsE_lift _).mpr (rules.quiet h trivial)

theorem Rules.pushDLQ (h : Inv s stage) (step : String) (failure : FailureRecord) :
    Leads S Inv stage (pushDLQ step failure) s := by
  obtain ⟨demanded, moved⟩ := rules.pushes h step failure
  refine ⟨demanded, fun a s' m => ?_⟩
  obtain ⟨kept, ends⟩ := moved a s' m
  cases a with
  | ok => exact kept
  | error => exact ends

end Calls

theorem Writes.saveStep {row : StepRecord} (h : Writes S Inv s row stage) :
    Leads S Inv stage (saveStep row) s := by
  refine ⟨h.1, fun a s' m => ?_⟩
  have settled := h.2 a s' m
  cases a with
  | ok => exact settled
  | error => exact settled.2

variable {i : Instance}

theorem Saves.saveInstance (h : Saves S Inv s i stage) : Leads S Inv stage (saveInstance i) s := by
  refine ⟨h.1, fun a s' m => ?_⟩
  have settled := h.2 a s' m
  cases a with
  | ok => exact settled
  | error => exact settled.2

theorem Saves.attempt (h : Saves S Inv s i stage) :
    Holds S Inv (fun s a => Settled (fun s _ => Inv s stage)
      (fun s err => isLeaseLost err = false ∧ Inv s .ended) s a) (attempt (Workflows.saveInstance i)) s :=
  (guardsE_attempt _).mpr h

theorem Notes.attempt {row : StepRecord} (h : Notes S Inv s (.saveStep row) stage) :
    Leads S Inv stage (attempt (Workflows.saveStep row)) s :=
  (guardsE_attempt _).mpr h

theorem Saves.persist {l : Local} (h : Saves S Inv s l.encoded.inst stage) :
    Holds S Inv (fun s l' => l' = l.encoded ∧ Inv s stage) (persist l) s := by
  refine Holds.bind h.attempt fun s a settled => ?_
  cases a with
  | ok => exact ⟨rfl, settled⟩
  | error =>
    unfold Settled at settled
    dsimp only
    rw [if_neg (by rw [settled.1]; exact Bool.false_ne_true)]
    exact settled.2

theorem Notes.persistAnyway {l : Local} (h : Notes S Inv s (.saveInstance l.encoded.inst) stage) :
    Guards S (fun s _ => Inv s stage) (persist l).run s := by
  have kept : GuardsE S (fun s _ => Inv s stage) (fun s _ => Inv s stage) (persist l) s := by
    refine (guardsE_bind _ _).mpr ((guardsE_attempt _).mpr ?_)
    refine Guards.mono (fun s a h => ?_) (show Guards S (fun s _ => Inv s stage) _ s from h)
    cases a with
    | ok => exact h
    | error =>
      dsimp only
      split <;> exact h
  exact Guards.mono (fun s a h => by cases a <;> exact h) kept

theorem Saves.releaseLease (h : Saves S Inv s i.released .ended) :
    Leads S Inv .ended (releaseLease i) s := by
  refine Holds.bind h.attempt fun s a settled => ?_
  cases a with
  | ok => exact settled
  | error =>
    unfold Settled at settled
    dsimp only
    rw [if_neg (by rw [settled.1]; exact Bool.false_ne_true)]
    exact settled.2

section Functions

variable (rules : Rules S Inv e d)
include rules

theorem Rules.persisting {f : Time → Local} (next : Time → Stage) (h : Inv s stage)
    (saves : ∀ s t, Inv s stage → Saves S Inv s (f t).encoded.inst (next t)) :
    Holds S Inv (fun s l' => ∃ t, l' = (f t).encoded ∧ Inv s (next t))
      (Workflows.now >>= fun t => persist (f t)) s :=
  Holds.bind (rules.now h) fun s t h =>
    GuardsE.mono (fun _ _ kept => ⟨t, kept⟩) (fun _ _ ended => ended) (saves s t h).persist

variable {reason : String} {l : Local}

theorem Rules.park (h : Inv s stage)
    (saves : ∀ s t, Inv s stage → Saves S Inv s (l.parkedFor reason t).encoded.inst .ended) :
    Leads S Inv .ended (park reason l) s :=
  GuardsE.mono (fun _ _ kept => kept.elim fun _ both => both.2) (fun _ _ ended => ended)
    (rules.persisting (fun _ => .ended) h saves)

variable {failure : FailureRecord}

theorem Rules.failInstance (h : Inv s stage)
    (saves : ∀ s t, Inv s stage → Saves S Inv s (l.failedWith failure t).encoded.inst .ended) :
    Leads S Inv .ended (failInstance failure l) s :=
  GuardsE.mono (fun _ _ kept => kept.elim fun _ both => both.2) (fun _ _ ended => ended)
    (rules.persisting (fun _ => .ended) h saves)

variable {step : Step} {seq : Nat}

theorem Rules.dlqAndFail (h : Inv s stage) (writes : ∀ s, Inv s stage →
      Writes S Inv s (deadRow step seq failure l.inst) (.condemned failure l)) :
    Leads S Inv .ended (dlqAndFail step seq failure l) s :=
  Holds.bind (rules.pushDLQ h step.name failure) fun s _ h =>
    Holds.bind (writes s h).saveStep fun _ _ condemned =>
      rules.failInstance condemned fun _ t condemned => rules.saves condemned (.dies t)

theorem Rules.stepAlreadyDone (h : Inv s stage) {after : List StepRecord → Stage}
    (listing : ∀ rows, Listing stage rows (after rows)) (name : String) :
    Holds S Inv (fun s done => ∃ rows, done = doneIn rows name ∧ Inv s (after rows))
      (stepAlreadyDone name) s := by
  obtain ⟨demanded, moved⟩ := rules.lists h
  refine ⟨demanded, fun a s' m => ?_⟩
  have settled := moved a s' m
  cases a with
  | ok rows => exact ⟨rows, rfl, settled _ (listing rows)⟩
  | error => exact settled

/-- An abort that begins leaves the loop at its head; one that is refused ends the drive. -/
def Turned (Inv : σ → Stage → Prop) (s : σ) (r : Outcome × Local) : Prop :=
  if r.1 = .quiescent then Inv s .ended else Inv s (.ready r.2)

theorem Rules.beginAbort {cause : AbortCause}
    (h : Inv s (.aborting cause failure l)) :
    Holds S Inv (Turned Inv) (beginAbort d cause failure l) s := by
  have judged : ∀ pivot, Leads S Inv (.aborting cause failure l)
      (pivotPassed pivot) s := by
    intro pivot
    cases pivot with
    | none => exact h
    | some =>
      exact GuardsE.mono (fun _ _ kept => kept.elim fun _ both => both.2) (fun _ _ ended => ended)
        (rules.stepAlreadyDone h (fun _ => Listing.looks) _)
  refine Holds.bind (judged _) fun s passed h => ?_
  cases passed with
  | true =>
    refine Holds.bind (rules.pushDLQ h _ _) fun s _ h => ?_
    exact Holds.bind (rules.park h fun s t h => rules.saves h (.refuses _ _ t)) fun s _ ended => ended
  | false =>
    refine Holds.bind (rules.now h) fun s t h => ?_
    refine Holds.bind (rules.saves h (.aborts t)).persist fun s l' kept => ?_
    rw [kept.1]
    exact kept.2

variable {row : StepRecord} {x : Execution}

theorem Rules.runHooks (hooks : List Hook) (h : Inv s (.executed step row x l)) :
    Holds S Inv (fun s r => r.1 = false ∧ Inv s (.executed step row x r.2))
      (runHooks e worker step.name hooks false l) s := by
  induction hooks generalizing s l with
  | nil => exact ⟨rfl, h⟩
  | cons hook rest ih =>
    cases hook with
    | tick =>
      refine Holds.bind ((guardsE_attempt _).mpr (rules.beats h worker)) fun s a beaten => ?_
      cases a with
      | ok => exact ih beaten.1
      | error err =>
        have found : isLeaseLost err = false := beaten.2
        dsimp only
        rw [found]
        exact ih beaten.1
    | heartbeat =>
      exact Holds.bind ((guardsE_attempt _).mpr (rules.beats h worker))
        fun s a beaten => ih beaten.1
    | checkpoint key value =>
      refine Holds.bind ((guardsE_attempt _).mpr (rules.checkpoints h key value))
        fun s a kept => ?_
      cases a with
      | ok | error => exact ih kept

variable {record : StepRecord}

theorem Rules.commitStep (h : Inv s stage)
    (writes : ∀ s, Inv s stage → Writes S Inv s record (.succeeded step l)) :
    GuardsE S (fun s l' => Inv s (.ready l')) (fun s err => isLeaseLost err = false ∧ Inv s .ended)
      (commitStep d step record l) s := by
  refine (guardsE_bind _ _).mpr ((guardsE_lift _).mpr ?_)
  refine Guards.mono (fun s runAfter h => ?_) (rules.quiet h (o := .now) trivial)
  have clock : GuardsE S (fun s _ => Inv s stage)
      (fun s err => isLeaseLost err = false ∧ Inv s .ended)
      (completionTime (d.nextStep step.name) runAfter) s := by
    unfold completionTime
    split
    · exact (guardsE_lift _).mpr (rules.quiet h trivial)
    · exact h
  refine (guardsE_bind _ _).mpr (GuardsE.mono (fun s t h => ?_) (fun _ _ ended => ended) clock)
  refine (guardsE_bind _ _).mpr ((guardsE_bind _ _).mpr ?_)
  refine GuardsE.mono (fun s _ succeeded => ?_) (fun _ _ ended => ended) (writes s h)
  exact GuardsE.mono (fun s _ ready => ready) (fun _ _ ended => ended)
    (rules.saves succeeded (.commits runAfter t))

theorem Rules.commitOrAbandon {lost : StepRecord} (h : Inv s stage)
    (writes : ∀ s, Inv s stage → Writes S Inv s record (.succeeded step l)) :
    Holds S Inv (Turned Inv) (commitOrAbandon d step record lost l) s := by
  refine Holds.bind ((guardsE_attempt _).mpr (rules.commitStep h writes)) fun s r settled => ?_
  cases r with
  | ok => exact settled
  | error =>
    unfold Settled at settled
    dsimp only
    rw [if_neg (by rw [settled.1]; exact Bool.false_ne_true)]
    exact settled.2

theorem Rules.scheduleRetry (h : Inv s stage) (writes : ∀ s, Inv s stage →
      Writes S Inv s { row with state := .retryScheduled } (.scheduled step row.attempt l)) :
    Leads S Inv .ended (scheduleRetry step row.attempt row l) s := by
  refine Holds.bind (rules.backoff h _ _) fun s delay h => ?_
  refine Holds.bind (writes s h).saveStep fun s _ scheduled => ?_
  exact GuardsE.mono (fun _ _ kept => kept.elim fun _ both => both.2) (fun _ _ ended => ended)
    (rules.persisting (fun _ => .ended) scheduled
      fun s t scheduled => rules.saves scheduled (.backsOff (t + delay)))

theorem Rules.settleFailure (h : Inv s (.recorded step row failure l)) :
    Holds S Inv (Turned Inv) (settleFailure d step seq row.attempt row failure l) s := by
  unfold Workflows.settleFailure
  cases sort : failure.failureClass with
  | manual =>
    exact Holds.bind (rules.park h fun s t h => rules.saves h (.parks (.inl sort) _ t))
      fun s _ ended => ended
  | ambiguous =>
    dsimp only
    split
    · next room =>
        exact Holds.bind (rules.scheduleRetry h fun s h => rules.writes h (.retriesAmbiguous sort room))
          fun s _ ended => ended
    · next spent =>
        refine Holds.bind (rules.pushDLQ h _ _) fun s _ h => ?_
        exact Holds.bind (rules.park h fun s t h => rules.saves h (.parks (.inr ⟨sort, spent⟩) _ t))
          fun s _ ended => ended
  | terminalTechnical =>
    exact Holds.bind (rules.dlqAndFail h fun s h => rules.writes h (.condemns sort seq))
      fun s _ ended => ended
  | terminalBusiness => exact rules.beginAbort (rules.turns h (.declines sort))
  | transient =>
    dsimp only
    split
    · next room =>
        exact Holds.bind (rules.scheduleRetry h fun s h => rules.writes h (.retriesTransient sort room.1))
          fun s _ ended => ended
    · exact Holds.bind (rules.writes h (.drains sort)).saveStep fun s _ h => rules.beginAbort h

variable {err : StepError}

theorem Rules.recordFailure (h : Inv s (.executed step row x l))
    (failed : x.result e step l.inst.id false = .error err)
    (other : err.isSentinel errLeaseLost = false) :
    Holds S Inv (Turned Inv) (recordFailure d step seq row.attempt row err l) s :=
  Holds.bind (rules.writes h (.fails failed other rfl rfl)).saveStep fun _ _ h =>
    rules.settleFailure h

theorem Rules.abandon
    (h : Inv s (.executed step row x l)) (failed : x.result e step l.inst.id false = .error err)
    (lost : err.isSentinel errLeaseLost = true) :
    Leads S Inv .ended (abandon row) s :=
  Holds.bind (rules.notes h (.abandons failed lost)).attempt fun _ _ ended => ended

theorem Rules.invoke (h : Inv s (.running step row l)) (sig : Option SignalRecord) :
    Holds S Inv (fun s r => ∃ x : Execution, r.1 = x.result e step r.2.inst.id false ∧
      Inv s (.executed step row x r.2)) (invoke e worker step (stepInput e step sig l) l) s := by
  refine Holds.bind ((guardsE_lift _).mpr (rules.executes h sig)) fun s x executed => ?_
  refine Holds.bind (rules.runHooks x.hooks executed) fun s r hooked => ?_
  exact ⟨x, by rw [hooked.1], hooked.2⟩

theorem Rules.runStep (h : Inv s (.fresh step l))
    (applied : step.manualGate = true → step.activity ≠ "") (seq : Nat) (sig : Option SignalRecord) :
    Holds S Inv (Turned Inv) (runStep e worker d step seq sig l) s := by
  unfold Workflows.runStep
  split
  · exact Holds.bind (rules.dlqAndFail h fun s h => rules.writes h (.unknown seq _)) fun s _ ended => ended
  · next known =>
      refine Holds.bind (rules.now h) fun s t h => ?_
      refine Holds.bind (rules.writes h (.begins applied (not_not.mp known) seq t)).saveStep fun s _ running => ?_
      refine Holds.bind (rules.invoke running sig) fun s r ended => ?_
      obtain ⟨result, l'⟩ := r
      obtain ⟨x, given, executed⟩ := ended
      dsimp only at given executed
      cases result with
      | ok =>
        refine Holds.bind (rules.now executed) fun s t executed => ?_
        exact rules.commitOrAbandon executed fun s executed =>
          rules.writes executed (.succeeds given.symm t)
      | error =>
        dsimp only
        split
        · next lost =>
            exact Holds.bind (rules.abandon executed given.symm lost) fun _ _ ended => ended
        · next other =>
            exact rules.recordFailure executed given.symm (Bool.not_eq_true _ ▸ other)

theorem Rules.awaitSignal (h : Inv s (.fresh step l)) :
    Leads S Inv .ended (awaitSignal e step l) s := by
  unfold Workflows.awaitSignal
  split
  · next waiting =>
      refine Holds.bind (rules.now h) fun s t h => ?_
      split
      · refine Holds.bind (rules.pushDLQ h _ _) fun s _ h => ?_
        exact rules.park h fun s t h => rules.saves h (.expires _ t)
      · exact GuardsE.mono (fun _ _ kept => kept.2) (fun _ _ ended => ended)
          (rules.saves h (.waits waiting)).persist
  · refine Holds.bind (rules.now h) fun s t h => ?_
    exact GuardsE.mono (fun _ _ kept => kept.2) (fun _ _ ended => ended)
      (rules.saves h (.opens (t + step.timeout))).persist

theorem Rules.runGate (h : Inv s (.fresh step l))
    (gate : step.manualGate = true) (seq : Nat) :
    Holds S Inv (Turned Inv) (runGate e worker d step seq l) s := by
  unfold Workflows.runGate
  cases delivered : l.cctx.signals step.signal with
  | none => exact Holds.bind (rules.awaitSignal h) fun s _ ended => ended
  | some sig =>
    refine Holds.bind (rules.now h) fun s t h => ?_
    dsimp only
    split
    · next applied =>
        refine Holds.bind (rules.saves h (.consumes gate delivered applied t)).persist fun s l' kept => ?_
        rw [kept.1]
        exact rules.runStep kept.2 (fun _ => applied) seq _
    · next plain =>
        unfold Workflows.passGate
        cases e.gatePayload step.signal (sig.consumed t) with
        | error => exact rules.turns h .stuck
        | ok =>
          exact rules.commitOrAbandon h fun s h =>
            rules.writes h (.passes gate delivered (not_not.mp plain) seq t)

variable {rows todo : List _} {anyFailed : Bool}

theorem Rules.retrying {input : Input} (same : input.step = step.name) (n made : Nat)
    (last : Option StepError) (tried : last.isSome = true ∨ 0 < n)
    (h : Inv s (.undoing rows step record todo anyFailed l)) :
    Guards S (fun s r => Inv s (.undoneOr rows step record todo anyFailed l r))
      (retrying step.compensation input n made last) s := by
  induction n generalizing s made last with
  | zero =>
    obtain ⟨err, rfl⟩ := Option.isSome_iff_exists.mp (tried.resolve_right (Nat.lt_irrefl 0))
    exact h
  | succ n ih =>
    refine (guards_bind _ _).mpr (Guards.mono (fun s ending h => ?_)
      (rules.quiet h (o := .stopping) trivial))
    cases ending with
    | some => exact h
    | none =>
      refine (guards_bind _ _).mpr (Guards.mono (fun s a h => ?_)
        (rules.tries h { input with attempt := made + 1 } same))
      cases a with
      | none => exact h
      | some err =>
        dsimp only
        split
        · exact h
        · split
          · exact h
          · refine (guards_bind _ _).mpr (Guards.mono (fun s pause h => ?_)
              (rules.quiet h (o := .pause made) trivial))
            cases pause with
            | slept => exact ih (made + 1) (some err) (.inl rfl) h
            | noRoom | interrupted => exact h

theorem Rules.markCompensationFailed
    (notes : ∀ error, Notes S Inv s (.saveStep { record with state := .compensationFailed, error := error })
      (.walking rows todo true (l.marked step.name .failed))) :
    Holds S Inv (fun s l' => Inv s (.walking rows todo true l'))
      (markCompensationFailed step record err l) s := by
  refine Holds.bind (notes _).attempt fun s _ h => ?_
  have pushed := rules.pushes h step.name
    { newFailureRecord step.name 0 .terminalTechnical err with
      message := "COMPENSATION_FAILED: " ++ (newFailureRecord step.name 0 .terminalTechnical err).message }
  refine (guardsE_bind _ _).mpr ((guardsE_attempt _).mpr ⟨pushed.1, fun a s' m => ?_⟩)
  exact (pushed.2 a s' m).1

theorem Rules.runCompensation (h : Inv s (.walking rows (step :: todo) anyFailed l))
    (due : Due rows l step record) :
    Holds S Inv (fun s r => Inv s (.walking rows todo (r.1 || anyFailed) r.2))
      (runCompensation e step record l) s := by
  unfold Workflows.runCompensation
  split
  · next unknown =>
      exact Holds.bind (rules.markCompensationFailed fun error =>
        rules.notes h (.lacks due unknown error)) fun s l' h => h
  · next known =>
      refine Holds.bind (rules.notes h (.marks due (not_not.mp known))).attempt
        fun s _ undoing => ?_
      refine Holds.bind ((guardsE_lift _).mpr (rules.retrying rfl compensationAttempts 0
        none (.inr (by decide)) undoing)) fun s r ended => ?_
      cases r with
      | none =>
        refine Holds.bind (rules.now ended) fun s t undone => ?_
        refine Holds.bind (rules.notes undone (.records t)).attempt fun s _ undone => ?_
        exact Holds.bind ((guardsE_attempt _).mpr (rules.persists undone).persistAnyway)
          fun s _ walking => walking
      | some =>
        refine Holds.bind (rules.now ended) fun s t undoing => ?_
        exact Holds.bind (rules.markCompensationFailed fun error =>
          rules.notes undoing (.givesUp error)) fun s l' h => h

theorem Rules.finishAbort {rows : List StepRecord}
    (h : Inv s (.walking rows [] anyFailed l)) :
    Leads S Inv .ended (finishAbort anyFailed l) s := by
  refine Holds.bind (rules.now h) fun s t h => ?_
  dsimp only
  split
  · next clean =>
      obtain rfl := Bool.not_eq_true _ ▸ clean.1
      refine Holds.bind (rules.saves h (.settles clean.2)).persist fun s l' kept => ?_
      rw [kept.1]
      exact GuardsE.mono (fun _ _ kept => kept.2) (fun _ _ ended => ended)
        (rules.saves kept.2 (.cancelsOut t)).persist
  · refine Holds.bind (rules.pushDLQ h _ _) fun s _ h => ?_
    exact GuardsE.mono (fun _ _ kept => kept.2) (fun _ _ ended => ended)
      (rules.saves h (.failsOut t)).persist

theorem Rules.walk {rows : List StepRecord} (todo : List Step)
    (h : Inv s (.walking rows todo anyFailed l)) :
    Leads S Inv .ended (walk e rows todo anyFailed l) s := by
  induction todo generalizing s anyFailed l with
  | nil => exact Holds.bind (rules.finishAbort h) fun s _ ended => ended
  | cons step rest ih =>
    have answered := rules.quiet (show Inv s _ from h) (show Op.stopping.quiet from trivial)
    refine (guardsE_bind _ _).mpr ((guardsE_lift _).mpr ⟨answered.1, fun ending s' m => ?_⟩)
    have h' := answered.2 ending s' m
    cases ending with
    | some => exact (rules.saves (rules.stops h m) .interrupts).releaseLease
    | none =>
      have h := h'
      dsimp only
      split
      · next undeclared => exact ih (rules.turns h (.skips (.inl undeclared)))
      · next declared =>
          cases found : latest rows step.name with
          | none => exact ih (rules.turns h (.skips (.inr (.inl found))))
          | some record =>
            dsimp only
            split
            · next out =>
                refine ih (rules.turns h (.skips (.inr (.inr ⟨record, found, ?_⟩))))
                simpa using out
            · next due =>
                have due : Due rows l step record := by
                  simp only [Bool.or_eq_true, Bool.not_eq_eq_eq_not, Bool.not_true,
                    beq_iff_eq, not_or, Bool.not_eq_false] at due
                  exact ⟨declared, found, due.1, due.2⟩
                exact Holds.bind (rules.runCompensation h due) fun s r h => ih h

theorem Rules.compensate (h : Inv s (.ready l)) (unwinding : l.inst.state = .compensating) :
    Leads S Inv .ended (compensate e d l) s := by
  obtain ⟨demanded, moved⟩ := rules.lists h
  refine (guardsE_bind _ _).mpr ⟨demanded, fun a s' m => ?_⟩
  have settled := moved a s' m
  cases a with
  | ok => exact rules.walk _ (rules.turns (settled _ .surveys) (.walks unwinding))
  | error => exact settled

/-- A turn ends the drive or leaves the worker at the head of the loop. -/
def Looped (Inv : σ → Stage → Prop) (s : σ) : Option Local → Prop
  | none => Inv s .ended
  | some l => Inv s (.ready l)

theorem Rules.advance {rows : List StepRecord}
    (h : Inv s (.surveyed rows l)) (current : AtStep d l step) (done : doneIn rows step.name = true) :
    Holds S Inv (fun s l' => Inv s (.ready l')) (advance d step l) s := by
  unfold Workflows.advance
  dsimp only
  split
  · next last =>
      exact GuardsE.mono (fun _ _ kept => kept.elim fun _ both => both.1 ▸ both.2)
        (fun _ _ ended => ended)
        (rules.persisting _ h fun s t h => rules.saves h (.concludes current done last t))
  · next more =>
      exact GuardsE.mono (fun _ _ kept => kept.1 ▸ kept.2) (fun _ _ ended => ended)
        (rules.saves h (.advances current done more)).persist

theorem Rules.runCurrent (h : Inv s (.ready l)) (current : AtStep d l step) :
    Holds S Inv (Looped Inv) (runCurrent e worker d step l) s := by
  refine Holds.bind (rules.stepAlreadyDone h (fun _ => Listing.surveys) step.name)
    fun s done surveyed => ?_
  obtain ⟨rows, rfl, h⟩ := surveyed
  cases done : doneIn rows step.name with
  | true => exact Holds.bind (rules.advance h current done) fun s l' ready => ready
  | false =>
    have h := rules.turns h (.enters current done)
    have run : ∀ seq, Holds S Inv (Turned Inv) (runGateOrStep e worker d step seq l) s := by
      intro seq
      unfold Workflows.runGateOrStep
      split
      · next gate => exact rules.runGate h gate seq
      · next plain => exact rules.runStep h (fun gate => absurd gate plain) seq none
    refine Holds.bind (run _) fun s r turned => ?_
    obtain ⟨o, l'⟩ := r
    cases o <;> exact turned

theorem Rules.driveOnce (h : Inv s (.ready l)) :
    Holds S Inv (Looped Inv) (driveOnce e worker d l) s := by
  refine Holds.bind (rules.stopping h) fun s ending h => ?_
  cases ending with
  | some => exact Holds.bind (rules.saves h .releases).releaseLease fun s _ ended => ended
  | none =>
    dsimp only
    split
    · exact rules.turns h .rests
    · next live =>
        split
        · next unwinding => exact Holds.bind (rules.compensate h unwinding) fun s _ ended => ended
        · next forward =>
            split
            · next asked =>
                refine Holds.bind (rules.beginAbort (rules.turns h (.cancels ⟨live, forward⟩ asked)))
                  fun s r turned => ?_
                obtain ⟨o, l'⟩ := r
                cases o with
                | quiescent => exact turned
                | advanced => exact rules.turns turned .rests
                | abort => exact turned
            · next unasked =>
                split
                · next past =>
                    refine Holds.bind ?_ fun s l' ended => ended
                    exact GuardsE.mono (fun _ _ kept => kept.elim fun _ both => both.2)
                      (fun _ _ ended => ended)
                      (rules.persisting _ h fun s t h => rules.saves h (.completes ⟨live, forward⟩ past t))
                · next named =>
                    cases found : d.stepByName l.inst.currentStep with
                    | none =>
                      exact Holds.bind (rules.failInstance h fun s t h =>
                        rules.saves h (.misses ⟨live, forward⟩ found t)) fun s _ ended => ended
                    | some =>
                      exact rules.runCurrent h
                        ⟨⟨live, forward⟩, Bool.not_eq_true _ ▸ unasked, named, found⟩

theorem Rules.driveLoop (n : Nat) (h : Inv s (.ready l)) :
    Leads S Inv .ended (driveLoop e worker d n l) s := by
  induction n generalizing s l with
  | zero => exact rules.turns h .rests
  | succ n ih =>
    refine Holds.bind (rules.driveOnce h) fun s r looped => ?_
    cases r with
    | none => exact looped
    | some => exact ih looped

theorem Rules.drive {i : Instance} (known : Known e d i) (h : Inv s (.leased i)) :
    Leads S Inv .ended (drive e worker i) s := by
  obtain ⟨registered, found, same⟩ := known.lookup
  unfold Workflows.drive
  rw [found]
  dsimp only
  rw [same]
  split
  · next exceeded =>
      refine Holds.bind ?_ fun s _ ended => ended
      refine Holds.bind (rules.pushDLQ h _ _) fun s _ h => ?_
      exact GuardsE.mono (fun _ _ kept => kept.2) (fun _ _ ended => ended)
        (rules.saves h (.quarantines exceeded)).persist
  · next within =>
      refine Holds.bind (rules.saves h (.counts within)).persist fun s l' kept => ?_
      rw [kept.1]
      exact rules.driveLoop _ kept.2

theorem Rules.leaseRunnable {stage : Stage} (h : Inv s stage) (leasing : Leasing stage worker)
    {f : Option Instance → Eff Unit} (nothing : f none = pure ())
    (taken : ∀ s i, Known e d i → Inv s (.leased i) →
      Leads S Inv .ended (f (some i)) s) :
    Leads S Inv .ended (Workflows.leaseRunnable worker e.lease >>= f) s := by
  obtain ⟨demanded, moved⟩ := rules.leases h leasing
  refine (guardsE_bind _ _).mpr ⟨demanded, fun a s' m => ?_⟩
  have settled := moved a s' m
  cases a with
  | error => exact settled
  | ok found =>
    cases found with
    | none =>
      refine (show GuardsE S _ _ (f none) s' from ?_)
      rw [nothing]
      exact settled.1
    | some i => exact taken s' i (settled.2 i rfl).1 (settled.2 i rfl).2

theorem Rules.pollOnce (h : Inv s (.arrived (.poll worker))) :
    Leads S Inv .ended (pollOnce e worker) s :=
  rules.leaseRunnable h .poll rfl fun _ _ known leased => rules.drive known leased

theorem Rules.handBack (h : Inv s (.arrived (.resumeOther worker))) :
    Leads S Inv .ended (handBack e worker) s := by
  refine rules.leaseRunnable h .other rfl fun s i _ leased => ?_
  obtain ⟨demanded, moved⟩ := rules.saves leased .handsBack
  refine Holds.bind ((guardsE_attempt _).mpr ⟨demanded, fun a s' m => ?_⟩) fun s _ ended => ended
  have settled := moved a s' m
  cases a with
  | ok => exact settled
  | error => exact settled.2

theorem Rules.getInstance {r : Request} (h : Inv s (.arrived r)) {f : Instance → Eff α}
    (read : ∀ s i, Known e d i → Inv s (.holding r i) → Holds S Inv ok (f i) s) :
    Holds S Inv ok (Workflows.getInstance >>= f) s := by
  obtain ⟨demanded, moved⟩ := rules.gets h
  refine (guardsE_bind _ _).mpr ⟨demanded, fun a s' m => ?_⟩
  have settled := moved a s' m
  cases a with
  | error => exact settled
  | ok i => exact read s' i settled.1 settled.2

theorem Rules.signal {name : String} {payload : SignalPayload}
    (h : Inv s (.arrived (.signal name payload))) :
    Leads S Inv (.answered (.signal name payload)) (signal name payload) s := by
  unfold Workflows.signal
  split
  · exact rules.turns h .refused
  · refine rules.getInstance h fun s i _ h => ?_
    split
    · exact rules.turns h .returned
    · next live =>
        split
        · next present => exact rules.turns h (.known present)
        · next absent =>
            have clock : Leads S Inv (.holding (.signal name payload) i)
                (deliveryTime payload) s := by
              unfold deliveryTime
              split
              · exact rules.now h
              · exact h
            refine Holds.bind clock fun s received h => ?_
            refine Holds.bind (rules.now h) fun s t h => ?_
            have absent : i.context.signals name = none := by simpa using absent
            exact (rules.saves h (.signals absent (Bool.not_eq_true _ ▸ live) received t)).saveInstance

theorem Rules.cancel (h : Inv s (.arrived (.cancel reason))) :
    Leads S Inv (.answered (.cancel reason)) (cancel e reason) s := by
  refine rules.getInstance h fun s i _ h => ?_
  split
  · exact rules.turns h .returned
  · next live =>
      split
      · next present => exact rules.turns h (.requested present)
      · next absent =>
          refine Holds.bind (rules.now h) fun s requestedAt h => ?_
          refine Holds.bind (rules.now h) fun s t h => ?_
          exact (rules.saves h (.cancels (Bool.not_eq_true _ ▸ absent) (Bool.not_eq_true _ ▸ live)
            requestedAt t)).saveInstance

theorem Rules.resume (h : Inv s (.arrived (.resume worker))) :
    Leads S Inv .ended (resume e worker) s := by
  refine rules.getInstance h fun s i _ h => ?_
  split
  · exact rules.turns h .returned
  · next live =>
      split
      · exact rules.turns h .returned
      · refine Holds.bind (rules.now h) fun s t h => ?_
        split
        · exact rules.turns h .returned
        · split
          · refine Holds.bind ?_ fun s _ arrived => rules.pollOnce arrived
            refine Holds.bind (rules.now h) fun s t h => ?_
            exact (rules.saves h (.pulls (Bool.not_eq_true _ ▸ live) t)).saveInstance
          · exact rules.pollOnce (rules.turns h .polls)

theorem Rules.requeue {step : String} {reset : Bool}
    (h : Inv s (.arrived (.requeue step reset reason))) :
    Leads S Inv (.answered (.requeue step reset reason))
      (requeue e step reset reason) s := by
  unfold Workflows.requeue
  split
  · exact rules.turns h .refused
  · refine rules.getInstance h fun s i known h => ?_
    obtain ⟨registered, found, same⟩ := known.lookup
    rw [found]
    dsimp only
    rw [same]
    split
    · exact rules.turns h .returned
    · next declared =>
        refine Holds.bind (rules.now h) fun s t h => ?_
        exact (rules.saves h (.requeues declared t)).saveInstance

theorem Rules.program {r : Request} (h : Inv s (.arrived r)) :
    Leads S Inv (.answered r) (r.program e) s := by
  have answered {p : Eff Unit} (move : Turning d .ended (.answered r))
      (ended : Leads S Inv .ended p s) :
      Leads S Inv (.answered r) p s :=
    GuardsE.mono (fun _ _ ended => rules.turns ended move) (fun _ _ ended => ended) ended
  cases r with
  | poll => exact answered .worked (rules.pollOnce h)
  | resume => exact answered .resumed (rules.resume h)
  | resumeOther => exact answered .swept (rules.handBack h)
  | signal => exact rules.signal h
  | cancel => exact rules.cancel h
  | requeue => exact rules.requeue h

end Functions

end Refinement

open Lib.Operations Lib.Processes Lib.TransitionSystem

def Engine.machine (e : Engine) : Machine Op Ans Store Request (Except GoError Unit) Choice where
  program r := (r.program e).run
  exec := Store.exec

theorem Engine.machine_program (e : Engine) (r : Request) :
    e.machine.program r = (r.program e).run := rfl

theorem Engine.machine_exec (e : Engine) (s : Store) (o : Op) (c : Choice) :
    e.machine.exec s o c = s.exec o c := rfl

/-- An instance as `Start` leaves it, of a definition that the engine has. -/
structure Started (e : Engine) (d : Definition) (s : Store) : Prop where
  known : Known e d s.inst
  state : s.inst.state = .pending
  currentStep : s.inst.currentStep = d.firstStep
  context : s.inst.context = .empty
  attempt : s.inst.attempt = 0
  epoch : s.inst.leaseEpoch = 0
  free : s.inst.leaseOwner = "" ∧ s.inst.leaseUntil = none
  blank : s.inst.lastError = "" ∧ s.inst.completedAt = none
  steps : s.steps = []
  dlq : s.dlq = []

abbrev EngineConfig (ι : Type) := Config Op Ans Store Request (Except GoError Unit) ι

/-- Any number of calls on one instance, interleaved and cut short anywhere. -/
def Engine.runs (e : Engine) (d : Definition) (ι : Type) [DecidableEq ι] :
    System (EngineConfig ι) (ι × Act Request Choice) :=
  e.machine.processes (Started e d)

def nextOp {ι : Type} (c : EngineConfig ι) (i : ι) : Option Op :=
  match c.own i with
  | some (_, .perform o _) => some o
  | _ => none

theorem own_of_nextOp {ι : Type} {c : EngineConfig ι} {i : ι} {o : Op} (about : nextOp c i = some o) :
    ∃ r next, c.own i = some (r, .perform o next) := by
  unfold nextOp at about
  split at about
  · next r given next mine =>
      cases about
      exact ⟨r, next, mine⟩
  · exact absurd about.symm (Option.some_ne_none _)

section Exec

variable {s : Store} {c : Choice}

theorem exec_saveInstance (i : Instance) :
    (∃ f, c.fault = some f ∧ s.exec (.saveInstance i) c = (.error f.err, s)) ∨
    (i.leaseEpoch = s.inst.leaseEpoch ∧
      s.exec (.saveInstance i) c = (.ok (), { s with inst := i })) ∨
    (i.leaseEpoch ≠ s.inst.leaseEpoch ∧
      s.exec (.saveInstance i) c = (.error (supersededWrite i), s)) := by
  unfold Store.exec
  cases fault : c.fault with
  | some f => exact .inl ⟨f, rfl, rfl⟩
  | none =>
    refine .inr ?_
    dsimp only
    split
    · next same => exact .inl ⟨same, rfl⟩
    · next apart => exact .inr ⟨apart, rfl⟩

theorem exec_saveStep (r : StepRecord) :
    (∃ f, c.fault = some f ∧ s.exec (.saveStep r) c = (.error f.err, s)) ∨
    s.exec (.saveStep r) c = (.ok (), { s with steps := putRow s.steps r }) := by
  unfold Store.exec
  cases fault : c.fault with
  | some f => exact .inl ⟨f, rfl, rfl⟩
  | none => exact .inr rfl

theorem exec_listSteps :
    (∃ f, c.fault = some f ∧ s.exec .listSteps c = (.error f.err, s)) ∨
    s.exec .listSteps c = (.ok (listed s.steps), s) := by
  unfold Store.exec
  cases fault : c.fault with
  | some f => exact .inl ⟨f, rfl, rfl⟩
  | none => exact .inr rfl

theorem exec_getInstance :
    (∃ f, c.fault = some f ∧ s.exec .getInstance c = (.error f.err, s)) ∨
    s.exec .getInstance c = (.ok s.inst, s) := by
  unfold Store.exec
  cases fault : c.fault with
  | some f => exact .inl ⟨f, rfl, rfl⟩
  | none => exact .inr rfl

theorem exec_leaseRunnable (worker : String) (lease : Int) :
    (∃ f, c.fault = some f ∧ s.exec (.leaseRunnable worker lease) c = (.error f.err, s)) ∨
    s.exec (.leaseRunnable worker lease) c = (.ok none, s) ∨
    s.inst.due c.clock = true ∧ s.exec (.leaseRunnable worker lease) c =
      (.ok (some (s.inst.leasedBy worker (c.clock + lease))),
        { s with inst := s.inst.leasedBy worker (c.clock + lease) }) := by
  unfold Store.exec
  cases fault : c.fault with
  | some f => exact .inl ⟨f, rfl, rfl⟩
  | none =>
    refine .inr ?_
    dsimp only
    split
    · next due => exact .inr ⟨due, rfl⟩
    · exact .inl rfl

theorem exec_heartbeat (worker : String) (epoch : Nat) (extend : Int) :
    (∃ f, c.fault = some f ∧ s.exec (.heartbeat worker epoch extend) c = (.error f.err, s)) ∨
    (s.inst.leaseEpoch = epoch ∧ s.exec (.heartbeat worker epoch extend) c =
      (.ok (), { s with inst := { s.inst with leaseUntil := some (c.clock + extend) } })) ∨
    s.exec (.heartbeat worker epoch extend) c =
      (.error (supersededBeat s.inst.id worker epoch), s) := by
  unfold Store.exec
  cases fault : c.fault with
  | some f => exact .inl ⟨f, rfl, rfl⟩
  | none =>
    refine .inr ?_
    dsimp only
    split
    · next held => exact .inl ⟨held.2, rfl⟩
    · exact .inr rfl

theorem exec_pushDLQ (step : String) (failure : FailureRecord) :
    (∃ f, c.fault = some f ∧ s.exec (.pushDLQ step failure) c = (.error f.err, s)) ∨
    s.exec (.pushDLQ step failure) c = (.ok (), { s with dlq := s.dlq ++ [(step, failure)] }) := by
  unfold Store.exec
  cases fault : c.fault with
  | some f => exact .inl ⟨f, rfl, rfl⟩
  | none => exact .inr rfl

theorem exec_quiet {o : Op} (quiet : o.quiet) : (s.exec o c).2 = s := by
  cases o <;> first | exact quiet.elim | rfl

/-! No error of the repository reads as a lost lease. -/

variable {err : GoError}

theorem saveInstance_foreign {i : Instance}
    (given : (s.exec (.saveInstance i) c).1 = .error err) : isLeaseLost err = false := by
  rcases exec_saveInstance (s := s) (c := c) i with ⟨f, _, done⟩ | ⟨_, done⟩ | ⟨_, done⟩ <;>
    rw [done] at given <;> cases given
  · exact f.foreign
  · rfl

theorem saveStep_foreign {row : StepRecord}
    (given : (s.exec (.saveStep row) c).1 = .error err) : isLeaseLost err = false := by
  rcases exec_saveStep (s := s) (c := c) row with ⟨f, _, done⟩ | done <;>
    rw [done] at given <;> cases given
  exact f.foreign

theorem heartbeat_foreign {worker : String} {epoch : Nat} {extend : Int}
    (given : (s.exec (.heartbeat worker epoch extend) c).1 = .error err) : isLeaseLost err = false := by
  rcases exec_heartbeat (s := s) (c := c) worker epoch extend with ⟨f, _, done⟩ | ⟨_, done⟩ | done <;>
    rw [done] at given <;> cases given
  · exact f.foreign
  · rfl

end Exec

/-! The instance keeps naming its definition. -/

section Identity

variable {e : Engine} {d : Definition}

/-- `Known` for what a call holds. -/
def Stage.Knows (e : Engine) (d : Definition) (stage : Stage) : Prop :=
  ∀ origin, stage.origin = some origin → KnownAs e d origin

def Op.names (e : Engine) (d : Definition) : Op → Prop
  | .saveInstance i => Known e d i
  | _ => True

variable {stage : Stage}

theorem Stage.Knows.of_origin {next : Stage} (h : stage.Knows e d)
    (same : next.origin = none ∨ next.origin = stage.origin) : next.Knows e d := by
  intro origin given
  rcases same with none | same
  · rw [none] at given
    exact absurd given.symm (Option.some_ne_none _)
  · exact h origin (same ▸ given)

theorem Saving.knows {next : Stage} {i : Instance} (h : stage.Knows e d)
    (move : Saving e d stage i next) : Known e d i ∧ next.Knows e d := by
  obtain ⟨held, then_⟩ := move.origin
  refine ⟨h _ held, h.of_origin ?_⟩
  rw [held]
  exact then_

theorem exec_known (s : Store) (o : Op) (c : Choice) (known : Known e d s.inst)
    (names : o.names e d) : Known e d (s.exec o c).2.inst := by
  cases o with
  | saveInstance i =>
    rcases exec_saveInstance (s := s) (c := c) i with ⟨_, _, done⟩ | ⟨_, done⟩ | ⟨_, done⟩ <;> rw [done]
    · exact known
    · exact names
    · exact known
  | saveStep row =>
    rcases exec_saveStep (s := s) (c := c) row with ⟨_, _, done⟩ | done <;> rw [done] <;> exact known
  | listSteps =>
    rcases exec_listSteps (s := s) (c := c) with ⟨_, _, done⟩ | done <;> rw [done] <;> exact known
  | getInstance =>
    rcases exec_getInstance (s := s) (c := c) with ⟨_, _, done⟩ | done <;> rw [done] <;> exact known
  | leaseRunnable worker lease =>
    rcases exec_leaseRunnable (s := s) (c := c) worker lease with ⟨_, _, done⟩ | done | ⟨_, done⟩ <;>
      rw [done] <;> exact known
  | heartbeat worker epoch extend =>
    rcases exec_heartbeat (s := s) (c := c) worker epoch extend with
      ⟨_, _, done⟩ | ⟨_, done⟩ | done <;> rw [done] <;> exact known
  | pushDLQ step failure =>
    rcases exec_pushDLQ (s := s) (c := c) step failure with ⟨_, _, done⟩ | done <;>
      rw [done] <;> exact known
  | _ => exact known

theorem settled_of {σ α : Type} {ok : σ → α → Prop} {error : σ → GoError → Prop} {x : σ}
    (a : Except GoError α) (good : ∀ v, a = .ok v → ok x v)
    (bad : ∀ err, a = .error err → error x err) : Settled ok error x a := by
  cases a with
  | ok v => exact good v rfl
  | error err => exact bad err rfl

theorem Stage.Knows.nothing (none : stage.origin = none) : stage.Knows e d := by
  intro origin given
  rw [none] at given
  exact absurd given.symm (Option.some_ne_none _)

theorem knows_rules :
    Rules (e.machine.blind (fun s => Known e d s.inst) (Op.names e d)) (fun _ stage => stage.Knows e d)
      e d where
  quiet := fun {_ _ o} h quiet => ⟨by cases o <;> first | exact quiet.elim | trivial, fun _ _ _ => h⟩
  pushes h _ _ := ⟨trivial, fun a _ _ =>
    ⟨h, settled_of a (fun _ _ => trivial) fun _ _ => .nothing rfl⟩⟩
  gets _ := by
    refine ⟨trivial, fun a _ told => settled_of a (fun i got => ?_) fun _ _ => .nothing rfl⟩
    obtain ⟨s, k, known, given⟩ := told
    rw [Engine.machine_exec] at given
    rcases exec_getInstance (s := s) (c := k) with ⟨f, _, done⟩ | done <;>
      rw [given, done] at got <;> cases got
    exact ⟨known, fun origin held => by cases held; exact known⟩
  leases _ _ := by
    refine ⟨trivial, fun a _ told => settled_of a (fun found got => ⟨.nothing rfl, fun i taken => ?_⟩)
      fun _ _ => .nothing rfl⟩
    obtain ⟨s, k, known, given⟩ := told
    rw [Engine.machine_exec] at given
    subst taken
    rcases exec_leaseRunnable (s := s) (c := k) _ _ with ⟨f, _, done⟩ | done | ⟨_, done⟩ <;>
      rw [given, done] at got <;> cases got
    exact ⟨known, fun origin held => by cases held; exact known⟩
  lists h := ⟨trivial, fun a _ _ => settled_of a
    (fun _ _ _ move => h.of_origin (.inr move.origin)) fun _ _ => .nothing rfl⟩
  turns h move := h.of_origin move.origin
  saves h move := by
    refine ⟨(move.knows h).1, fun a _ told => settled_of a (fun _ _ => (move.knows h).2)
      fun err failed => ⟨?_, .nothing rfl⟩⟩
    obtain ⟨s, k, _, given⟩ := told
    rw [Engine.machine_exec] at given
    exact saveInstance_foreign (given.symm.trans failed)
  writes h move := by
    refine ⟨trivial, fun a _ told => settled_of a (fun _ _ => h.of_origin (.inr move.origin))
      fun err failed => ⟨?_, .nothing rfl⟩⟩
    obtain ⟨s, k, _, given⟩ := told
    rw [Engine.machine_exec] at given
    exact saveStep_foreign (given.symm.trans failed)
  notes h move := ⟨trivial, fun _ _ _ => h.of_origin move.origin⟩
  executes h _ := ⟨trivial, fun _ _ _ => h⟩
  beats h _ := by
    refine ⟨trivial, fun a _ told => ⟨h, settled_of a (fun _ _ => trivial) fun err failed => ?_⟩⟩
    obtain ⟨s, k, _, given⟩ := told
    rw [Engine.machine_exec] at given
    exact heartbeat_foreign (given.symm.trans failed)
  checkpoints := by
    intro _ step row x l h key value
    have same := Local.origin_encoded { l with cctx := l.cctx.putProgress step.name key value }
    refine ⟨h _ (congrArg some same.symm), fun a _ _ => settled_of a (fun _ _ => ?_) fun _ _ => h⟩
    exact h.of_origin (.inr (congrArg some same))
  stops h _ := h
  tries h _ _ := ⟨trivial, fun a _ _ => by cases a <;> exact h⟩
  persists := by
    intro _ rows step record todo anyFailed l h
    have same := Local.origin_encoded (l.marked step.name .done)
    exact ⟨h _ (congrArg some same.symm), fun _ _ _ => h.of_origin (.inr (congrArg some same))⟩

theorem known_always {ι : Type} [DecidableEq ι] {c : EngineConfig ι}
    (h : (e.runs d ι).Reachable c) : Known e d c.world.state.inst := by
  have programs : ∀ r, Guards (e.machine.blind (fun s => Known e d s.inst) (Op.names e d))
      (fun _ _ => True) (e.machine.program r) () := by
    intro r
    have arrived : Stage.Knows e d (.arrived r) := .nothing rfl
    have kept := knows_rules.program arrived (s := ())
    unfold Leads Holds GuardsE at kept
    rw [Engine.machine_program]
    exact Guards.mono (fun _ _ _ => trivial) kept
  refine state_invariant (fun s started => started.known) (fun s o k known names => ?_) programs h
  rw [Engine.machine_exec]
  exact exec_known s o k known names

end Identity

/-! A saga of three steps, for the runs that are written out. -/

namespace Sample

def policy : RetryPolicy := ⟨3, 200000000, 1000000000, 2, []⟩

def step (name compensation : String) : Step where
  name := name
  activity := name
  signal := ""
  retry := policy
  timeout := 8000000000
  compensation := compensation
  compensationKind := .unset
  idempotent := true
  manualGate := false
  pivot := false
  pivotKind := .none
  sideEffecting := true

def saga : Registered where
  declared := ⟨"onboarding", 1, [step "account" "closeAccount", step "gateway" "removeGateway",
    step "verify" ""]⟩
  sound := by decide +kernel

def engine : Engine where
  defs := [saga]
  acts := ["account", "closeAccount", "gateway", "removeGateway", "verify"]
  lease := 60
  poisonThreshold := defaultPoisonThreshold
  tenant := "tnt_1"
  idempotencyKey := fun id step => id ++ ":" ++ step
  gatePayload := fun signal _ => .ok signal
  durationText := fun _ => "8s"

def store : Store where
  inst :=
    { id := "wfr_1", tenantID := "tnt_1", definition := "onboarding", version := 1
      businessKey := "mrc_1", state := .pending, currentStep := "account", input := "\x7b\x7d"
      context := .empty, attempt := 0, leaseOwner := "", leaseEpoch := 0, leaseUntil := none
      runAfter := 0, lastError := "", completedAt := none }
  steps := []
  dlq := []

theorem started : Started engine saga.definition store where
  known := rfl
  state := rfl
  currentStep := by decide +kernel
  context := rfl
  attempt := rfl
  epoch := rfl
  free := ⟨rfl, rfl⟩
  blank := ⟨rfl, rfl⟩
  steps := rfl
  dlq := rfl

def first {n : Nat} : Fin (n + 1) := 0

def second {n : Nat} : Fin (n + 2) := 1

/-- Nobody is at work on the new instance. -/
def start (n : Nat) : EngineConfig (Fin n) := ⟨⟨store, []⟩, fun _ => none⟩

def well : Choice where
  clock := 100
  ending := none
  delay := 5
  pause := .slept
  fault := none
  execution := ⟨[], .output "done", false, false⟩
  compensation := none

def lateReply : Choice :=
  { well with
    execution := ⟨[], .failed (.plain (.sentinel Pkg.ApiError.deadlineExceeded)), true, false⟩ }

def call {n : Nat} (i : Fin n) (r : Request) (answers : List Choice) :
    List (Fin n × Act Request Choice) :=
  (i, .start r) :: answers.map fun c => (i, .proceed c)

def approval : Step :=
  { step "approval" "" with
    activity := "", signal := "approve", manualGate := true, timeout := 1000, sideEffecting := false }

def review : Registered where
  declared := ⟨"review", 1, [approval]⟩
  sound := by decide +kernel

def reviewEngine : Engine := { engine with defs := [review] }

theorem init (n : Nat) : (engine.runs saga.definition (Fin n)).init (start n) :=
  ⟨started, rfl, fun _ => rfl⟩

end Sample

end PaymentsPlatform.Workflows
