/- layer: results
   digest: When a worker whose write was refused stops, that its lease is void for good, and when a
     signal or a cancellation stays with the instance. -/

import PaymentsPlatform.Workflows.Views

namespace PaymentsPlatform.Workflows

open Lib.Operations Lib.Processes Lib.TransitionSystem

/-- The call walks back under its lease. -/
def View.Unwinds (x : View) : Prop :=
  x.leased = true ∧ ∃ h, x.held = some h ∧ h.state = .compensating

/-- Fenced writes go under the lease of what was read, and no work is begun after a refusal. -/
def fenced (x : View) : Op → Prop
  | .saveInstance i => ∃ h, x.held = some h ∧ h.leaseEpoch = i.leaseEpoch
  | .heartbeat _ epoch _ => ∃ h, x.held = some h ∧ h.leaseEpoch = epoch
  | .execute _ _ | .compensate _ _ => x.rejected = false
  | _ => True

/-- A refusal means that the lease is gone; a call that walks back still has it. -/
structure InForce (epoch : Nat) (x : View) (h : Instance) : Prop where
  granted : h.leaseEpoch ≤ epoch
  refused : x.rejected = true → h.leaseEpoch < epoch
  unwinds : x.leased = true → h.state = .compensating → h.leaseEpoch = epoch

def KnowsLease (s : Store) (x : View) : Prop :=
  ∀ h, x.held = some h → InForce s.inst.leaseEpoch x h

/-- No lease is granted while another call walks back under one. -/
def leasesAfterWalks (s : Store) (_ y : View) (o : Op) (k : Choice) : Prop :=
  match o with
  | .leaseRunnable _ _ => s.inst.due k.clock = true → ¬ y.Unwinds
  | _ => True

section Effects

variable {s s' : Store} {x x' y z : View} {o : Op} {k : Choice}

theorem KnowsLease.acts (fit : KnowsLease s x) (allowed : fenced x o)
    (effect : Effect s x k o s' x') : KnowsLease s' x' := by
  cases effect with
  | idle => exact fun h held => ⟨(fit h held).granted, (fit h held).refused, (fit h held).unwinds⟩
  | read =>
    rintro h ⟨⟩
    exact ⟨le_rfl, fun refused => absurd refused Bool.false_ne_true,
      fun leased => absurd leased Bool.false_ne_true⟩
  | lease =>
    rintro h ⟨⟩
    exact ⟨le_rfl, fun refused => absurd refused Bool.false_ne_true, fun _ _ => rfl⟩
  | save same =>
    obtain ⟨h, held, epoch⟩ := allowed
    rintro i ⟨⟩
    refine ⟨le_rfl, fun refused => ?_, fun _ _ => rfl⟩
    exact absurd ((fit h held).refused refused) (by rw [epoch, same]; exact lt_irrefl _)
  | refuse stale | miss stale =>
    obtain ⟨h, held, epoch⟩ := allowed
    intro i held'
    obtain rfl := Option.some.inj (held.symm.trans held')
    exact ⟨(fit h held).granted, fun _ => lt_of_le_of_ne (fit h held).granted (epoch ▸ stale),
      (fit h held).unwinds⟩
  | write => exact fun h held => ⟨(fit h held).granted, (fit h held).refused, (fit h held).unwinds⟩

theorem KnowsLease.bears (fit : KnowsLease s y) (agreed : leasesAfterWalks s x y o k)
    (effect : Effect s x k o s' x') : KnowsLease s' y := by
  intro h held
  have known := fit h held
  cases effect with
  | lease due =>
    have newer : h.leaseEpoch < s.inst.leaseEpoch + 1 := Nat.lt_succ_of_le known.granted
    refine ⟨newer.le, fun _ => newer, fun leased unwinding => ?_⟩
    exact absurd ⟨leased, h, held, unwinding⟩ (agreed due)
  | save same =>
    dsimp only
    rw [same]
    exact known
  | _ => exact known

theorem fencing_beside (e : Engine) (d : Definition) :
    Beside View.observe View.fresh e.machine (fun s => Known e d s.inst) fenced leasesAfterWalks
      KnowsLease fun _ _ _ => True :=
  beside_of_effects (fun _ _ held => absurd held.symm (Option.some_ne_none _))
    (fun _ _ => ⟨trivial, trivial⟩) (fun fit allowed effect => fit.acts allowed effect)
    (fun _ fitY _ _ _ agreed effect => ⟨fitY.bears agreed effect, trivial, trivial⟩)
    fun _ _ _ _ => trivial

end Effects

/-- The worker holds what it last stored, and no write of it has been refused. -/
structure InStep (x : View) (i : Instance) : Prop where
  held : x.held = some i
  leased : x.leased = true
  live : x.rejected = false

/-- The worker walks back, and no write of it has been refused. -/
structure Backward (x : View) (l : Local) : Prop where
  under : ∃ h, UnderLease x l h ∧ h.state = .compensating
  live : x.rejected = false
  state : l.inst.state = .compensating

def FencingInv (x : View) : Stage → Prop
  | .arrived _ | .ended | .answered _ => True
  | .holding _ i => x.held = some i
  | .leased i => InStep x i
  | .ready l | .surveyed _ l | .fresh _ l => InStep x l.inst
  | .running _ _ l => (∃ h, UnderLease x l h) ∧ x.rejected = false
  | .executed _ _ _ l | .recorded _ _ _ l | .scheduled _ _ l | .condemned _ l | .succeeded _ l
  | .aborting _ _ l | .interrupted l | .rolledBack l => ∃ h, UnderLease x l h
  | .walking _ _ _ l | .undoing _ _ _ _ _ l | .undone _ _ _ _ _ l => Backward x l

section Moves

variable {e : Engine} {d : Definition} {x : View} {stage next : Stage} {i h : Instance} {l l' : Local}
  {s : Store}

theorem InStep.under (step : InStep x l.inst) : UnderLease x l l.inst := ⟨step.held, rfl, step.leased⟩

theorem UnderLease.live (under : UnderLease x l h) (fit : KnowsLease s x)
    (same : l.inst.leaseEpoch = s.inst.leaseEpoch) : x.rejected = false := by
  rw [Bool.eq_false_iff]
  intro refused
  have older := (fit h under.held).refused refused
  rw [under.epoch, same] at older
  exact lt_irrefl _ older

theorem UnderLease.commit (under : UnderLease x l h) (epoch : i.leaseEpoch = l.inst.leaseEpoch)
    (then_ : InStep (x.saves i) i → FencingInv (x.saves i) next) :
    Commits KnowsLease fenced FencingInv x i next :=
  ⟨⟨h, under.held, under.epoch.trans epoch.symm⟩, fun _ fit same =>
    then_ ⟨rfl, under.leased, under.live fit (epoch.symm.trans same)⟩⟩

theorem fencing_turns (inv : FencingInv x stage) (move : Turning d stage next) :
    FencingInv x next := by
  cases move with
  | cancels => exact ⟨_, inv.under⟩
  | enters | declines => exact inv
  | walks unwinding => exact ⟨⟨_, inv.under, unwinding⟩, inv.live, unwinding⟩
  | skips => exact inv
  | _ => trivial

theorem fencing_saves (inv : FencingInv x stage) (move : Saving e d stage i next) :
    Commits KnowsLease fenced FencingInv x i next := by
  cases move with
  | signals | cancels | pulls | requeues => exact ⟨⟨_, inv, rfl⟩, fun _ _ _ => trivial⟩
  | handsBack | quarantines => exact ⟨⟨_, inv.held, rfl⟩, fun _ _ _ => trivial⟩
  | counts => exact ⟨⟨_, inv.held, rfl⟩, fun _ _ _ => ⟨rfl, inv.leased, inv.live⟩⟩
  | releases | completes | misses => exact inv.under.commit rfl fun _ => trivial
  | advances | concludes | consumes => exact inv.under.commit rfl fun kept => kept
  | waits | opens | expires => exact inv.under.commit rfl fun _ => trivial
  | @commits step l runAfter t =>
    obtain ⟨h, under⟩ := inv
    have epoch := congrArg Prod.fst (l.origin_committed (d.nextStep step.name) runAfter t)
    exact under.commit epoch fun kept => kept
  | aborts =>
    obtain ⟨h, under⟩ := inv
    exact under.commit rfl fun kept => kept
  | settles =>
    obtain ⟨h, under, _⟩ := inv.under
    exact under.commit rfl fun kept => ⟨_, kept.held, rfl, kept.leased⟩
  | failsOut =>
    obtain ⟨h, under, _⟩ := inv.under
    exact under.commit rfl fun _ => trivial
  | _ =>
    obtain ⟨h, under⟩ := inv
    exact under.commit rfl fun _ => trivial

theorem fencing_writes {row : StepRecord} (inv : FencingInv x stage)
    (move : Writing e d stage row next) : FencingInv (x.writes row) next := by
  cases move with
  | passes | unknown => exact ⟨_, inv.held, rfl, inv.leased⟩
  | begins => exact ⟨⟨_, inv.held, rfl, inv.leased⟩, inv.live⟩
  | _ =>
    obtain ⟨h, under⟩ := inv
    exact ⟨h, under.held, under.epoch, under.leased⟩

theorem fencing_notes {row : StepRecord} (inv : FencingInv x stage) (move : Noting e stage row next) :
    FencingInv (x.writes row) next ∧ FencingInv x next := by
  cases move with
  | abandons => exact ⟨trivial, trivial⟩
  | _ =>
    obtain ⟨⟨h, under, unwinding⟩, live, state⟩ := inv
    exact ⟨⟨⟨h, ⟨under.held, under.epoch, under.leased⟩, unwinding⟩, live, state⟩,
      ⟨h, ⟨under.held, under.epoch, under.leased⟩, unwinding⟩, live, state⟩

theorem Backward.kept (back : Backward x l) (fit : KnowsLease s x) :
    l.inst.leaseEpoch = s.inst.leaseEpoch := by
  obtain ⟨h, under, unwinding⟩ := back.under
  exact under.epoch.symm.trans ((fit h under.held).unwinds under.leased unwinding)

theorem fencing_heeds (e : Engine) (d : Definition) : Heeds KnowsLease fenced FencingInv e d where
  free := fun {_ o} free => by cases o <;> trivial
  ended _ := ⟨trivial, trivial⟩
  gets _ _ := rfl
  leases _ _ _ _ _ := ⟨rfl, rfl, rfl⟩
  lists _ inv move := by cases move <;> exact inv
  turns := fencing_turns
  saves := fencing_saves
  writes inv move := ⟨trivial, fun _ _ => fencing_writes inv move⟩
  notes inv move := ⟨⟨trivial, fun _ _ => (fencing_notes inv move).1⟩, (fencing_notes inv move).2⟩
  executes inv _ := ⟨inv.2, fun _ => inv.1⟩
  beats := by
    rintro x step row execution l ⟨h, under⟩ worker
    exact ⟨⟨h, under.held, under.epoch⟩, h, under.held, under.epoch, under.leased⟩
  checkpoints := by
    rintro x step row execution l ⟨h, under⟩ cctx key value rfl
    exact ⟨under.commit rfl fun kept => ⟨_, kept.held, rfl, kept.leased⟩,
      ⟨h, under.held, under.epoch, under.leased⟩, h, under.held, under.epoch, under.leased⟩
  stops inv := inv.under.imp fun _ both => both.1
  tries inv := ⟨fun _ _ => inv.live, inv⟩
  persists := by
    rintro x rows step record todo anyFailed l back i rfl
    obtain ⟨h, under, unwinding⟩ := back.under
    refine ⟨under.commit rfl fun kept => ⟨⟨_, ⟨kept.held, rfl, kept.leased⟩, back.state⟩, kept.live,
      back.state⟩, ⟨⟨h, ⟨under.held, under.epoch, under.leased⟩, unwinding⟩, back.live, back.state⟩,
      fun s fit stale => ?_⟩
    exact absurd (back.kept fit) stale

end Moves

/-- The call of `i` is about to start an activity or a compensation. -/
def startsWork {ι : Type} (c : EngineConfig ι) (i : ι) : Bool :=
  match c.own i with
  | some (_, .perform (.execute _ _) _) => true
  | some (_, .perform (.compensate _ _) _) => true
  | _ => false

/-- Under `leasesAfterWalks` no call starts an activity or a compensation once a fenced write of it
has been refused for its epoch. -/
theorem no_work_after_refusal {ι : Type} [DecidableEq ι] (e : Engine) (d : Definition)
    (c : EngineConfig ι)
    (h : (e.runs d ι).ReachableUnder (besides View.observe View.fresh leasesAfterWalks) c) (i : ι)
    (starts : startsWork c i = true) : (viewOf c i).rejected = false := by
  have fits := (fencing_heeds e d).fits (fun _ => trivial) (fencing_beside e d) h
  unfold startsWork at starts
  split at starts
  · next mine => exact (fits.next mine).2
  · next mine => exact (fits.next mine).2
  · exact absurd starts Bool.false_ne_true

instance (x : View) : Decidable x.Unwinds :=
  match held : x.held with
  | none => isFalse fun ⟨_, _, given, _⟩ =>
    absurd (held.symm.trans given).symm (Option.some_ne_none _)
  | some h => decidable_of_iff (x.leased = true ∧ h.state = .compensating)
      ⟨fun both => ⟨both.1, h, held, both.2⟩, fun ⟨leased, _, given, unwinding⟩ =>
        ⟨leased, Option.some.inj (held.symm.trans given) ▸ unwinding⟩⟩

instance (s : Store) (x y : View) (o : Op) (k : Choice) : Decidable (leasesAfterWalks s x y o k) :=
  match o with
  | .leaseRunnable _ _ => inferInstanceAs (Decidable (s.inst.due k.clock = true → ¬ y.Unwinds))
  | .now | .stopping | .backoff _ _ | .pause _ | .getInstance | .saveInstance _
  | .heartbeat _ _ _ | .saveStep _ | .listSteps | .pushDLQ _ _ | .execute _ _ | .compensate _ _ =>
    isTrue trivial

open Sample (saga engine first well start second)

/-- A worker is overtaken while its activity runs, is refused its commit and returns, and the other
one is about to run the step. -/
def overtakenRun : List (Fin 2 × Act Request Choice) :=
  Sample.call first (.poll "wrk_1") (List.replicate 7 well) ++
    Sample.call second (.poll "wrk_2")
      (List.replicate 6 { well with clock := 1000 }) ++
    List.replicate 3 (first, .proceed well)

theorem no_work_after_refusal_overtaken :
    (engine.runs saga.definition (Fin 2)).Meets
      (besides View.observe View.fresh leasesAfterWalks) (start 2) overtakenRun ∧
    (viewOf ((engine.runs saga.definition (Fin 2)).run (start 2)
      overtakenRun) 1).rejected = false := by
  have meets : (engine.runs saga.definition (Fin 2)).Meets
      (besides View.observe View.fresh leasesAfterWalks) (start 2) overtakenRun := by
    decide +kernel
  have starts : startsWork ((engine.runs saga.definition (Fin 2)).run (start 2)
      overtakenRun) 1 = true := by
    decide +kernel
  exact ⟨meets, no_work_after_refusal engine saga.definition _
    (System.reachableUnder_run (.init (Sample.init 2)) overtakenRun meets) 1 starts⟩

/-- Two steps are done and the instance is cancelled; its worker is overtaken in the first
compensation and is refused the write of its mark. -/
def refusedRun : List (Fin 2 × Act Request Choice) :=
  Sample.call first (.poll "wrk_1")
    (List.replicate 20 well) ++ (first, .crash) ::
    Sample.call first (.cancel "withdrawn") (List.replicate 5 well) ++
    Sample.call first (.poll "wrk_1")
      (List.replicate 12 { well with clock := 1000 }) ++
    Sample.call second (.poll "wrk_2") [{ well with clock := 5000 }] ++
    List.replicate 6 (first, .proceed { well with clock := 5000 })

/-- It is about to run the next compensation all the same. -/
theorem work_after_refusal :
    ∃ c : EngineConfig (Fin 2), (engine.runs saga.definition (Fin 2)).Reachable c ∧
      (viewOf c 0).rejected = true ∧ startsWork c 0 = true :=
  ⟨_, System.reachable_run (.init (Sample.init 2)) refusedRun, by decide +kernel, by decide +kernel⟩

structure InstanceContext.Within (c c' : InstanceContext) : Prop where
  signals : ∀ name, (c.signals name).isSome = true → (c'.signals name).isSome = true
  cancel : c.cancelRequested = true → c'.cancelRequested = true

namespace InstanceContext.Within

variable {a b c : InstanceContext}

theorem refl (c : InstanceContext) : c.Within c := ⟨fun _ h => h, fun h => h⟩

theorem trans (first : a.Within b) (second : b.Within c) : a.Within c :=
  ⟨fun name h => second.signals name (first.signals name h), fun h => second.cancel (first.cancel h)⟩

theorem of_same (signals : c.signals = b.signals) (cancel : c.cancel = b.cancel) : b.Within c := by
  refine ⟨fun name h => ?_, fun h => ?_⟩
  · rwa [signals]
  · unfold cancelRequested
    rwa [cancel]

theorem putSignal (c : InstanceContext) (name : String) (s : SignalRecord) :
    c.Within (c.putSignal name s) := by
  refine ⟨fun other h => ?_, fun h => h⟩
  change (Function.update c.signals name (some s) other).isSome = true
  by_cases here : other = name
  · rw [here, Function.update_self]
    rfl
  · rwa [Function.update_of_ne here]

end InstanceContext.Within

theorem isSome_putSignal (c : InstanceContext) (name : String) (s : SignalRecord) :
    ((c.putSignal name s).signals name).isSome = true := by
  change (Function.update c.signals name (some s) name).isSome = true
  rw [Function.update_self]
  rfl

variable (s : Store) (x : View)

/-- The call has read or written the instance under the stored lease. -/
def View.Current : Prop :=
  ∃ h, x.held = some h ∧ h.leaseEpoch = s.inst.leaseEpoch

def keepsSignals : Op → Prop
  | .saveInstance i => ∃ h, x.held = some h ∧ h.leaseEpoch = i.leaseEpoch ∧ h.context.Within i.context
  | _ => True

structure UpToDate (epoch : Nat) (context : InstanceContext) (h : Instance) : Prop where
  granted : h.leaseEpoch ≤ epoch
  stored : h.context.Within context
  whole : h.leaseEpoch = epoch → context.Within h.context

def KnowsSignals : Prop :=
  ∀ h, x.held = some h → UpToDate s.inst.leaseEpoch s.inst.context h

/-- No two calls are at work under the stored lease. -/
def OneCurrent (y : View) : Prop := ¬ (x.Current s ∧ y.Current s)

/-- The instance is read, but for the lease, only while no other call that has read it under the
stored lease is at work. -/
def readsInTurn (_ y : View) (o : Op) (_ : Choice) : Prop := o = .getInstance → ¬ y.Current s

section Effects

variable {s s' : Store} {x x' y z : View} {o : Op} {k : Choice}

theorem UpToDate.self (i : Instance) : UpToDate i.leaseEpoch i.context i :=
  ⟨le_rfl, .refl _, fun _ => .refl _⟩

theorem KnowsSignals.acts (h : KnowsSignals s x) (effect : Effect s x k o s' x') :
    KnowsSignals s' x' := by
  cases effect with
  | idle => exact fun i held => h i held
  | read | lease | save =>
    rintro i ⟨⟩
    exact .self _
  | refuse | miss | write => exact fun i held => h i held

theorem KnowsSignals.grows (h : KnowsSignals s x) (allowed : keepsSignals x o)
    (effect : Effect s x k o s' x') : s.inst.context.Within s'.inst.context := by
  cases effect with
  | save same =>
    obtain ⟨i, held, epoch, within⟩ := allowed
    exact ((h i held).whole (epoch.trans same)).trans within
  | _ => exact .refl _

theorem Effect.epoch (effect : Effect s x k o s' x') : s.inst.leaseEpoch ≤ s'.inst.leaseEpoch := by
  cases effect with
  | lease => exact Nat.le_succ _
  | save same => exact same.ge
  | _ => exact le_rfl

theorem KnowsSignals.bears (h : KnowsSignals s y) (within : s.inst.context.Within s'.inst.context)
    (effect : Effect s x k o s' x') (same : y.Current s → s'.inst.context = s.inst.context) :
    KnowsSignals s' y := by
  intro i held
  have known := h i held
  refine ⟨known.granted.trans effect.epoch, known.stored.trans within, fun current => ?_⟩
  have before : i.leaseEpoch = s.inst.leaseEpoch :=
    le_antisymm known.granted (current ▸ effect.epoch)
  rw [same ⟨i, held, before⟩]
  exact known.whole before

theorem View.Current.back (known : KnowsSignals s y) (effect : Effect s x k o s' x')
    (h : y.Current s') : y.Current s := by
  obtain ⟨i, held, epoch⟩ := h
  exact ⟨i, held, le_antisymm (known i held).granted (epoch ▸ effect.epoch)⟩

theorem View.Current.own (effect : Effect s x k o s' x') (allowed : keepsSignals x o)
    (h : x'.Current s') : x.Current s ∨ o = .getInstance ∨ s.inst.leaseEpoch < s'.inst.leaseEpoch := by
  cases effect with
  | idle => exact .inl h
  | read => exact .inr (.inl rfl)
  | lease => exact .inr (.inr (Nat.lt_succ_self _))
  | save same =>
    obtain ⟨i, held, epoch, _⟩ := allowed
    exact .inl ⟨i, held, epoch.trans same⟩
  | refuse | miss | write => exact .inl h

theorem KnowsSignals.stale (known : KnowsSignals s y)
    (newer : s.inst.leaseEpoch < s'.inst.leaseEpoch) : ¬ y.Current s' := by
  rintro ⟨i, held, epoch⟩
  exact absurd ((known i held).granted.trans_lt newer) (epoch ▸ lt_irrefl _)

theorem signals_bears (fitX : KnowsSignals s x) (fitY : KnowsSignals s y) (apart : OneCurrent s x y)
    (allowed : keepsSignals x o) (agreed : readsInTurn s x y o k) (effect : Effect s x k o s' x') :
    KnowsSignals s' y ∧ OneCurrent s' x' y := by
  refine ⟨fitY.bears (fitX.grows allowed effect) effect fun current => ?_, fun both => ?_⟩
  · cases effect with
    | save same =>
      obtain ⟨i, held, epoch, _⟩ := allowed
      exact absurd ⟨⟨i, held, epoch.trans same⟩, current⟩ apart
    | _ => rfl
  · rcases both.1.own effect allowed with current | read | newer
    · exact apart ⟨current, both.2.back fitY effect⟩
    · exact agreed read (both.2.back fitY effect)
    · exact fitY.stale newer both.2

theorem OneCurrent.symm (h : OneCurrent s x y) : OneCurrent s y x := fun both => h both.symm

theorem signals_beside (e : Engine) (d : Definition) :
    Beside View.observe View.fresh e.machine (fun s => Known e d s.inst) keepsSignals readsInTurn
      KnowsSignals OneCurrent := by
  have none : ∀ s, ¬ View.fresh.Current s := fun s ⟨_, held, _⟩ =>
    absurd held.symm (Option.some_ne_none _)
  refine beside_of_effects (fun s i held => absurd held.symm (Option.some_ne_none _))
    (fun s x => ⟨fun both => none s both.1, fun both => none s both.2⟩)
    (fun fit _ effect => fit.acts effect) (fun fitX fitY apart _ allowed agreed effect => ?_)
    (fun fitY fitZ apart effect both => ?_)
  · obtain ⟨fit, one⟩ := signals_bears fitX fitY apart allowed agreed effect
    exact ⟨fit, one, one.symm⟩
  · exact apart ⟨both.1.back fitY effect, both.2.back fitZ effect⟩

end Effects

/-! What a call does with what it knows. -/

/-- The worker's copy has every signal of what it last read or wrote. -/
structure Carried (x : View) (l : Local) (h : Instance) : Prop where
  held : x.held = some h
  epoch : h.leaseEpoch = l.inst.leaseEpoch
  own : h.context.Within l.inst.context
  decoded : h.context.Within l.cctx

def SignalsInv (x : View) : Stage → Prop
  | .arrived _ | .ended => True
  | .holding _ i | .leased i => x.held = some i
  | .answered (.signal name _) => ∃ h, x.held = some h ∧ (h.context.signals name).isSome = true
  | .answered (.cancel _) => ∃ h, x.held = some h ∧ h.context.cancelRequested = true
  | .answered _ => True
  | .ready l | .surveyed _ l | .fresh _ l | .running _ _ l | .executed _ _ _ l
  | .recorded _ _ _ l | .scheduled _ _ l | .condemned _ l | .succeeded _ l | .aborting _ _ l
  | .walking _ _ _ l | .interrupted l | .undoing _ _ _ _ _ l | .undone _ _ _ _ _ l
  | .rolledBack l => ∃ h, Carried x l h

section Moves

variable {e : Engine} {d : Definition} {x : View} {stage next : Stage} {i : Instance} {l l' : Local}
  {h : Instance}

theorem Carried.commit (carried : Carried x l h) (epoch : i.leaseEpoch = l.inst.leaseEpoch)
    (within : l.cctx.Within i.context ∨ l.inst.context.Within i.context) :
    keepsSignals x (.saveInstance i) := by
  refine ⟨h, carried.held, carried.epoch.trans epoch.symm, ?_⟩
  rcases within with within | within
  · exact carried.decoded.trans within
  · exact carried.own.trans within

theorem Carried.saved (x : View) (l : Local) : Carried (x.saves l.encoded.inst) l.encoded l.encoded.inst :=
  ⟨rfl, rfl, .refl _, .refl _⟩

theorem signals_turns (inv : SignalsInv x stage) (move : Turning d stage next) :
    SignalsInv x next := by
  cases move with
  | refused | returned => trivial
  | known present => exact ⟨_, inv, present⟩
  | requested present => exact ⟨_, inv, present⟩
  | polls | worked | resumed | swept | rests | stuck => trivial
  | _ => exact inv

theorem signals_saves (inv : SignalsInv x stage) (move : Saving e d stage i next) :
    Commits KnowsSignals keepsSignals SignalsInv x i next := by
  have own : ∀ c : InstanceContext, c.Within c := .refl
  cases move with
  | signals =>
    exact ⟨⟨_, inv, rfl, .putSignal _ _ _⟩, fun _ _ _ => ⟨_, rfl, isSome_putSignal _ _ _⟩⟩
  | cancels =>
    exact ⟨⟨_, inv, rfl, fun _ present => present, fun _ => rfl⟩, fun _ _ _ => ⟨_, rfl, rfl⟩⟩
  | pulls => exact ⟨⟨_, inv, rfl, own _⟩, fun _ _ _ => trivial⟩
  | requeues => exact ⟨⟨_, inv, rfl, .of_same rfl rfl⟩, fun _ _ _ => trivial⟩
  | handsBack => exact ⟨⟨_, inv, rfl, own _⟩, fun _ _ _ => trivial⟩
  | quarantines => exact ⟨⟨_, inv, rfl, .of_same rfl rfl⟩, fun _ _ _ => trivial⟩
  | counts => exact ⟨⟨_, inv, rfl, .of_same rfl rfl⟩, fun _ _ _ => ⟨_, .saved x _⟩⟩
  | releases | interrupts =>
    obtain ⟨h, carried⟩ := inv
    exact ⟨carried.commit rfl (.inr (own _)), fun _ _ _ => trivial⟩
  | @consumes step l sig gate delivered applied t =>
    obtain ⟨h, carried⟩ := inv
    have within := InstanceContext.Within.putSignal l.cctx step.signal (sig.consumed t)
    exact ⟨carried.commit rfl (.inl (within.trans (.of_same rfl rfl))), fun _ _ _ => ⟨_, .saved x _⟩⟩
  | @commits step l runAfter t =>
    obtain ⟨h, carried⟩ := inv
    have context := l.committed_context (d.nextStep step.name) runAfter t
    have epoch := congrArg Prod.fst (l.origin_committed (d.nextStep step.name) runAfter t)
    refine ⟨carried.commit epoch (.inl ?_), fun _ _ _ => ⟨_, rfl, rfl, own _, ?_⟩⟩
    · rw [context]
      exact own _
    · rw [context]
      exact own _
  | advances =>
    obtain ⟨h, carried⟩ := inv
    exact ⟨carried.commit rfl (.inl (own _)), fun _ _ _ => ⟨_, .saved x _⟩⟩
  | concludes | aborts =>
    obtain ⟨h, carried⟩ := inv
    exact ⟨carried.commit rfl (.inl (.of_same rfl rfl)), fun _ _ _ => ⟨_, .saved x _⟩⟩
  | settles =>
    obtain ⟨h, carried⟩ := inv
    exact ⟨carried.commit rfl (.inl (own _)), fun _ _ _ => ⟨_, .saved x _⟩⟩
  | _ =>
    obtain ⟨h, carried⟩ := inv
    exact ⟨carried.commit rfl (.inl (.of_same rfl rfl)), fun _ _ _ => trivial⟩

theorem signals_writes {row : StepRecord} (inv : SignalsInv x stage)
    (move : Writing e d stage row next) : SignalsInv (x.writes row) next := by
  cases move with
  | @passes step l sig out gate delivered plain seq t =>
    obtain ⟨h, carried⟩ := inv
    have within := InstanceContext.Within.putSignal l.cctx step.signal (sig.consumed t)
    exact ⟨h, carried.held, carried.epoch, carried.own,
      carried.decoded.trans (within.trans (.of_same rfl rfl))⟩
  | _ =>
    obtain ⟨h, carried⟩ := inv
    exact ⟨h, carried.held, carried.epoch, carried.own, carried.decoded.trans (.of_same rfl rfl)⟩

theorem signals_notes {row : StepRecord} (inv : SignalsInv x stage) (move : Noting e stage row next) :
    SignalsInv (x.writes row) next ∧ SignalsInv x next := by
  cases move with
  | abandons => exact ⟨trivial, trivial⟩
  | _ =>
    obtain ⟨h, carried⟩ := inv
    have decoded := fun c same other => carried.decoded.trans (.of_same (c := c) same other)
    exact ⟨⟨h, carried.held, carried.epoch, carried.own, decoded _ rfl rfl⟩,
      h, carried.held, carried.epoch, carried.own, decoded _ rfl rfl⟩

theorem signals_heeds (e : Engine) (d : Definition) :
    Heeds KnowsSignals keepsSignals SignalsInv e d where
  free := fun {_ o} free => by cases o <;> trivial
  ended _ := ⟨trivial, trivial⟩
  gets _ _ := rfl
  leases _ _ _ _ _ := rfl
  lists _ inv move := by cases move <;> exact inv
  turns := signals_turns
  saves := signals_saves
  writes inv move := ⟨trivial, fun _ _ => signals_writes inv move⟩
  notes inv move := ⟨⟨trivial, fun _ _ => (signals_notes inv move).1⟩, (signals_notes inv move).2⟩
  executes inv _ := ⟨trivial, fun _ => inv⟩
  beats := by
    rintro x step row execution l ⟨h, carried⟩ worker
    exact ⟨trivial, h, carried.held, carried.epoch, carried.own, carried.decoded⟩
  checkpoints := by
    rintro x step row execution l ⟨h, carried⟩ cctx key value rfl
    have decoded := carried.decoded.trans (.of_same
      (c := l.cctx.putProgress step.name key value) rfl rfl)
    exact ⟨⟨⟨h, carried.held, carried.epoch, decoded⟩, fun _ _ _ => ⟨_, .saved x _⟩⟩,
      ⟨h, carried.held, carried.epoch, carried.own, decoded⟩,
      h, carried.held, carried.epoch, carried.own, decoded⟩
  stops inv := inv
  tries inv := ⟨fun _ _ => trivial, inv⟩
  persists := by
    rintro x rows step record todo anyFailed l ⟨h, carried⟩ i rfl
    have decoded := carried.decoded.trans (.of_same
      (c := l.cctx.markCompensation step.name .done) rfl rfl)
    exact ⟨⟨⟨h, carried.held, carried.epoch, decoded⟩, fun _ _ _ => ⟨_, .saved x _⟩⟩,
      ⟨h, carried.held, carried.epoch, decoded, decoded⟩,
      fun _ _ _ => ⟨h, carried.held, carried.epoch, decoded, decoded⟩⟩

end Moves

/-- What a request that returned nil asked for is in the context. -/
def Granted (context : InstanceContext) : Request → Prop
  | .signal name _ => (context.signals name).isSome = true
  | .cancel _ => context.cancelRequested = true
  | _ => True

theorem Granted.grows {c c' : InstanceContext} (within : c.Within c') {r : Request}
    (h : Granted c r) : Granted c' r := by
  cases r with
  | signal name => exact within.signals name h
  | cancel => exact within.cancel h
  | _ => trivial

/-- Under `readsInTurn` what a signal or a cancellation asked for stays stored once its call
returned nil. -/
theorem granted_requests_stay {ι : Type} [DecidableEq ι] (e : Engine) (d : Definition)
    (c : EngineConfig ι)
    (h : (e.runs d ι).ReachableUnder (besides View.observe View.fresh readsInTurn) c) (i : ι)
    (r : Request) (returned : (i, .returned r (.ok ())) ∈ c.world.log) :
    Granted c.world.state.inst.context r := by
  have begins := (signals_heeds e d).program fun r => trivial
  refine (signals_beside e d).returned (fun _ reached => known_always reached) begins
    (fun s r answer => answer = .ok () → Granted s.inst.context r)
    (fun s r x answer fit post fine => ?_) (fun s x o k r answer _ fit allowed kept fine => ?_) h i r
    (.ok ()) returned rfl
  · have answered := post fine
    cases r with
    | signal name =>
      obtain ⟨held, known, present⟩ := answered
      exact (fit held known).stored.signals name present
    | cancel =>
      obtain ⟨held, known, present⟩ := answered
      exact (fit held known).stored.cancel present
    | _ => trivial
  · exact (kept fine).grows (fit.grows allowed (exec_effect s x o k))

/-- The call of `i` for `r` has returned nil. -/
def returnedNil {ι : Type} [DecidableEq ι] (c : EngineConfig ι) (i : ι) (r : Request) : Bool :=
  c.world.log.any fun entry =>
    match entry.2 with
    | .returned r' (.ok _) => decide (entry.1 = i ∧ r' = r)
    | _ => false

theorem mem_log_of_returnedNil {ι : Type} [DecidableEq ι] {c : EngineConfig ι} {i : ι} {r : Request}
    (h : returnedNil c i r = true) : (i, .returned r (.ok ())) ∈ c.world.log := by
  obtain ⟨⟨j, event⟩, mem, found⟩ := List.any_eq_true.mp h
  dsimp only at found
  split at found
  · obtain ⟨rfl, rfl⟩ := of_decide_eq_true found
    exact mem
  · exact absurd found Bool.false_ne_true

instance (s : Store) (x : View) : Decidable (x.Current s) :=
  match held : x.held with
  | none => isFalse fun ⟨_, given, _⟩ => absurd (held.symm.trans given).symm (Option.some_ne_none _)
  | some h => decidable_of_iff (h.leaseEpoch = s.inst.leaseEpoch)
      ⟨fun same => ⟨h, held, same⟩, fun ⟨_, given, same⟩ =>
        Option.some.inj (held.symm.trans given) ▸ same⟩

instance (s : Store) (x y : View) (o : Op) (k : Choice) : Decidable (readsInTurn s x y o k) :=
  match o with
  | .getInstance => decidable_of_iff (¬ y.Current s) ⟨fun free _ => free, fun free => free rfl⟩
  | .now | .stopping | .backoff _ _ | .pause _ | .leaseRunnable _ _ | .saveInstance _
  | .heartbeat _ _ _ | .saveStep _ | .listSteps | .pushDLQ _ _ | .execute _ _ | .compensate _ _ =>
    isTrue fun read => Op.noConfusion read

namespace Sample

def approved : SignalPayload where
  data := "\x7b\x7d"
  principal := "usr_1"
  scopes := []
  reason := "ok"
  sourceIP := ""
  idempotencyKey := "key_1"
  receivedAt := 50

end Sample

/-- A worker crashes, the signal is delivered, and another worker takes the instance up while the
first call is still about to return. -/
def betweenRun : List (Fin 2 × Act Request Choice) :=
  Sample.call first (.poll "wrk_1")
    (List.replicate 6 well) ++ (first, .crash) ::
    Sample.call second (.signal "approve" Sample.approved) (List.replicate 3 well) ++
    Sample.call first (.poll "wrk_2")
      (List.replicate 6 { well with clock := 1000 }) ++
    [(second, .proceed well)]

theorem granted_requests_stay_between :
    (engine.runs saga.definition (Fin 2)).Meets
      (besides View.observe View.fresh readsInTurn) (start 2) betweenRun ∧
    Granted ((engine.runs saga.definition (Fin 2)).run (start 2)
      betweenRun).world.state.inst.context (.signal "approve" Sample.approved) := by
  have meets : (engine.runs saga.definition (Fin 2)).Meets
      (besides View.observe View.fresh readsInTurn) (start 2) betweenRun := by
    decide +kernel
  have returned : returnedNil ((engine.runs saga.definition (Fin 2)).run
      (start 2) betweenRun) 1 (.signal "approve" Sample.approved) = true := by
    decide +kernel
  exact ⟨meets, granted_requests_stay engine saga.definition _
    (System.reachableUnder_run (.init (Sample.init 2)) betweenRun meets) 1 _
    (mem_log_of_returnedNil returned)⟩

/-- A signal is delivered and accepted while a worker is at work on the instance, which then
writes what it had read before. -/
def overwrittenRun : List (Fin 2 × Act Request Choice) :=
  Sample.call first (.poll "wrk_1") (List.replicate 7 well) ++
    Sample.call second (.signal "approve" Sample.approved) (List.replicate 4 well) ++
    List.replicate 4 (first, .proceed well)

/-- The accepted signal is gone. -/
theorem accepted_signal_lost :
    ∃ c : EngineConfig (Fin 2), (engine.runs saga.definition (Fin 2)).Reachable c ∧
      (1, .returned (.signal "approve" Sample.approved) (.ok ())) ∈ c.world.log ∧
      c.world.state.inst.context.signals "approve" = none :=
  ⟨_, System.reachable_run (.init (Sample.init 2)) overwrittenRun,
    mem_log_of_returnedNil (by decide +kernel), by decide +kernel⟩

section Leases

variable {ι : Type} [DecidableEq ι] (e : Engine) (d : Definition) {c : EngineConfig ι}

theorem step_epoch (c : EngineConfig ι) (label : ι × Act Request Choice) :
    c.world.state.inst.leaseEpoch ≤ (e.machine.step c label).world.state.inst.leaseEpoch := by
  rcases e.machine.step_cases c label.1 label.2 with
    same | ⟨_, _, _, moved⟩ | ⟨k, _, o, _, _, _, moved⟩ | ⟨_, _, _, _, _, moved⟩ | ⟨_, _, _, _, moved⟩
  · rw [same]
  all_goals rw [moved]
  exacts [le_rfl, (exec_effect c.world.state .fresh o k).epoch, le_rfl, le_rfl]

/-- A worker whose lease was taken over is fenced off for good: its writes of the instance and its
heartbeats are refused and leave every row as it is. -/
theorem fenced_for_good {i : Instance} (stale : i.leaseEpoch < c.world.state.inst.leaseEpoch)
    (labels : List (ι × Act Request Choice)) (worker : String) (extend : Int) (k : Choice) :
    let s := ((e.runs d ι).run c labels).world.state
    (∃ err, s.exec (.saveInstance i) k = (.error err, s)) ∧
      ∃ err, s.exec (.heartbeat worker i.leaseEpoch extend) k = (.error err, s) := by
  intro s
  have grown : c.world.state.inst.leaseEpoch ≤ s.inst.leaseEpoch :=
    System.run_rel (I := fun _ => True) (R := fun c c' : EngineConfig ι =>
        c.world.state.inst.leaseEpoch ≤ c'.world.state.inst.leaseEpoch)
      (fun _ _ _ => trivial) (fun _ => le_rfl) (fun _ _ _ => le_trans)
      (fun c label _ => step_epoch e c label) trivial labels
  have apart : i.leaseEpoch ≠ s.inst.leaseEpoch := (stale.trans_le grown).ne
  constructor
  · rcases exec_saveInstance (s := s) (c := k) i with ⟨_, _, done⟩ | ⟨same, _⟩ | ⟨_, done⟩
    exacts [⟨_, done⟩, absurd same apart, ⟨_, done⟩]
  · rcases exec_heartbeat (s := s) (c := k) worker i.leaseEpoch extend with
      ⟨_, _, done⟩ | ⟨same, _⟩ | done
    exacts [⟨_, done⟩, absurd same.symm apart, ⟨_, done⟩]

end Leases

/-- The first worker's lease is taken over at the tenth step. -/
theorem fenced_for_good_overtaken :
    let runs := engine.runs saga.definition (Fin 2)
    let s := (runs.run (runs.run (start 2) (overtakenRun.take 10)) (overtakenRun.drop 10)).world.state
    let i := Sample.store.inst.leasedBy "wrk_1" 30
    (∃ err, s.exec (.saveInstance i) well = (.error err, s)) ∧
      ∃ err, s.exec (.heartbeat "wrk_1" i.leaseEpoch 30) well = (.error err, s) :=
  fenced_for_good engine saga.definition (by decide +kernel) _ "wrk_1" 30 well

end PaymentsPlatform.Workflows
