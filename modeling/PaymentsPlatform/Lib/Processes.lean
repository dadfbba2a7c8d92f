/- layer: library
   digest: Programs of operations, processes that run them on a shared state, and the invariant
     rules for processes that take turns or run beside each other. -/

import Mathlib.Data.Fintype.Basic
import Mathlib.Logic.Basic
import PaymentsPlatform.Lib.TransitionSystem

namespace PaymentsPlatform.Lib.Operations

universe u v w x

/-- A program over the operations `Op`: it ends with a value, or performs an operation and
goes on with the answer. -/
inductive Program (Op : Type u) (Ans : Op → Type v) (α : Type w) : Type (max u v w)
  | done (a : α)
  | perform (o : Op) (next : Ans o → Program Op Ans α)

variable {Op : Type u} {Ans : Op → Type v} {σ : Type x} {ε α β : Type w}

namespace Program

def bind (p : Program Op Ans α) (f : α → Program Op Ans β) : Program Op Ans β :=
  match p with
  | .done a => f a
  | .perform o next => .perform o fun a => (next a).bind f

instance : Monad (Program Op Ans) where
  pure := .done
  bind := bind

end Program

def perform {Ans : Op → Type w} (o : Op) : Program Op Ans (Ans o) := .perform o .done

/-- What an operation needs of a state, and the answers and states it can lead to. -/
structure Semantics (Op : Type u) (Ans : Op → Type v) (σ : Type x) where
  demands : σ → Op → Prop
  moves : σ → (o : Op) → Ans o → σ → Prop

/-- Whatever the answers, every operation has what it demands, and the program ends as `post` says.
-/
def Guards (S : Semantics Op Ans σ) (post : σ → α → Prop) : Program Op Ans α → σ → Prop
  | .done a, s => post s a
  | .perform o next, s => S.demands s o ∧ ∀ a s', S.moves s o a s' → Guards S post (next a) s'

variable {S : Semantics Op Ans σ} {post : σ → α → Prop} {s : σ}

theorem guards_bind {then_ : σ → β → Prop} (p : Program Op Ans α) (f : α → Program Op Ans β) :
    Guards S then_ (p >>= f) s ↔ Guards S (fun s a => Guards S then_ (f a) s) p s := by
  induction p generalizing s with
  | done => exact Iff.rfl
  | perform o next ih =>
    refine and_congr_right' (forall_congr' fun a => forall_congr' fun s' => ?_)
    exact imp_congr_right fun _ => ih a

theorem Guards.mono {post' : σ → α → Prop} (weaker : ∀ s a, post s a → post' s a)
    {p : Program Op Ans α} (h : Guards S post p s) : Guards S post' p s := by
  induction p generalizing s with
  | done a => exact weaker s a h
  | perform o next ih => exact ⟨h.1, fun a s' moved => ih a (h.2 a s' moved)⟩

/-- The same for operations that demand less and tell more. -/
theorem Guards.transfer {S' : Semantics Op Ans σ}
    (moves : ∀ s o a s', S'.moves s o a s' → S.moves s o a s')
    (demands : ∀ s o, S.demands s o → S'.demands s o) {p : Program Op Ans α}
    (h : Guards S post p s) : Guards S' post p s := by
  induction p generalizing s with
  | done => exact h
  | perform o next ih =>
    exact ⟨demands s o h.1, fun a s' moved => ih a (h.2 a s' (moves s o a s' moved))⟩

/-- What is to hold at the end of a program that may fail. -/
def Settled (ok : σ → α → Prop) (error : σ → ε → Prop) (s : σ) : Except ε α → Prop
  | .ok a => ok s a
  | .error e => error s e

/-- `Guards` for programs that may fail, with a postcondition for each of the two ends. -/
def GuardsE (S : Semantics Op Ans σ) (ok : σ → α → Prop) (error : σ → ε → Prop)
    (p : ExceptT ε (Program Op Ans) α) (s : σ) : Prop :=
  Guards S (Settled ok error) p.run s

variable {ok : σ → α → Prop} {error : σ → ε → Prop} (p : ExceptT ε (Program Op Ans) α)

theorem guardsE_bind {then_ : σ → β → Prop} (f : α → ExceptT ε (Program Op Ans) β) :
    GuardsE S then_ error (p >>= f) s ↔
      GuardsE S (fun s a => GuardsE S then_ error (f a) s) error p s := by
  refine (guards_bind p.run _).trans ?_
  unfold GuardsE
  constructor
  · refine Guards.mono fun s r h => ?_
    cases r <;> exact h
  · refine Guards.mono fun s r h => ?_
    cases r <;> exact h

theorem GuardsE.mono {ok' : σ → α → Prop} {error' : σ → ε → Prop}
    (weaker : ∀ s a, ok s a → ok' s a) (weakerE : ∀ s e, error s e → error' s e)
    {p : ExceptT ε (Program Op Ans) α} (h : GuardsE S ok error p s) : GuardsE S ok' error' p s := by
  refine Guards.mono (fun s r h => ?_) h
  cases r with
  | ok a => exact weaker s a h
  | error e => exact weakerE s e h

theorem guardsE_lift (p : Program Op Ans α) :
    GuardsE S ok error (ExceptT.lift p) s ↔ Guards S ok p s := by
  refine (guards_bind p _).trans ?_
  exact Iff.rfl

/-- The outcome of a program that may fail, as a value. -/
def attempt : ExceptT ε (Program Op Ans) (Except ε α) :=
  ExceptT.lift p.run

theorem guardsE_attempt {ok : σ → Except ε α → Prop} :
    GuardsE S ok error (attempt p) s ↔ Guards S ok p.run s :=
  guardsE_lift p.run

end PaymentsPlatform.Lib.Operations

namespace PaymentsPlatform.Lib.Processes

open Lib.Operations Lib.TransitionSystem

/-- What a process does next: take up a request, perform the next operation, answered by `c`, or
return, or stop for good. -/
inductive Act (ρ κ : Type) where
  | start (r : ρ)
  | proceed (c : κ)
  | crash

inductive Event (Op : Type) (Ans : Op → Type) (σ ρ α : Type) where
  | began (r : ρ)
  | performed (before : σ) (o : Op) (a : Ans o)
  | returned (r : ρ) (a : α)
  | crashed (r : ρ)

/-- The program of each request, and what an operation answers and does to the state under
each choice. -/
structure Machine (Op : Type) (Ans : Op → Type) (σ ρ α κ : Type) where
  program : ρ → Program Op Ans α
  exec : σ → (o : Op) → κ → Ans o × σ

/-- The state, and everything that was done so far and by whom. -/
structure World (Op : Type) (Ans : Op → Type) (σ ρ α ι : Type) where
  state : σ
  log : List (ι × Event Op Ans σ ρ α)

/-- What every process is at: its request and the rest of its program. -/
structure Config (Op : Type) (Ans : Op → Type) (σ ρ α ι : Type) where
  world : World Op Ans σ ρ α ι
  own : ι → Option (ρ × Program Op Ans α)

section Processes

variable {Op : Type} {Ans : Op → Type} {σ ρ α κ ι τ : Type}

def World.note (w : World Op Ans σ ρ α ι) (i : ι) (event : Event Op Ans σ ρ α) :
    World Op Ans σ ρ α ι :=
  { w with log := w.log ++ [(i, event)] }

def World.after (w : World Op Ans σ ρ α ι) (i : ι) (o : Op) (answer : Ans o × σ) :
    World Op Ans σ ρ α ι :=
  { state := answer.2, log := w.log ++ [(i, .performed w.state o answer.1)] }

namespace Machine

variable [DecidableEq ι] (M : Machine Op Ans σ ρ α κ)

def step (c : Config Op Ans σ ρ α ι) (label : ι × Act ρ κ) : Config Op Ans σ ρ α ι :=
  match c.own label.1, label.2 with
  | none, .start r =>
    { world := c.world.note label.1 (.began r)
      own := Function.update c.own label.1 (some (r, M.program r)) }
  | some (r, .perform o next), .proceed k =>
    { world := c.world.after label.1 o (M.exec c.world.state o k)
      own := Function.update c.own label.1 (some (r, next (M.exec c.world.state o k).1)) }
  | some (r, .done a), .proceed _ =>
    { world := c.world.note label.1 (.returned r a), own := Function.update c.own label.1 none }
  | some (r, _), .crash =>
    { world := c.world.note label.1 (.crashed r), own := Function.update c.own label.1 none }
  | _, _ => c

def processes (start : σ → Prop) : System (Config Op Ans σ ρ α ι) (ι × Act ρ κ) where
  init c := start c.world.state ∧ c.world.log = [] ∧ ∀ i, c.own i = none
  step := M.step

theorem step_cases (c : Config Op Ans σ ρ α ι) (i : ι) (a : Act ρ κ) : M.step c (i, a) = c ∨
    (∃ r, a = .start r ∧ c.own i = none ∧ M.step c (i, a) =
      { world := c.world.note i (.began r)
        own := Function.update c.own i (some (r, M.program r)) }) ∨
    (∃ k r o next, a = .proceed k ∧ c.own i = some (r, .perform o next) ∧ M.step c (i, a) =
      { world := c.world.after i o (M.exec c.world.state o k)
        own := Function.update c.own i (some (r, next (M.exec c.world.state o k).1)) }) ∨
    (∃ k r v, a = .proceed k ∧ c.own i = some (r, .done v) ∧ M.step c (i, a) =
      { world := c.world.note i (.returned r v), own := Function.update c.own i none }) ∨
    ∃ r p, a = .crash ∧ c.own i = some (r, p) ∧ M.step c (i, a) =
      { world := c.world.note i (.crashed r), own := Function.update c.own i none } := by
  cases busy : c.own i with
  | none =>
    cases a with
    | start r => exact .inr (.inl ⟨r, rfl, rfl, by simp only [step, busy]⟩)
    | proceed | crash => exact .inl (by simp only [step, busy])
  | some job =>
    obtain ⟨r, p⟩ := job
    cases a with
    | start => exact .inl (by cases p <;> simp only [step, busy])
    | crash => exact .inr (.inr (.inr (.inr ⟨r, p, rfl, rfl, by cases p <;> simp only [step, busy]⟩)))
    | proceed k =>
      cases p with
      | done v => exact .inr (.inr (.inr (.inl ⟨k, r, v, rfl, rfl, by simp only [step, busy]⟩)))
      | perform o next =>
        exact .inr (.inr (.inl ⟨k, r, o, next, rfl, rfl, by simp only [step, busy]⟩))

end Machine

/-! An invariant of the state that needs no account of who did what. -/

section Blind

variable (M : Machine Op Ans σ ρ α κ) (B : σ → Prop) (safe : Op → Prop)
  (allowed : σ → Op → κ → Prop)

/-- What a process sees of states that `B` holds of. -/
def Machine.blind : Semantics Op Ans Unit where
  demands _ o := safe o
  moves _ o a _ := ∃ s k, B s ∧ a = (M.exec s o k).1

def Machine.guided : Semantics Op Ans Unit where
  demands _ o := safe o
  moves _ o a _ := ∃ s k, B s ∧ allowed s o k ∧ a = (M.exec s o k).1

def choices (c : Config Op Ans σ ρ α ι) (label : ι × Act ρ κ) : Prop :=
  match label.2, c.own label.1 with
  | .proceed k, some (_, .perform o _) => allowed c.world.state o k
  | _, _ => True

instance [∀ s o k, Decidable (allowed s o k)] (c : Config Op Ans σ ρ α ι) :
    ∀ label : ι × Act ρ κ, Decidable (choices allowed c label)
  | (_, .start _) => isTrue trivial
  | (_, .crash) => isTrue trivial
  | (i, .proceed k) =>
    match mine : c.own i with
    | none => isTrue (by simp only [choices, mine])
    | some (_, .done _) => isTrue (by simp only [choices, mine])
    | some (_, .perform o _) => decidable_of_iff (allowed c.world.state o k) (by
        simp only [choices, mine])

variable {M B safe allowed} {init : σ → Prop}

/-- `B` holds, and every operation that is about to be performed is safe. -/
theorem guided_invariant [DecidableEq ι] (first : ∀ s, init s → B s)
    (acts : ∀ s o k, B s → safe o → allowed s o k → B (M.exec s o k).2)
    (begins : ∀ r, Guards (M.guided B safe allowed) (fun _ _ => True) (M.program r) ())
    {c : Config Op Ans σ ρ α ι} (h : (M.processes init).ReachableUnder (choices allowed) c) :
    B c.world.state ∧ ∀ i r p, c.own i = some (r, p) →
      Guards (M.guided B safe allowed) (fun _ _ => True) p () := by
  refine System.ReachableUnder.invariant (P := fun c : Config Op Ans σ ρ α ι =>
    B c.world.state ∧ ∀ i r p, c.own i = some (r, p) →
      Guards (M.guided B safe allowed) (fun _ _ => True) p ())
    (fun c initial => ?_) (fun c label _ holds met => ?_) h
  · refine ⟨first _ initial.1, fun i r p mine => ?_⟩
    exact absurd (mine.symm.trans (initial.2.2 i)) (Option.some_ne_none _)
  · obtain ⟨i, a⟩ := label
    change B (M.step c (i, a)).world.state ∧ ∀ j r p, (M.step c (i, a)).own j = some (r, p) → _
    have elsewhere : ∀ {job} {q : Program Op Ans α → Prop}, (∀ r p, job = some (r, p) → q p) →
        (∀ j r p, c.own j = some (r, p) → q p) →
        ∀ j r p, Function.update c.own i job j = some (r, p) → q p := by
      intro job q mine theirs j r p found
      by_cases self : j = i
      · subst self
        rw [Function.update_self] at found
        exact mine r p found
      · rw [Function.update_of_ne self] at found
        exact theirs j r p found
    rcases M.step_cases c i a with same | ⟨r, rfl, idle, stepped⟩ |
      ⟨k, r, o, next, rfl, mine, stepped⟩ | ⟨k, r, v, rfl, mine, stepped⟩ |
      ⟨r, p, rfl, mine, stepped⟩
    · rw [same]
      exact holds
    · rw [stepped]
      refine ⟨holds.1, elsewhere (fun r' p found => ?_) holds.2⟩
      obtain ⟨rfl, rfl⟩ := Prod.mk.inj (Option.some.inj found)
      exact begins r
    · rw [stepped]
      have chosen : allowed c.world.state o k := by simpa only [choices, mine] using met
      have guards := holds.2 i r _ mine
      refine ⟨acts _ o k holds.1 guards.1 chosen, elsewhere (fun r' p found => ?_) holds.2⟩
      obtain ⟨rfl, rfl⟩ := Prod.mk.inj (Option.some.inj found)
      exact guards.2 _ () ⟨c.world.state, k, holds.1, chosen, rfl⟩
    · rw [stepped]
      exact ⟨holds.1, elsewhere (fun r p found => absurd found.symm (Option.some_ne_none _)) holds.2⟩
    · rw [stepped]
      exact ⟨holds.1, elsewhere (fun r p found => absurd found.symm (Option.some_ne_none _)) holds.2⟩

theorem state_invariant [DecidableEq ι] (first : ∀ s, init s → B s)
    (acts : ∀ s o k, B s → safe o → B (M.exec s o k).2)
    (begins : ∀ r, Guards (M.blind B safe) (fun _ _ => True) (M.program r) ())
    {c : Config Op Ans σ ρ α ι} (h : (M.processes init).Reachable c) : B c.world.state := by
  have free : (M.processes init).ReachableUnder (choices fun _ _ (_ : κ) => True) c := by
    refine System.ReachableUnder.mono (fun c label _ => ?_) h
    unfold choices
    split <;> trivial
  refine (guided_invariant first (fun s o k holds allowed _ => acts s o k holds allowed)
    (fun r => ?_) free).1
  have fewer : ∀ u o a u', (M.guided B safe fun _ _ _ => True).moves u o a u' →
      (M.blind B safe).moves u o a u' := by
    rintro _ o a _ ⟨s, k, holds, _, given⟩
    exact ⟨s, k, holds, given⟩
  exact Guards.transfer fewer (fun _ _ demanded => demanded) (begins r)

end Blind

section Turns

variable {γ : Type} (observe : γ → σ → (o : Op) → Ans o → γ) (start : γ)

def World.watched (w : World Op Ans σ ρ α ι) : σ × γ :=
  (w.state, w.log.foldl (fun g entry =>
    match entry.2 with
    | .performed s o a => observe g s o a
    | _ => g) start)

/-- What is asked of the requests, of the choices and of the crashes of a run. -/
structure Terms (Op τ ρ κ : Type) where
  starts : τ → ρ → Prop
  answers : τ → Op → κ → Prop
  crashes : τ → Prop

/-- The choice is allowed for what the process does next. -/
def Terms.allows (T : Terms Op τ ρ κ) (x : τ) (k : κ) : Option (ρ × Program Op Ans α) → Prop
  | some (_, .perform o _) => T.answers x o k
  | _ => True

/-- A process takes up a request only when no other is at work, and the terms are met. -/
def Terms.alone (T : Terms Op (σ × γ) ρ κ) (c : Config Op Ans σ ρ α ι) (label : ι × Act ρ κ) : Prop :=
  match label.2 with
  | .start r => (∀ j, (c.own j).isNone = true) ∧ T.starts (c.world.watched observe start) r
  | .proceed k => T.allows (c.world.watched observe start) k (c.own label.1)
  | .crash => T.crashes (c.world.watched observe start)

instance (T : Terms Op τ ρ κ) [∀ x o k, Decidable (T.answers x o k)] (x : τ) (k : κ) :
    ∀ job : Option (ρ × Program Op Ans α), Decidable (T.allows x k job)
  | none => isTrue trivial
  | some (_, .done _) => isTrue trivial
  | some (_, .perform o _) => inferInstanceAs (Decidable (T.answers x o k))

instance (T : Terms Op (σ × γ) ρ κ) [Fintype ι] [∀ x r, Decidable (T.starts x r)]
    [∀ x o k, Decidable (T.answers x o k)] [∀ x, Decidable (T.crashes x)]
    (c : Config Op Ans σ ρ α ι) : ∀ label : ι × Act ρ κ, Decidable (T.alone observe start c label)
  | (_, .start r) => inferInstanceAs (Decidable
      ((∀ j, (c.own j).isNone = true) ∧ T.starts (c.world.watched observe start) r))
  | (i, .proceed k) => inferInstanceAs (Decidable
      (T.allows (c.world.watched observe start) k (c.own i)))
  | (_, .crash) => inferInstanceAs (Decidable (T.crashes (c.world.watched observe start)))

/-- What one process sees while it is alone; `B` is known of the state. -/
def Machine.alone (M : Machine Op Ans σ ρ α κ) (T : Terms Op (σ × γ) ρ κ) (B : σ → Prop)
    (safe : σ × γ → Op → Prop) : Semantics Op Ans (σ × γ) where
  demands := safe
  moves x o a y := ∃ k, B x.1 ∧ T.answers x o k ∧ a = (M.exec x.1 o k).1 ∧
    y = ((M.exec x.1 o k).2, observe x.2 x.1 o a)

/-- No process is at work and `I` holds, or one is and its program has what it demands. -/
inductive TakesTurns (S : Semantics Op Ans (σ × γ)) (I : σ × γ → Prop) (c : Config Op Ans σ ρ α ι) :
    Prop
  | idle (free : ∀ i, c.own i = none) (h : I (c.world.watched observe start))
  | busy (i : ι) (r : ρ) (p : Program Op Ans α) (mine : c.own i = some (r, p))
      (free : ∀ j, j ≠ i → c.own j = none)
      (h : Guards S (fun x _ => I x) p (c.world.watched observe start))

variable {observe start} (w : World Op Ans σ ρ α ι) (i : ι)

theorem World.watched_after (o : Op) (answer : Ans o × σ) :
    (w.after i o answer).watched observe start =
      (answer.2, observe (w.watched observe start).2 w.state o answer.1) := by
  simp only [watched, after, List.foldl_append, List.foldl_cons, List.foldl_nil]

theorem World.watched_note (event : Event Op Ans σ ρ α) (quiet : ∀ s o a, event ≠ .performed s o a) :
    (w.note i event).watched observe start = w.watched observe start := by
  simp only [watched, note, List.foldl_append, List.foldl_cons, List.foldl_nil]

variable {M : Machine Op Ans σ ρ α κ} {T : Terms Op (σ × γ) ρ κ} {B : σ → Prop}
  {safe : σ × γ → Op → Prop} {I : σ × γ → Prop} {init : σ → Prop} {S : Semantics Op Ans (σ × γ)}
  {c : Config Op Ans σ ρ α ι}

theorem TakesTurns.only
    (h : TakesTurns observe start S I c) {i : ι} {r : ρ} {p : Program Op Ans α}
    (mine : c.own i = some (r, p)) : (∀ j, j ≠ i → c.own j = none) ∧
      Guards S (fun x _ => I x) p (c.world.watched observe start) := by
  cases h with
  | idle free _ => exact absurd (mine.symm.trans (free i)) (Option.some_ne_none _)
  | busy i' r' p' mine' free guards =>
    obtain rfl : i = i' := by
      by_contra apart
      exact absurd (mine.symm.trans (free i apart)) (Option.some_ne_none _)
    obtain ⟨rfl, rfl⟩ := Prod.mk.inj (Option.some.inj (mine.symm.trans mine'))
    exact ⟨free, guards⟩

/-- The invariant rule for processes that take turns: between two requests `I` holds, and a
process that crashes leaves it behind. -/
theorem takesTurns_invariant [DecidableEq ι]
    (known : ∀ c : Config Op Ans σ ρ α ι, (M.processes init).Reachable c → B c.world.state)
    (first : ∀ s, init s → I (s, start))
    (begins : ∀ x r, B x.1 → I x → T.starts x r →
      Guards (M.alone observe T B safe) (fun x _ => I x) (M.program r) x)
    (crashes : ∀ x, T.crashes x → ∀ o, safe x o → I x)
    (h : (M.processes init).ReachableUnder (T.alone observe start) c) :
    TakesTurns observe start (M.alone observe T B safe) I c := by
  refine System.ReachableUnder.invariant ?_ (fun c label reached taken met => ?_) h
  · intro c initial
    refine .idle initial.2.2 ?_
    have empty : c.world.watched observe start = (c.world.state, start) := by
      simp only [World.watched, initial.2.1, List.foldl_nil]
    rw [empty]
    exact first _ initial.1
  · obtain ⟨i, a⟩ := label
    have base : B (c.world.watched observe start).1 := known c reached.reachable
    change TakesTurns observe start _ I (M.step c (i, a))
    have others : ∀ {job}, (∀ j, j ≠ i → c.own j = none) →
        ∀ j, j ≠ i → Function.update c.own i job j = none := fun free j apart =>
      (Function.update_of_ne apart _ _).trans (free j apart)
    have freed : (∀ j, j ≠ i → c.own j = none) → ∀ j, Function.update c.own i none j = none := by
      intro free j
      by_cases self : j = i
      · rw [self]
        exact Function.update_self i _ _
      · exact others free j self
    rcases M.step_cases c i a with same | ⟨r, rfl, idle, stepped⟩ |
      ⟨k, r, o, next, rfl, mine, stepped⟩ | ⟨k, r, v, rfl, mine, stepped⟩ | ⟨r, p, rfl, mine, stepped⟩
    · rwa [same]
    · rw [stepped]
      have free : ∀ j, c.own j = none := fun j => Option.isNone_iff_eq_none.mp (met.1 j)
      cases taken with
      | busy i' r' p' mine' _ _ => exact absurd (mine'.symm.trans (free i')) (Option.some_ne_none _)
      | idle _ holds =>
        refine .busy i r _ (Function.update_self i _ _) (others fun j _ => free j) ?_
        rw [c.world.watched_note i (.began r) fun _ _ _ => nofun]
        exact begins _ r base holds met.2
    · rw [stepped]
      obtain ⟨free, guards⟩ := taken.only mine
      refine .busy i r _ (Function.update_self i _ _) (others free) ?_
      have allowed : T.answers (c.world.watched observe start) o k := by
        simpa only [Terms.alone, Terms.allows, mine] using met
      rw [World.watched_after]
      exact guards.2 _ _ ⟨k, base, allowed, rfl, rfl⟩
    · rw [stepped]
      obtain ⟨free, holds⟩ := taken.only mine
      refine .idle (freed free) ?_
      rw [c.world.watched_note i (.returned r v) fun _ _ _ => nofun]
      exact holds
    · rw [stepped]
      obtain ⟨free, guards⟩ := taken.only mine
      refine .idle (freed free) ?_
      rw [c.world.watched_note i (.crashed r) fun _ _ _ => nofun]
      cases p with
      | done => exact guards
      | perform o => exact crashes _ met o guards.1

/-- What holds between two requests and before every operation holds always. -/
theorem TakesTurns.always {P : σ × γ → Prop}
    (h : TakesTurns observe start S I c) (rest : ∀ x, I x → P x)
    (act : ∀ x o, S.demands x o → P x) : P (c.world.watched observe start) := by
  cases h with
  | idle _ holds => exact rest _ holds
  | busy i r p _ _ guards =>
    cases p with
    | done => exact rest _ guards
    | perform o => exact act _ o guards.1

theorem TakesTurns.next
    (h : TakesTurns observe start S I c) {i : ι} {r : ρ} {o : Op} {next : Ans o → Program Op Ans α}
    (mine : c.own i = some (r, .perform o next)) : S.demands (c.world.watched observe start) o :=
  (h.only mine).2.1

end Turns

/-! Processes that run beside each other. -/

section Beside

variable [DecidableEq ι] (observe : τ → σ → (o : Op) → Ans o → τ) (fresh : τ)

/-- What a process has noted of its own operations since it took up its request. -/
def World.seen (w : World Op Ans σ ρ α ι) (i : ι) : τ :=
  w.log.foldl (fun x entry =>
    if entry.1 = i then
      match entry.2 with
      | .began _ => fresh
      | .performed s o a => observe x s o a
      | _ => x
    else x) fresh

/-- A process performs an operation only if every other one at work allows it. -/
def besides (allows : σ → τ → τ → Op → κ → Prop) (c : Config Op Ans σ ρ α ι) (label : ι × Act ρ κ) :
    Prop :=
  match label.2, c.own label.1 with
  | .proceed k, some (_, .perform o _) => ∀ j, j ≠ label.1 → c.own j ≠ none →
      allows c.world.state (c.world.seen observe fresh label.1) (c.world.seen observe fresh j) o k
  | _, _ => True

instance [Fintype ι] (allows : σ → τ → τ → Op → κ → Prop) [∀ s x y o k, Decidable (allows s x y o k)]
    (c : Config Op Ans σ ρ α ι) :
    ∀ label : ι × Act ρ κ, Decidable (besides observe fresh allows c label)
  | (_, .start _) => isTrue trivial
  | (_, .crash) => isTrue trivial
  | (i, .proceed k) =>
    match mine : c.own i with
    | none => isTrue (by simp only [besides, mine])
    | some (_, .done _) => isTrue (by simp only [besides, mine])
    | some (_, .perform o _) => decidable_of_iff
        (∀ j, j ≠ i → c.own j ≠ none →
          allows c.world.state (c.world.seen observe fresh i) (c.world.seen observe fresh j) o k)
        (by simp only [besides, mine])

/-- What one process sees: every operation may find any state that fits what it has noted. -/
def Machine.beside (M : Machine Op Ans σ ρ α κ) (B : σ → Prop) (R : σ → τ → Prop)
    (safe : τ → Op → Prop) : Semantics Op Ans τ where
  demands := safe
  moves x o a y := ∃ s k, B s ∧ R s x ∧ a = (M.exec s o k).1 ∧ y = observe x s o a

/-- What a process has noted fits the state (`R`) and what another has noted (`Q`), and the
operations that are safe and allowed keep that. -/
structure Beside (M : Machine Op Ans σ ρ α κ) (B : σ → Prop) (safe : τ → Op → Prop)
    (allows : σ → τ → τ → Op → κ → Prop) (R : σ → τ → Prop) (Q : σ → τ → τ → Prop) : Prop where
  begins : ∀ s, R s fresh
  joins : ∀ s x, Q s fresh x ∧ Q s x fresh
  acts : ∀ s x o k, B s → R s x → safe x o →
    R (M.exec s o k).2 (observe x s o (M.exec s o k).1)
  bears : ∀ s x y o k, B s → R s x → R s y → Q s x y → Q s y x → safe x o → allows s x y o k →
    R (M.exec s o k).2 y ∧ Q (M.exec s o k).2 (observe x s o (M.exec s o k).1) y ∧
      Q (M.exec s o k).2 y (observe x s o (M.exec s o k).1)
  keeps : ∀ s y z o k, B s → R s y → R s z → Q s y z → Q (M.exec s o k).2 y z

structure Fits (S : Semantics Op Ans τ) (post : ρ → τ → α → Prop) (R : σ → τ → Prop)
    (Q : σ → τ → τ → Prop) (c : Config Op Ans σ ρ α ι) : Prop where
  each : ∀ i r p, c.own i = some (r, p) →
    R c.world.state (c.world.seen observe fresh i) ∧
      Guards S (post r) p (c.world.seen observe fresh i)
  pair : ∀ i j, i ≠ j → c.own i ≠ none → c.own j ≠ none →
    Q c.world.state (c.world.seen observe fresh i) (c.world.seen observe fresh j)

variable {observe fresh} (w : World Op Ans σ ρ α ι)

theorem World.seen_after (i : ι) (o : Op) (answer : Ans o × σ) (j : ι) :
    (w.after i o answer).seen observe fresh j =
      if i = j then observe (w.seen observe fresh j) w.state o answer.1
      else w.seen observe fresh j := by
  simp only [seen, after, List.foldl_append, List.foldl_cons, List.foldl_nil]

theorem World.seen_note (i j : ι) (event : Event Op Ans σ ρ α)
    (apart : i ≠ j) : (w.note i event).seen observe fresh j = w.seen observe fresh j := by
  simp only [seen, note, List.foldl_append, List.foldl_cons, List.foldl_nil, if_neg apart]

theorem World.seen_began (i : ι) (r : ρ) : (w.note i (.began r)).seen observe fresh i = fresh := by
  simp only [seen, note, List.foldl_append, List.foldl_cons, List.foldl_nil, if_true]

variable {M : Machine Op Ans σ ρ α κ} {B : σ → Prop} {safe : τ → Op → Prop}
  {allows : σ → τ → τ → Op → κ → Prop} {R : σ → τ → Prop} {Q : σ → τ → τ → Prop} {init : σ → Prop}
  {post : ρ → τ → α → Prop} {c : Config Op Ans σ ρ α ι} {S : Semantics Op Ans τ} {i : ι}

theorem Fits.fit (h : Fits observe fresh S post R Q c) (busy : c.own i ≠ none) :
    R c.world.state (c.world.seen observe fresh i) := by
  obtain ⟨⟨r, p⟩, mine⟩ := Option.ne_none_iff_exists'.mp busy
  exact (h.each i r p mine).1

theorem Fits.stops (h : Fits observe fresh S post R Q c) (i : ι) (event : Event Op Ans σ ρ α) :
    Fits observe fresh S post R Q
      { world := c.world.note i event, own := Function.update c.own i none } := by
  have other : ∀ j, Function.update c.own i none j ≠ none → i ≠ j ∧ c.own j ≠ none := by
    intro j busy
    by_cases self : j = i
    · subst self
      exact absurd (Function.update_self j none c.own) busy
    · exact ⟨Ne.symm self, by rwa [Function.update_of_ne self] at busy⟩
  constructor
  · intro j r p mine
    dsimp only at mine ⊢
    obtain ⟨apart, _⟩ := other j (by rw [mine]; exact Option.some_ne_none _)
    rw [World.seen_note _ _ _ _ apart]
    exact h.each j r p (by rwa [Function.update_of_ne (Ne.symm apart)] at mine)
  · intro j k apart busyJ busyK
    obtain ⟨apartJ, busyJ⟩ := other j busyJ
    obtain ⟨apartK, busyK⟩ := other k busyK
    dsimp only
    rw [World.seen_note _ _ _ _ apartJ, World.seen_note _ _ _ _ apartK]
    exact h.pair j k apart busyJ busyK

variable {r : ρ}

theorem Fits.starts (stable : Beside observe fresh M B safe allows R Q)
    (h : Fits observe fresh S post R Q c)
    (begins : Guards S (post r) (M.program r) fresh) :
    Fits observe fresh S post R Q
      { world := c.world.note i (.began r)
        own := Function.update c.own i (some (r, M.program r)) } := by
  constructor
  · intro j r' p mine
    dsimp only at mine ⊢
    by_cases self : j = i
    · subst self
      rw [Function.update_self] at mine
      obtain ⟨rfl, rfl⟩ := Prod.mk.inj (Option.some.inj mine)
      rw [World.seen_began]
      exact ⟨stable.begins _, begins⟩
    · rw [Function.update_of_ne self] at mine
      rw [World.seen_note _ _ _ _ (Ne.symm self)]
      exact h.each j r' p mine
  · intro j k apart busyJ busyK
    dsimp only at busyJ busyK ⊢
    by_cases left : j = i
    · subst left
      rw [World.seen_began]
      exact (stable.joins _ _).1
    · by_cases right : k = i
      · subst right
        rw [World.seen_began]
        exact (stable.joins _ _).2
      · rw [World.seen_note _ _ _ _ (Ne.symm left), World.seen_note _ _ _ _ (Ne.symm right)]
        rw [Function.update_of_ne left] at busyJ
        rw [Function.update_of_ne right] at busyK
        exact h.pair j k apart busyJ busyK

theorem Fits.performs (stable : Beside observe fresh M B safe allows R Q)
    (h : Fits observe fresh (M.beside observe B R safe) post R Q c) (base : B c.world.state)
    {o : Op} {next : Ans o → Program Op Ans α} (k : κ)
    (mine : c.own i = some (r, .perform o next))
    (allowed : ∀ j, j ≠ i → c.own j ≠ none →
      allows c.world.state (c.world.seen observe fresh i) (c.world.seen observe fresh j) o k) :
    Fits observe fresh (M.beside observe B R safe) post R Q
      { world := c.world.after i o (M.exec c.world.state o k)
        own := Function.update c.own i (some (r, next (M.exec c.world.state o k).1)) } := by
  obtain ⟨fit, guards⟩ := h.each i r _ mine
  have busy : c.own i ≠ none := by
    rw [mine]
    exact Option.some_ne_none _
  have bears := fun j (apart : j ≠ i) (busyJ : c.own j ≠ none) =>
    stable.bears c.world.state _ _ o k base fit (h.fit busyJ)
      (h.pair i j (Ne.symm apart) busy busyJ) (h.pair j i apart busyJ busy) guards.1
      (allowed j apart busyJ)
  have self : (c.world.after i o (M.exec c.world.state o k)).seen observe fresh i =
      observe (c.world.seen observe fresh i) c.world.state o (M.exec c.world.state o k).1 := by
    rw [World.seen_after, if_pos rfl]
  have other : ∀ j, j ≠ i → (c.world.after i o (M.exec c.world.state o k)).seen observe fresh j =
      c.world.seen observe fresh j := fun j apart => by
    rw [World.seen_after, if_neg (Ne.symm apart)]
  constructor
  · intro j r' p' theirs
    dsimp only at theirs ⊢
    by_cases same : j = i
    · subst same
      rw [Function.update_self] at theirs
      obtain ⟨rfl, rfl⟩ := Prod.mk.inj (Option.some.inj theirs)
      rw [self]
      exact ⟨stable.acts _ _ o k base fit guards.1,
        guards.2 _ _ ⟨c.world.state, k, base, fit, rfl, rfl⟩⟩
    · rw [Function.update_of_ne same] at theirs
      rw [other j same]
      refine ⟨(bears j same ?_).1, (h.each j r' p' theirs).2⟩
      rw [theirs]
      exact Option.some_ne_none _
  · intro j l apart busyJ busyL
    dsimp only at busyJ busyL ⊢
    by_cases left : j = i
    · subst left
      rw [Function.update_of_ne (Ne.symm apart)] at busyL
      rw [self, other l (Ne.symm apart)]
      exact (bears l (Ne.symm apart) busyL).2.1
    · rw [Function.update_of_ne left] at busyJ
      by_cases right : l = i
      · subst right
        rw [self, other j left]
        exact (bears j left busyJ).2.2
      · rw [Function.update_of_ne right] at busyL
        rw [other j left, other l right]
        exact stable.keeps _ _ _ o k base (h.fit busyJ) (h.fit busyL) (h.pair j l apart busyJ busyL)

theorem Beside.invariant (stable : Beside observe fresh M B safe allows R Q)
    (known : ∀ c : Config Op Ans σ ρ α ι, (M.processes init).Reachable c → B c.world.state)
    (begins : ∀ r, Guards (M.beside observe B R safe) (post r) (M.program r) fresh)
    (h : (M.processes init).ReachableUnder (besides observe fresh allows) c) :
    Fits observe fresh (M.beside observe B R safe) post R Q c := by
  refine System.ReachableUnder.invariant ?_ (fun c label reached fits met => ?_) h
  · intro c initial
    refine ⟨fun i r p mine => ?_, fun i j _ busy _ => absurd (initial.2.2 i) busy⟩
    exact absurd (mine.symm.trans (initial.2.2 i)) (Option.some_ne_none _)
  · obtain ⟨i, a⟩ := label
    change Fits observe fresh _ post R Q (M.step c (i, a))
    rcases M.step_cases c i a with same | ⟨r, rfl, idle, stepped⟩ |
      ⟨k, r, o, next, rfl, mine, stepped⟩ | ⟨k, r, v, rfl, mine, stepped⟩ | ⟨r, p, rfl, mine, stepped⟩
    · rwa [same]
    · rw [stepped]
      exact fits.starts stable (begins r)
    · rw [stepped]
      exact fits.performs stable (known c reached.reachable) k mine (by
        simpa only [besides, mine] using met)
    · rw [stepped]
      exact fits.stops i _
    · rw [stepped]
      exact fits.stops i _

/-- Every operation that is about to be performed is safe for what its process has noted. -/
theorem Fits.next {safe : τ → Op → Prop} (h : Fits observe fresh (M.beside observe B R safe) post R Q c)
    {o : Op} {next : Ans o → Program Op Ans α}
    (mine : c.own i = some (r, .perform o next)) :
    R c.world.state (c.world.seen observe fresh i) ∧ safe (c.world.seen observe fresh i) o :=
  ⟨(h.each i r _ mine).1, (h.each i r _ mine).2.1⟩

theorem Beside.returned (stable : Beside observe fresh M B safe allows R Q)
    (known : ∀ c : Config Op Ans σ ρ α ι, (M.processes init).Reachable c → B c.world.state)
    (begins : ∀ r, Guards (M.beside observe B R safe) (post r) (M.program r) fresh)
    (kept : σ → ρ → α → Prop) (ends : ∀ s r x v, R s x → post r x v → kept s r v)
    (lasts : ∀ s x o k r v, B s → R s x → safe x o → kept s r v → kept (M.exec s o k).2 r v)
    (h : (M.processes init).ReachableUnder (besides observe fresh allows) c) :
    ∀ i r v, (i, Event.returned r v) ∈ c.world.log → kept c.world.state r v := by
  refine System.ReachableUnder.invariant (P := fun c : Config Op Ans σ ρ α ι =>
    ∀ i r v, (i, Event.returned r v) ∈ c.world.log → kept c.world.state r v) ?_
    (fun c label reached holds met => ?_) h
  · intro c initial i r v mem
    rw [initial.2.1] at mem
    exact absurd mem List.not_mem_nil
  · obtain ⟨i, a⟩ := label
    have fits := stable.invariant known begins reached
    intro j r' v' mem
    change (j, Event.returned r' v') ∈ (M.step c (i, a)).world.log at mem
    change kept (M.step c (i, a)).world.state r' v'
    rcases M.step_cases c i a with same | ⟨r, rfl, idle, stepped⟩ |
      ⟨k, r, o, next, rfl, mine, stepped⟩ | ⟨k, r, v, rfl, mine, stepped⟩ | ⟨r, p, rfl, mine, stepped⟩
    · rw [same] at mem ⊢
      exact holds j r' v' mem
    · rw [stepped] at mem ⊢
      rcases List.mem_append.mp mem with earlier | new
      · exact holds j r' v' earlier
      · cases List.mem_singleton.mp new
    · rw [stepped] at mem ⊢
      rcases List.mem_append.mp mem with earlier | new
      · obtain ⟨fit, allowed⟩ := fits.next mine
        exact lasts _ _ o k r' v' (known c reached.reachable) fit allowed (holds j r' v' earlier)
      · cases List.mem_singleton.mp new
    · rw [stepped] at mem ⊢
      rcases List.mem_append.mp mem with earlier | new
      · exact holds j r' v' earlier
      · obtain ⟨_, event⟩ := Prod.mk.inj (List.mem_singleton.mp new)
        obtain ⟨rfl, rfl⟩ := Event.returned.inj event
        obtain ⟨fit, done⟩ := fits.each i _ _ mine
        exact ends _ _ _ _ fit done
    · rw [stepped] at mem ⊢
      rcases List.mem_append.mp mem with earlier | new
      · exact holds j r' v' earlier
      · cases List.mem_singleton.mp new

end Beside

end Processes

end PaymentsPlatform.Lib.Processes
