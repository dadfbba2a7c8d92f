/- layer: general library
   digest: Commands that keep their state when they fail, and rules of pre- and postconditions
     for them. -/

import Mathlib.Tactic.Common

namespace PaymentsPlatform.Lib

/-- A command over a state.  It hands back a value or an error, and what was written before a
failure stays written. -/
def Procedure (σ ε α : Type) : Type := σ → σ × Except ε α

namespace Procedure

variable {σ ε α β : Type}

instance : Monad (Procedure σ ε) where
  pure a := fun s => (s, .ok a)
  bind c f := fun s =>
    match c s with
    | (s', .ok a) => f a s'
    | (s', .error e) => (s', .error e)

def fail (e : ε) : Procedure σ ε α := fun s => (s, .error e)

/-- Stop when a collaborator reports an error. -/
def orFail : Option ε → Procedure σ ε Unit
  | none => pure ()
  | some e => fail e

def read (f : σ → α) : Procedure σ ε α := fun s => (s, .ok (f s))

variable (f : σ → σ) (c : Procedure σ ε α)

def modify : Procedure σ ε Unit := fun s => (f s, .ok ())

/-- Run a command and hand its error back as a value. -/
def attempt : Procedure σ ε (Except ε α) := fun s =>
  ((c s).1, .ok (c s).2)

def ofExcept (r : Except ε α) : Procedure σ ε α := fun s => (s, r)

/-- Run a command and, if it failed, a state change. -/
def onFailure : Procedure σ ε α := fun s =>
  match c s with
  | (s', .ok a) => (s', .ok a)
  | (s', .error e) => (f s', .error e)

/-- Run a command and go on as if it had succeeded when its error is benign. -/
def ignoring (benign : ε → Bool) (c : Procedure σ ε Unit) : Procedure σ ε Unit := fun s =>
  match c s with
  | (s', .ok ()) => (s', .ok ())
  | (s', .error e) => if benign e then (s', .ok ()) else (s', .error e)

/-- Run a command and then, whether it failed or not, a state change. -/
def deferring : Procedure σ ε α := fun s =>
  (f (c s).1, (c s).2)

theorem bind_of_ok {c : Procedure σ ε β} {f : β → Procedure σ ε α} {s s' : σ} {b : β}
    (h : c s = (s', .ok b)) : (c >>= f) s = f b s' := by
  show (match c s with
    | (s', .ok b) => f b s'
    | (s', .error e) => (s', .error e)) = f b s'
  rw [h]

theorem bind_of_error {c : Procedure σ ε β} {f : β → Procedure σ ε α} {s s' : σ} {e : ε}
    (h : c s = (s', .error e)) : (c >>= f) s = (s', .error e) := by
  show (match c s with
    | (s', .ok b) => f b s'
    | (s', .error e) => (s', .error e)) = (s', .error e)
  rw [h]

section Steps

variable {s : σ}

theorem bind_read {f : σ → β} {k : β → Procedure σ ε α} : (read f >>= k) s = k (f s) s := rfl

theorem bind_orFail_none {k : Unit → Procedure σ ε α} : (orFail none >>= k) s = k () s := rfl

end Steps

/-- A deferred change splits: what fails first meets it at once, and the rest runs under it. -/
theorem deferring_bind (f : σ → σ) (c : Procedure σ ε β) (k : β → Procedure σ ε α) :
    deferring f (c >>= k) = onFailure f c >>= fun b => deferring f (k b) := by
  funext s
  rcases ran : c s with ⟨s', e | b⟩
  · have failed : onFailure f c s = (f s', .error e) := by rw [onFailure, ran]
    rw [deferring, bind_of_error ran, bind_of_error failed]
  · have opened : onFailure f c s = (s', .ok b) := by rw [onFailure, ran]
    rw [deferring, bind_of_ok ran, bind_of_ok opened, deferring]

/-- Commands compose as the monad laws say. -/
instance : LawfulMonad (Procedure σ ε) := by
  refine LawfulMonad.mk' _ (fun c => ?_) (fun a f => rfl) fun c f g => ?_
  · funext s
    rcases ran : c s with ⟨s', e | a⟩
    · exact bind_of_error ran
    · exact bind_of_ok ran
  · funext s
    rcases ran : c s with ⟨s', e | a⟩
    · rw [bind_of_error ran]
      exact bind_of_error (bind_of_error ran)
    · rw [bind_of_ok ran]
      show (c >>= f >>= g) s = (f a >>= g) s'
      rcases next : f a s' with ⟨s'', e | b⟩
      · rw [bind_of_error next, bind_of_error ((bind_of_ok ran).trans next)]
      · rw [bind_of_ok next, bind_of_ok ((bind_of_ok ran).trans next)]

/-- From a state in `P` the command returns a value and a state in `Q`, or an error and
a state in `E`. -/
def Triple (P : σ → Prop) (c : Procedure σ ε α) (Q : α → σ → Prop) (E : ε → σ → Prop) : Prop :=
  ∀ s, P s → match c s with
    | (s', .ok a) => Q a s'
    | (s', .error e) => E e s'

namespace Triple

variable {P P' : σ → Prop} {Q Q' : α → σ → Prop} {E E' : ε → σ → Prop}

theorem pure {a : α} (h : ∀ s, P s → Q a s) : Triple P (pure a : Procedure σ ε α) Q E :=
  fun s pre => h s pre

theorem fail {e : ε} (h : ∀ s, P s → E e s) : Triple P (Procedure.fail e : Procedure σ ε α) Q E :=
  fun s pre => h s pre

variable {f : σ → σ}

theorem modify {Q : Unit → σ → Prop} (h : ∀ s, P s → Q () (f s)) :
    Triple P (Procedure.modify f : Procedure σ ε Unit) Q E :=
  fun s pre => h s pre

theorem read {f : σ → α} (h : ∀ s, P s → Q (f s) s) :
    Triple P (Procedure.read f : Procedure σ ε α) Q E :=
  fun s pre => h s pre

theorem reading {f : σ → α} : Triple P (Procedure.read f : Procedure σ ε α) (fun _ => P) E :=
  Triple.read fun _ pre => pre

/-- Sequencing: the middle assertion is what the first command leaves on success. -/
theorem bind {R : β → σ → Prop} {c : Procedure σ ε β} {f : β → Procedure σ ε α}
    (first : Triple P c R E) (rest : ∀ b, Triple (R b) (f b) Q E) : Triple P (c >>= f) Q E := by
  intro s pre
  have ran := first s pre
  show match (match c s with
    | (s', .ok b) => f b s'
    | (s', .error e) => (s', .error e)) with
    | (s', .ok a) => Q a s'
    | (s', .error e) => E e s'
  rcases h : c s with ⟨s', _ | b⟩
  · rw [h] at ran
    exact ran
  · rw [h] at ran
    exact rest b s' ran

variable {c : Procedure σ ε α}

theorem weaken (h : Triple P c Q E) (pre : ∀ s, P' s → P s)
    (post : ∀ a s, Q a s → Q' a s) (error : ∀ e s, E e s → E' e s) : Triple P' c Q' E' := by
  intro s holds
  have ran := h s (pre s holds)
  rcases done : c s with ⟨s', _ | a⟩
  · rw [done] at ran
    exact error _ _ ran
  · rw [done] at ran
    exact post _ _ ran

theorem of_exists {ι : Sort*} {P : ι → σ → Prop}
    (h : ∀ x, Triple (P x) c Q E) : Triple (fun s => ∃ x, P x s) c Q E :=
  fun s ⟨x, pre⟩ => h x s pre

theorem of_fact {p : Prop} (h : p → Triple P c Q E) : Triple (fun s => p ∧ P s) c Q E :=
  fun s ⟨fact, pre⟩ => h fact s pre

/-- A collaborator's error ends the command; nothing is written either way. -/
theorem orFail {r : Option ε} {Q : Unit → σ → Prop} (h : r = none → ∀ s, P s → Q () s)
    (error : ∀ e s, P s → E e s) : Triple P (Procedure.orFail r : Procedure σ ε Unit) Q E := by
  cases r with
  | none => exact Triple.pure (h rfl)
  | some e => exact Triple.fail (error e)

/-- The error of an attempted command is an ordinary value to what follows. -/
theorem attempt {R : Except ε α → σ → Prop}
    (h : Triple P c (fun a => R (.ok a)) (fun e => R (.error e))) :
    Triple P (Procedure.attempt c) R E := by
  intro s pre
  have ran := h s pre
  show R (c s).2 (c s).1
  rcases done : c s with ⟨s', _ | a⟩
  · rw [done] at ran
    exact ran
  · rw [done] at ran
    exact ran

theorem ofExcept {r : Except ε α} (h : ∀ a s, r = .ok a → P s → Q a s)
    (error : ∀ e s, P s → E e s) : Triple P (Procedure.ofExcept r : Procedure σ ε α) Q E := by
  intro s pre
  cases r with
  | error e => exact error e s pre
  | ok a => exact h a s rfl pre

theorem onFailure
    (h : Triple P c Q (fun e s => E e (f s))) : Triple P (Procedure.onFailure f c) Q E := by
  intro s pre
  have ran := h s pre
  unfold Procedure.onFailure
  rcases done : c s with ⟨s', _ | a⟩
  · rw [done] at ran
    exact ran
  · rw [done] at ran
    exact ran

theorem ignoring {benign : ε → Bool} {c : Procedure σ ε Unit} {Q : Unit → σ → Prop}
    (h : Triple P c Q (fun e s => if benign e then Q () s else E e s)) :
    Triple P (Procedure.ignoring benign c) Q E := by
  intro s pre
  have ran := h s pre
  unfold Procedure.ignoring
  rcases done : c s with ⟨s', e | u⟩
  · rw [done] at ran
    cases tolerated : benign e with
    | true | false => simpa [tolerated] using ran
  · rw [done] at ran
    exact ran

theorem deferring (h : Triple P c (fun a s => Q a (f s)) (fun e s => E e (f s))) :
    Triple P (Procedure.deferring f c) Q E := by
  intro s pre
  have ran := h s pre
  show match (f (c s).1, (c s).2) with
    | (s', .ok a) => Q a s'
    | (s', .error e) => E e s'
  rcases done : c s with ⟨s', _ | a⟩
  · rw [done] at ran
    exact ran
  · rw [done] at ran
    exact ran

/-- An assertion that is established however the command ends is about the state it leaves. -/
theorem iff_state {P I : σ → Prop} : Triple P c (fun _ => I) (fun _ => I) ↔ ∀ s, P s → I (c s).1 := by
  refine forall₂_congr fun s _ => ?_
  rcases c s with ⟨s', _ | a⟩
  · exact Iff.rfl
  · exact Iff.rfl

end Triple

/-- The command keeps an assertion, whether it fails or not. -/
def Keeps (I : σ → Prop) (c : Procedure σ ε α) : Prop := Triple I c (fun _ => I) (fun _ => I)

namespace Keeps

variable {I : σ → Prop}

theorem bind {c : Procedure σ ε β} {f : β → Procedure σ ε α} (first : Keeps I c)
    (rest : ∀ b, Keeps I (f b)) : Keeps I (c >>= f) :=
  Triple.bind first rest

theorem pure {a : α} : Keeps I (pure a : Procedure σ ε α) := Triple.pure fun _ h => h

theorem fail {e : ε} : Keeps I (Procedure.fail e : Procedure σ ε α) := Triple.fail fun _ h => h

theorem orFail {r : Option ε} : Keeps I (Procedure.orFail r : Procedure σ ε Unit) :=
  Triple.orFail (fun _ _ h => h) fun _ _ h => h

theorem modify {f : σ → σ} (h : ∀ s, I s → I (f s)) :
    Keeps I (Procedure.modify f : Procedure σ ε Unit) :=
  Triple.modify h

theorem read {f : σ → α} : Keeps I (Procedure.read f : Procedure σ ε α) :=
  Triple.read fun _ h => h

/-- Keeping an assertion is about the state a command leaves, not about what it returns. -/
theorem iff_state {c : Procedure σ ε α} : Keeps I c ↔ ∀ s, I s → I (c s).1 := Triple.iff_state

end Keeps

/-- The command moves the state along a relation, whether it fails or not. -/
def Moves (R : σ → σ → Prop) (c : Procedure σ ε α) : Prop := ∀ s, R s (c s).1

namespace Moves

variable {R : σ → σ → Prop} [Std.Refl R] [IsTrans σ R]

omit [IsTrans σ R] in
theorem pure {a : α} : Moves R (pure a : Procedure σ ε α) := fun s => Std.Refl.refl s

omit [IsTrans σ R] in
theorem fail {e : ε} : Moves R (Procedure.fail e : Procedure σ ε α) := fun s => Std.Refl.refl s

omit [IsTrans σ R] in
theorem read {f : σ → α} : Moves R (Procedure.read f : Procedure σ ε α) :=
  fun s => Std.Refl.refl s

omit [IsTrans σ R] in
theorem orFail {r : Option ε} : Moves R (Procedure.orFail r : Procedure σ ε Unit) := by
  cases r with
  | none => exact Moves.pure
  | some => exact Moves.fail

omit [Std.Refl R] in
theorem bind {c : Procedure σ ε β} {f : β → Procedure σ ε α} (first : Moves R c)
    (rest : ∀ b, Moves R (f b)) : Moves R (c >>= f) := by
  intro s
  have ran := first s
  show R s (match c s with
    | (s', .ok b) => f b s'
    | (s', .error e) => (s', .error e)).1
  rcases done : c s with ⟨s', _ | b⟩
  · rw [done] at ran
    exact ran
  · rw [done] at ran
    exact IsTrans.trans s s' _ ran (rest b s')

omit [Std.Refl R] [IsTrans σ R] in
theorem ignoring {benign : ε → Bool} {c : Procedure σ ε Unit} (h : Moves R c) :
    Moves R (Procedure.ignoring benign c) := by
  intro s
  have ran := h s
  unfold Procedure.ignoring
  rcases done : c s with ⟨s', e | u⟩
  · rw [done] at ran
    dsimp only
    split
    · exact ran
    · exact ran
  · rw [done] at ran
    exact ran

omit [IsTrans σ R] in
/-- A command that keeps having moved along `R` moves along `R`. -/
theorem of_keeps {c : Procedure σ ε α} (h : ∀ s, Keeps (R s) c) : Moves R c :=
  fun s => Keeps.iff_state.mp (h s) s (Std.Refl.refl s)

omit [Std.Refl R] in
theorem keeps {c : Procedure σ ε α} (h : Moves R c) (start : σ) : Keeps (R start) c :=
  Keeps.iff_state.mpr fun s before => IsTrans.trans start s _ before (h s)

end Moves

/-- An assertion that survives every move along `R` can be carried through a command that
moves along `R`. -/
theorem Triple.alongside {R : σ → σ → Prop} {I : σ → Prop} {P : σ → Prop}
    {Q : α → σ → Prop} {E : ε → σ → Prop} {c : Procedure σ ε α} (h : Triple P c Q E)
    (moves : Moves R c) (survives : ∀ s s', I s → R s s' → I s') :
    Triple (fun s => I s ∧ P s) c (fun a s => I s ∧ Q a s) (fun e s => I s ∧ E e s) := by
  rintro s ⟨holds, pre⟩
  have ran := h s pre
  have moved := moves s
  rcases done : c s with ⟨s', e | a⟩
  · rw [done] at ran moved
    exact ⟨survives s s' holds moved, ran⟩
  · rw [done] at ran moved
    exact ⟨survives s s' holds moved, ran⟩

end Procedure

end PaymentsPlatform.Lib
