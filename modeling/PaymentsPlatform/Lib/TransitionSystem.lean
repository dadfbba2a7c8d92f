/- layer: library
   digest: Labelled transition systems, guarded runs and the invariant rules; interleaved processes.
     -/

import Mathlib.Data.List.Induction
import Mathlib.Logic.Function.Basic

namespace PaymentsPlatform.Lib.TransitionSystem

universe u v

/-- A deterministic labelled transition system.  Every label has a step from every state, a refused
one to what the refusal leaves. -/
structure System (σ : Type u) (α : Type v) where
  init : σ → Prop
  step : σ → α → σ

namespace System

variable {σ : Type u} {α : Type v} (S : System σ α)

/-- The state a sequence of labels leads to. -/
def run (s : σ) (labels : List α) : σ := labels.foldl S.step s

/-- Every step of the run from `s` meets `guard` in the state it is taken from. -/
def Meets (guard : σ → α → Prop) : σ → List α → Prop
  | _, [] => True
  | s, a :: rest => guard s a ∧ Meets guard (S.step s a) rest

/-- The states reached from an initial state by steps that all meet `guard`. -/
inductive ReachableUnder (guard : σ → α → Prop) : σ → Prop
  | init {s : σ} : S.init s → ReachableUnder guard s
  | step {s : σ} (a : α) : ReachableUnder guard s → guard s a → ReachableUnder guard (S.step s a)

/-- The states reached by any run at all. -/
def Reachable (s : σ) : Prop := S.ReachableUnder (fun _ _ => True) s

@[simp] theorem run_nil (s : σ) : S.run s [] = s := rfl

@[simp] theorem run_cons (s : σ) (a : α) (labels : List α) :
    S.run s (a :: labels) = S.run (S.step s a) labels := rfl

theorem run_append (s : σ) (xs ys : List α) : S.run s (xs ++ ys) = S.run (S.run s xs) ys :=
  List.foldl_append

theorem run_concat (s : σ) (xs : List α) (a : α) : S.run s (xs ++ [a]) = S.step (S.run s xs) a := by
  rw [run_append, run_cons, run_nil]

variable {S} {guard : σ → α → Prop} {s : σ}

/-- A run meets a guard if its first part does and the rest does from where that leads. -/
theorem meets_append (xs ys : List α) :
    S.Meets guard s (xs ++ ys) ↔ S.Meets guard s xs ∧ S.Meets guard (S.run s xs) ys := by
  induction xs generalizing s with
  | nil => exact ⟨fun rest => ⟨trivial, rest⟩, And.right⟩
  | cons a rest ih =>
    rw [List.cons_append, run_cons, Meets, Meets, ih, and_assoc]

theorem ReachableUnder.mono {guard' : σ → α → Prop} (weaker : ∀ s a, guard s a → guard' s a)
    (h : S.ReachableUnder guard s) : S.ReachableUnder guard' s := by
  induction h with
  | init h0 => exact .init h0
  | step a _ hg ih => exact .step a ih (weaker _ a hg)

theorem ReachableUnder.reachable (h : S.ReachableUnder guard s) : S.Reachable s :=
  h.mono fun _ _ _ => trivial

/-- The invariant rule: a property of the initial states that every guarded step
from a reachable state preserves holds in every state reached. -/
theorem ReachableUnder.invariant {P : σ → Prop}
    (start : ∀ s, S.init s → P s)
    (preserved : ∀ s a, S.ReachableUnder guard s → P s → guard s a → P (S.step s a))
    (h : S.ReachableUnder guard s) : P s := by
  induction h with
  | init h0 => exact start _ h0
  | step a hr hg ih => exact preserved _ a hr ih hg

theorem Reachable.invariant {P : σ → Prop} (start : ∀ s, S.init s → P s)
    (preserved : ∀ s a, P s → P (S.step s a)) (h : S.Reachable s) : P s :=
  ReachableUnder.invariant start (fun s a _ hp _ => preserved s a hp) h

theorem reachableUnder_run {G : σ → α → Prop} (h : S.ReachableUnder G s)
    (labels : List α) (meets : S.Meets G s labels) : S.ReachableUnder G (S.run s labels) := by
  induction labels generalizing s with
  | nil => exact h
  | cons a rest ih => exact ih (.step a h meets.1) meets.2

theorem reachable_run (h : S.Reachable s) (labels : List α) : S.Reachable (S.run s labels) := by
  induction labels generalizing s with
  | nil => exact h
  | cons a rest ih => exact ih (.step a h trivial)

/-- A reflexive and transitive relation that every step from a state with `I` keeps, where `I`
lasts, holds between the two ends of a run. -/
theorem run_rel {I : σ → Prop} {R : σ → σ → Prop} (lasts : ∀ s a, I s → I (S.step s a))
    (refl : ∀ s, R s s) (trans : ∀ a b c, R a b → R b c → R a c)
    (keeps : ∀ s a, I s → R s (S.step s a)) (h : I s) (labels : List α) :
    R s (S.run s labels) := by
  induction labels generalizing s with
  | nil => exact refl s
  | cons a rest ih => exact trans _ _ _ (keeps s a h) (ih (lasts s a h))

instance decidableMeets (guard : σ → α → Prop) [∀ s a, Decidable (guard s a)] :
    ∀ (s : σ) (labels : List α), Decidable (S.Meets guard s labels)
  | _, [] => isTrue trivial
  | s, a :: rest =>
    have := decidableMeets guard (S.step s a) rest
    inferInstanceAs (Decidable (guard s a ∧ S.Meets guard (S.step s a) rest))

end System

end PaymentsPlatform.Lib.TransitionSystem

namespace PaymentsPlatform.Lib.Interleaving

open Lib.TransitionSystem

universe u v w x

/-- A shared state and the state of every process. -/
structure Config (σ : Type u) (ι : Type v) (τ : Type w) where
  shared : σ
  own : ι → τ

variable {σ : Type u} {ι : Type v} {τ : Type w} {α : Type x} [DecidableEq ι]

/-- Processes that all run the same program: an action changes the shared state and the
state of the process that takes it. -/
def interleaving (act : σ → τ → α → σ × τ) (init : Config σ ι τ → Prop) :
    System (Config σ ι τ) (ι × α) where
  init := init
  step s label :=
    { shared := (act s.shared (s.own label.1) label.2).1
      own := Function.update s.own label.1 (act s.shared (s.own label.1) label.2).2 }

/-- A condition on an action, read off the shared state and the state of the process. -/
def onAction (guard : σ → τ → α → Prop) (s : Config σ ι τ) (label : ι × α) : Prop :=
  guard s.shared (s.own label.1) label.2

instance (guard : σ → τ → α → Prop) [∀ s x a, Decidable (guard s x a)] (s : Config σ ι τ)
    (label : ι × α) : Decidable (onAction guard s label) :=
  inferInstanceAs (Decidable (guard s.shared (s.own label.1) label.2))

/-- Assertions about the shared state, about one process and about two of them, such that an
action of one process keeps its own and those of the processes it does not touch. -/
structure Stable (act : σ → τ → α → σ × τ) (guard : σ → τ → α → Prop) (G : σ → Prop)
    (I : σ → τ → Prop) (R : τ → τ → Prop) : Prop where
  symm : ∀ x y, R x y → R y x
  acting : ∀ s x a, G s → I s x → guard s x a →
    G (act s x a).1 ∧ I (act s x a).1 (act s x a).2
  watching : ∀ s x a y, G s → I s x → I s y → R x y → guard s x a →
    I (act s x a).1 y ∧ R (act s x a).2 y

/-- The assertions hold in a configuration. -/
structure Holds (G : σ → Prop) (I : σ → τ → Prop) (R : τ → τ → Prop) (s : Config σ ι τ) : Prop where
  shared : G s.shared
  each : ∀ i, I s.shared (s.own i)
  pair : ∀ i j, i ≠ j → R (s.own i) (s.own j)

variable {act : σ → τ → α → σ × τ} {init : Config σ ι τ → Prop} {guard : σ → τ → α → Prop}
  {G : σ → Prop} {I : σ → τ → Prop} {R : τ → τ → Prop}

theorem Stable.step (stable : Stable act guard G I R) {s : Config σ ι τ} (h : Holds G I R s)
    (label : ι × α) (meets : onAction guard s label) :
    Holds G I R ((interleaving act init).step s label) := by
  obtain ⟨i, a⟩ := label
  have acting := stable.acting s.shared (s.own i) a h.shared (h.each i) meets
  have watching : ∀ j, j ≠ i → I (act s.shared (s.own i) a).1 (s.own j) ∧
      R (act s.shared (s.own i) a).2 (s.own j) := fun j apart =>
    stable.watching s.shared (s.own i) a (s.own j) h.shared (h.each i) (h.each j)
      (h.pair i j apart.symm) meets
  have self : ((interleaving act init).step s (i, a)).own i = (act s.shared (s.own i) a).2 :=
    Function.update_self i _ _
  have other : ∀ j, j ≠ i → ((interleaving act init).step s (i, a)).own j = s.own j :=
    fun j apart => Function.update_of_ne apart _ _
  refine ⟨acting.1, fun j => ?_, fun j k apart => ?_⟩
  · by_cases same : j = i
    · rw [same, self]
      exact acting.2
    · rw [other j same]
      exact (watching j same).1
  · by_cases left : j = i
    · rw [left, self, other k fun right => apart (left.trans right.symm)]
      exact (watching k fun right => apart (left.trans right.symm)).2
    · rw [other j left]
      by_cases right : k = i
      · rw [right, self]
        exact stable.symm _ _ (watching j left).2
      · rw [other k right]
        exact h.pair j k apart

/-- The invariant rule: stable assertions that hold at the start hold in every configuration
reached by actions that meet the guard. -/
theorem Stable.invariant (stable : Stable act guard G I R)
    (start : ∀ s, init s → Holds G I R s) {s : Config σ ι τ}
    (h : (interleaving act init).ReachableUnder (onAction guard) s) : Holds G I R s :=
  System.ReachableUnder.invariant (P := Holds G I R) start
    (fun _ label _ holds meets => stable.step holds label meets) h

end PaymentsPlatform.Lib.Interleaving
