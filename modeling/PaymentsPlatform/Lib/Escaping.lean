/- layer: library
   digest: Joining texts with a separator that is escaped inside them, and that it loses nothing. -/

import Mathlib.Tactic.Common

namespace PaymentsPlatform.Lib.Escaping

universe u

variable {α : Type u} [DecidableEq α] (esc sep : α)

/-- The escape stands before each separator and each escape. -/
def escape (s : List α) : List α := s.flatMap fun c => if c = esc ∨ c = sep then [esc, c] else [c]

def join (fields : List (List α)) : List α := [sep].intercalate (fields.map (escape esc sep))

/-- The fields behind the first one. -/
def more (fields : List (List α)) : List α := fields.flatMap fun s => sep :: escape esc sep s

/-- What follows a field is nothing or a separator. -/
def Ends (rest : List α) : Prop := ∀ c ∈ rest.head?, c = sep

variable {esc sep} {s t rest rest' : List α} {a b : List (List α)}

theorem ends_more (a : List (List α)) : Ends sep (more esc sep a) := by
  rintro c head
  cases a with
  | nil => cases head
  | cons => exact (Option.some.inj head).symm

theorem escape_cons (c : α) (s : List α) :
    escape esc sep (c :: s) = (if c = esc ∨ c = sep then [esc, c] else [c]) ++ escape esc sep s := rfl

theorem not_ends_escape_cons (apart : esc ≠ sep) (c : α) (s rest : List α) :
    ¬ Ends sep (escape esc sep (c :: s) ++ rest) := by
  intro ends
  rw [escape_cons] at ends
  split at ends
  · exact apart (ends esc rfl)
  · next plain => exact plain (.inr (ends c rfl))

/-- A field is read back up to the separator that ends it. -/
theorem escape_append_inj (apart : esc ≠ sep) (ends : Ends sep rest) (ends' : Ends sep rest')
    (same : escape esc sep s ++ rest = escape esc sep t ++ rest') : s = t ∧ rest = rest' := by
  induction s generalizing t with
  | nil =>
    cases t with
    | nil => exact ⟨rfl, same⟩
    | cons d t => exact absurd (same ▸ ends) (not_ends_escape_cons apart d t rest')
  | cons c s ih =>
    cases t with
    | nil => exact absurd (same ▸ ends') (not_ends_escape_cons apart c s rest)
    | cons d t =>
      have heads : c = d ∧ escape esc sep s ++ rest = escape esc sep t ++ rest' := by
        rw [escape_cons, escape_cons] at same
        split at same <;> split at same <;> grind
      obtain ⟨rfl, tails⟩ := heads
      exact ⟨congrArg _ (ih tails).1, (ih tails).2⟩

theorem more_inj (apart : esc ≠ sep) (same : more esc sep a = more esc sep b) : a = b := by
  induction a generalizing b with
  | nil =>
    cases b with
    | nil => rfl
    | cons => cases same
  | cons s a ih =>
    cases b with
    | nil => cases same
    | cons t b =>
      obtain ⟨rfl, later⟩ :=
        escape_append_inj apart (ends_more a) (ends_more b) (List.cons.inj same).2
      rw [ih later]

theorem join_cons (s : List α) (a : List (List α)) :
    join esc sep (s :: a) = escape esc sep s ++ more esc sep a := by
  induction a generalizing s with
  | nil => simp [join, more, List.intercalate]
  | cons t a ih =>
    have later := ih t
    unfold join at later ⊢
    rw [List.map_cons, List.map_cons, List.intercalate_cons_cons, ← List.map_cons, later,
      List.append_assoc]
    rfl

theorem join_inj (apart : esc ≠ sep) (same : join esc sep (s :: a) = join esc sep (t :: b)) :
    s = t ∧ a = b := by
  rw [join_cons, join_cons] at same
  obtain ⟨first, later⟩ := escape_append_inj apart (ends_more a) (ends_more b) same
  exact ⟨first, more_inj apart later⟩

end PaymentsPlatform.Lib.Escaping
