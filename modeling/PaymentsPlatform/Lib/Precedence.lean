/- layer: library
   digest: Lists in which every entry comes after all its predecessors, and the batches that
     continue them. -/

import Mathlib.Data.List.Infix

namespace PaymentsPlatform.Lib.Precedence

universe u

variable {α : Type u} (before : α → α → Prop)

/-- With `log` given, every entry of the batch comes after all its predecessors among `known`. -/
def Continues (known : α → Prop) (log batch : List α) : Prop :=
  ∀ earlier a, earlier ++ [a] <+: batch → ∀ b, known b → before b a → b ∈ log ∨ b ∈ earlier

/-- Every entry comes after all its predecessors among `known`. -/
def Respects (known : α → Prop) (log : List α) : Prop :=
  ∀ earlier a, earlier ++ [a] <+: log → ∀ b, known b → before b a → b ∈ earlier

variable {before} {known known' : α → Prop} {log log' batch : List α} {a : α}

theorem respects_nil : Respects before known [] := by
  intro earlier a start
  exact absurd (List.prefix_nil.mp start) (List.append_ne_nil_of_right_ne_nil _ (List.cons_ne_nil a []))

theorem mem_of_start {earlier : List α} (start : earlier ++ [a] <+: batch) : a ∈ batch :=
  start.subset (List.mem_append_right _ (List.mem_singleton_self a))

theorem Continues.mono (h : Continues before known log batch) (more : log ⊆ log') :
    Continues before known log' batch :=
  fun earlier a start b there first => (h earlier a start b there first).imp_left (@more b)

theorem Continues.grow (h : Continues before known log batch)
    (late : ∀ b, known' b → ∀ a ∈ batch, before b a → known b) : Continues before known' log batch :=
  fun earlier a start b there first =>
    h earlier a start b (late b there a (mem_of_start start) first) first

theorem Respects.grow (h : Respects before known log)
    (late : ∀ b, known' b → ∀ a ∈ log, before b a → known b) : Respects before known' log :=
  fun earlier a start b there first =>
    h earlier a start b (late b there a (mem_of_start start) first) first

variable {l : List α}

theorem take_start {pos : Nat} (at_ : l[pos]? = some a) : l.take pos ++ [a] <+: l := by
  obtain ⟨bound, own⟩ := List.getElem?_eq_some_iff.mp at_
  rw [← own, List.take_append_getElem]
  exact List.take_prefix _ _

theorem Continues.ready (h : Continues before known log batch) {pos : Nat} (at_ : batch[pos]? = some a)
    (done : ∀ b ∈ batch.take pos, before b a → b ∈ log) (b : α) (there : known b) (first : before b a) :
    b ∈ log :=
  (h _ _ (take_start at_) b there first).elim id fun waiting => done b waiting first

theorem Respects.snoc (h : Respects before known log)
    (ready : ∀ b, known b → before b a → b ∈ log) : Respects before known (log ++ [a]) := by
  intro earlier c start b there first
  rcases List.prefix_concat_iff.mp start with whole | part
  · obtain ⟨rfl, same⟩ := List.append_inj' whole rfl
    obtain rfl := List.head_eq_of_cons_eq same
    exact ready b there first
  · exact h earlier c part b there first

/-- The first entries of a list without inversions continue the log if the list has all the
predecessors that the log has not. -/
theorem continues_take (irrefl : ∀ a, ¬ before a a) (sorted : l.Pairwise fun x y => ¬ before y x)
    (covered : ∀ a ∈ l, ∀ b, known b → before b a → b ∈ log ∨ b ∈ l) (n : Nat) :
    Continues before known log (l.take n) := by
  intro earlier a start b there first
  obtain ⟨rest, split⟩ := start.trans (List.take_prefix n l)
  subst split
  refine (covered a (mem_of_start (List.prefix_append _ rest)) b there first).imp_right fun mem => ?_
  rcases List.mem_append.mp mem with inside | after
  · rcases List.mem_append.mp inside with ahead | own
    · exact ahead
    · rw [List.mem_singleton.mp own] at first
      exact absurd first (irrefl a)
  · have inverted := (List.pairwise_append.mp sorted).2.2 a
      (List.mem_append_right _ (List.mem_singleton_self a)) b after
    exact absurd first inverted

/-- The first entries of a sorted list contain whatever is smaller than one of them. -/
theorem mem_take_of_lt {f : α → Nat} (sorted : l.Pairwise fun x y => f x ≤ f y) {n : Nat}
    {b : α} (mem : a ∈ l.take n) (there : b ∈ l) (smaller : f b < f a) : b ∈ l.take n := by
  rw [← List.take_append_drop n l] at sorted there
  refine (List.mem_append.mp there).resolve_right fun after => ?_
  exact absurd ((List.pairwise_append.mp sorted).2.2 a mem b after) (Nat.not_le.mpr smaller)

end PaymentsPlatform.Lib.Precedence
