import Mathlib

/-!
# Traces

Two notions the checker's trace theorems share: a trace in which every notification is allowed
after the history before it, and the automata that run over the notifications a trace has for one
key (a routing pair, a navigation handle, a media player), where every accepted letter moves the
automaton to a state the letter alone determines.
-/

namespace ChromiumContent

variable {α : Type}

/-- Every element of a trace is allowed after the elements before it. -/
def EachAllowed (allowed : List α → α → Prop) (calls : List α) : Prop :=
  ∀ k (bound : k < calls.length), allowed (calls.take k) calls[k]

@[simp]
theorem eachAllowed_nil (allowed : List α → α → Prop) : EachAllowed allowed [] :=
  fun _ bound => absurd bound (Nat.not_lt_zero _)

theorem eachAllowed_append_singleton (allowed : List α → α → Prop) (calls : List α) (call : α) :
    EachAllowed allowed (calls ++ [call]) ↔ EachAllowed allowed calls ∧ allowed calls call := by
  constructor
  · intro each
    refine ⟨fun k bound => ?_, by simpa using each calls.length (by simp)⟩
    have allowedAt := each k (by simp; omega)
    rwa [List.take_append_of_le_length bound.le, List.getElem_append_left bound] at allowedAt
  · rintro ⟨before, last⟩ k bound
    by_cases earlier : k < calls.length
    · rw [List.take_append_of_le_length earlier.le, List.getElem_append_left earlier]
      exact before k earlier
    · obtain rfl : k = calls.length := by simp at bound; omega
      simpa using last

section Automaton

variable {Letter State : Type} (advance : State → Letter → Option State)
  (target : Letter → State)

/-- When every accepted letter leads to the state it names, an accepted word ends in the state
its last letter names, or where it started when it is empty. -/
theorem foldlM_eq_some_getLast
    (leads : ∀ state letter next, advance state letter = some next → next = target letter)
    {start state : State} {word : List Letter} (accepted : word.foldlM advance start = some state) :
    state = (word.getLast?.map target).getD start := by
  induction word using List.reverseRecOn generalizing state with
  | nil => simpa using accepted.symm
  | append_singleton word letter _ =>
      simp only [List.foldlM_append, List.foldlM_cons, List.foldlM_nil, Option.pure_def,
        Option.bind_eq_bind, Option.bind_eq_some, Option.some.injEq] at accepted
      obtain ⟨_, _, next, advanced, rfl⟩ := accepted
      simp [leads _ _ _ advanced]

/- A checker that keeps, for every key, the state of the automaton: its abstraction `phaseOf`,
and `record`, what a notification that passes does to it. -/
variable {Key Checker : Type} [DecidableEq Key] (phaseOf : Checker → Key → State)
  (record : Checker → Key → Letter → Checker)

/-- The refinement step for one notification of one key: if it passes exactly when the key's
automaton accepts its letter, and then records the letter, it passes exactly when every key's
automaton accepts the longer trace, and the abstraction afterwards is the automata's states. -/
theorem keyedStep_refines
    (leads : ∀ state letter next, advance state letter = some next → next = target letter)
    (phaseOf_record : ∀ checker key letter other, (advance (phaseOf checker key) letter).isSome →
      phaseOf (record checker key letter) other =
        if key = other then target letter else phaseOf checker other)
    {checker : Checker} {key : Key} {letter : Letter} {result : Option Checker}
    {phases : Key → Option State}
    (after : ∀ other, phases other =
      if key = other then advance (phaseOf checker key) letter else some (phaseOf checker other))
    (stepped : result =
      if (advance (phaseOf checker key) letter).isSome then some (record checker key letter)
      else none) :
    (result.isSome ↔ ∀ other, (phases other).isSome) ∧
      ∀ next, result = some next →
        next = record checker key letter ∧ ∀ other, phases other = some (phaseOf next other) := by
  subst stepped
  refine ⟨⟨fun accepted other => ?_, fun accepted => ?_⟩, fun next recorded => ?_⟩
  · rw [after]
    split_ifs at accepted ⊢ with same <;> simp_all
  · simpa [after] using accepted key
  · split_ifs at recorded with accepted
    cases recorded
    refine ⟨rfl, fun other => ?_⟩
    rw [after, phaseOf_record _ _ _ _ accepted]
    split_ifs with same
    · obtain ⟨next, advanced⟩ := Option.isSome_iff_exists.mp accepted
      rw [advanced, leads _ _ _ advanced]
    · rfl

end Automaton

end ChromiumContent
