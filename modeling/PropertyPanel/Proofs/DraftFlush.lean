/-
This file proves that a flush calls every draft once, whatever the calls before it have done, and
that exactly the drafts whose calls fail are left in the buffer.
-/

import PropertyPanel.Proofs.DraftBuffer

namespace PropertyPanel.DraftBuffer

variable {State Error : Type} (apply : Draft → State → State × Except Error Unit)

/-- A function of drafts that also notes its calls and their outcomes. -/
def noting (draft : Draft) (noted : State × List (Draft × Except Error Unit)) :
    (State × List (Draft × Except Error Unit)) × Except Error Unit :=
  let (state, outcome) := apply draft noted.1
  ((state, noted.2 ++ [(draft, outcome)]), outcome)

/-- The noted calls are those of the flush, and the notes change nothing else. -/
theorem applyEach_noting (drafts : List Draft) (state : State)
    (log : List (Draft × Except Error Unit)) (applied : Nat) (left : List Draft) :
    applyEach (noting apply) drafts (state, log) applied left =
      (((applyEach apply drafts state applied left).1, log ++ calls apply drafts state),
        (applyEach apply drafts state applied left).2) := by
  induction drafts generalizing state log applied left with
  | nil => simp [applyEach, calls]
  | cons draft rest ih =>
      rcases called : apply draft state with ⟨next, outcome⟩
      cases outcome with
      | ok => simp [applyEach, noting, calls, called, ih]
      | error error => simp [applyEach, noting, calls, called, ih]

/-- A call has the outcome that the calls before it lead to. -/
theorem outcome_calls {drafts : List Draft} {state : State}
    {earlier later : List (Draft × Except Error Unit)} {call : Draft × Except Error Unit}
    (parts : calls apply drafts state = earlier ++ call :: later) :
    call.2 = (apply call.1 (replay apply (earlier.map Prod.fst) state)).2 := by
  induction earlier generalizing drafts state with
  | nil =>
      cases drafts with
      | nil => cases parts
      | cons draft rest =>
          obtain ⟨rfl, _⟩ := List.cons.inj parts
          rfl
  | cons first earlier ih =>
      cases drafts with
      | nil => cases parts
      | cons draft rest =>
          obtain ⟨rfl, others⟩ := List.cons.inj parts
          exact ih others

variable (buffer : DraftBuffer) (state : State)

/-- A flush that is noted ends as it does without the notes. -/
theorem flush_noting :
    buffer.flush (noting apply) (state, []) =
      (((buffer.flush apply state).1, calls apply buffer.drafts state),
        (buffer.flush apply state).2) := by
  have noted := applyEach_noting apply buffer.drafts state [] 0 []
  rw [flush, flush, noted]
  split
  · rename_i none
    rw [List.isEmpty_iff.mp none]
    rfl
  · dsimp only
    split <;> rfl

/-- A flush has nothing to do, applies all drafts, or leaves as many as it does not apply. -/
inductive Ending : FlushStatus → Prop where
  | nothing (empty : buffer.drafts = []) : Ending .nothingToDo
  | all (filled : buffer.drafts ≠ []) (none : failed apply buffer.drafts state = []) :
      Ending (.allSucceeded buffer.size)
  | some (applied : Nat) (left : failed apply buffer.drafts state ≠ [])
      (counted : applied + (failed apply buffer.drafts state).length = buffer.size) :
      Ending (.someFailed applied (failed apply buffer.drafts state).length)

theorem flush_ending : Ending apply buffer state (buffer.flush apply state).2.2 := by
  have counted := length_succeeded apply buffer.drafts state
  rw [flush_status]
  split
  · rename_i empty
    exact .nothing empty
  · rename_i filled
    split
    · rename_i none
      rw [none, List.length_nil, Nat.add_zero] at counted
      exact counted ▸ .all filled none
    · rename_i left
      exact .some _ left counted

/-- A flush calls each draft of the buffer once and in order, each in the state that all earlier
calls have left. It keeps exactly the drafts whose calls fail, in their order and as if they were
staged anew in an empty buffer, and its status tells whether there was nothing to do, whether all
drafts have succeeded, or how many have succeeded and how many have failed. -/
theorem flush_calls_once (apply : Draft → State → State × Except Error Unit)
    (buffer : DraftBuffer) (state : State) :
    let log := calls apply buffer.drafts state
    let (left, remaining, status) := buffer.flush apply state
    buffer.flush (noting apply) (state, []) = ((left, log), remaining, status) ∧
      log.map Prod.fst = buffer.drafts ∧
      (∀ earlier call later, log = earlier ++ call :: later →
        call.2 = (apply call.1 (replay apply (earlier.map Prod.fst) state)).2) ∧
      left = replay apply buffer.drafts state ∧
      remaining.drafts = (log.filter fun call => !call.2.isOk).map Prod.fst ∧
      remaining = remaining.drafts.foldl stage .empty ∧
      (status = .nothingToDo ↔ buffer.drafts = []) ∧
      (∀ applied, status = .allSucceeded applied ↔
        buffer.drafts ≠ [] ∧ (∀ call ∈ log, call.2 = .ok ()) ∧ applied = buffer.size) ∧
      ∀ applied failed, status = .someFailed applied failed ↔
        (∃ call ∈ log, call.2 ≠ .ok ()) ∧ failed = remaining.size ∧
          applied + failed = buffer.size := by
  intro log
  have noted := flush_noting apply buffer state
  have reached := flush_state apply buffer state
  have kept := flush_drafts apply buffer state
  have ending := flush_ending apply buffer state
  generalize buffer.flush apply state = result at noted reached kept ending ⊢
  obtain ⟨left, remaining, status⟩ := result
  refine ⟨noted, fst_calls apply _ _, fun _ _ _ => outcome_calls apply, reached, kept,
    (stage_drafts remaining).symm, ?_⟩
  have unfailed : failed apply buffer.drafts state = [] ↔ ∀ call ∈ log, call.2 = .ok () :=
    failed_eq_nil apply
  have failing : failed apply buffer.drafts state ≠ [] ↔ ∃ call ∈ log, call.2 ≠ .ok () := by
    rw [Ne, unfailed]
    simp
  -- Without a draft there is no call that could fail.
  have silent (empty : buffer.drafts = []) : failed apply buffer.drafts state = [] := by
    rw [empty]
    rfl
  have size : remaining.size = (failed apply buffer.drafts state).length :=
    congrArg List.length kept
  rw [← unfailed, ← failing, size]
  cases ending with
  | nothing empty =>
      rw [silent empty]
      simp [empty]
  | all filled none => simp [filled, none, eq_comm]
  | some count left counted =>
      have filled : buffer.drafts ≠ [] := fun empty => left (silent empty)
      refine ⟨by simp [filled], by simp [left], fun applied failed => ?_⟩
      simp only [FlushStatus.someFailed.injEq, ne_eq, left, not_false_eq_true, true_and]
      omega

end PropertyPanel.DraftBuffer
