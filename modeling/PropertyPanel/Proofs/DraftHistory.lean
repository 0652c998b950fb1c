/-
This file proves which drafts a buffer holds after a history of operations, and in which order.
-/

import Mathlib.Data.List.Induction
import PropertyPanel.Proofs.DraftBuffer

namespace PropertyPanel

/-- A flush applies the drafts to a state of its own, and each call may succeed or fail. -/
inductive BufferOperation (State Error : Type) where
  | stage (draft : Draft)
  | discard (element : ElementId)
  | flush (apply : Draft → State → State × Except Error Unit) (state : State)

namespace BufferOperation

variable {State Error : Type}

def perform : BufferOperation State Error → DraftBuffer → DraftBuffer
  | stage draft, buffer => buffer.stage draft
  | discard element, buffer => buffer.discardElement element
  | flush apply state, buffer => (buffer.flush apply state).2.1

/-- The buffer after a history that begins with no drafts. -/
def run (history : List (BufferOperation State Error)) : DraftBuffer :=
  history.foldl (fun buffer operation => operation.perform buffer) .empty

/-- The wait of a draft ends where its key is staged anew, its element is discarded, or the call
of a flush for it succeeds. -/
def Ends (draft : Draft) (buffer : DraftBuffer) : BufferOperation State Error → Prop
  | stage newer => newer.key = draft.key
  | discard element => element = draft.element
  | flush apply state => (draft, .ok ()) ∈ DraftBuffer.calls apply buffer.drafts state

/-- A draft waits if it has been staged and no later operation has ended its wait. -/
def Waits (history : List (BufferOperation State Error)) (draft : Draft) : Prop :=
  ∃ earlier later, history = earlier ++ stage draft :: later ∧
    ∀ passed operation rest, later = passed ++ operation :: rest →
      ¬ operation.Ends draft (run (earlier ++ stage draft :: passed))

def KeyWaits (history : List (BufferOperation State Error)) (key : ElementId × String) : Prop :=
  ∃ draft, draft.key = key ∧ Waits history draft

/-- A key last enters at the operation before which no draft of it waits and since which one
always does. -/
def Enters (history : List (BufferOperation State Error)) (key : ElementId × String)
    (moment : Nat) : Prop :=
  moment < history.length ∧ ¬ KeyWaits (history.take moment) key ∧
    ∀ later, moment < later → later ≤ history.length → KeyWaits (history.take later) key

/-- One key enters before another one. -/
def EntersBefore (history : List (BufferOperation State Error))
    (first second : ElementId × String) : Prop :=
  ∃ former latter, Enters history first former ∧ Enters history second latter ∧ former < latter

section Step

variable (history : List (BufferOperation State Error)) (operation : BufferOperation State Error)

theorem run_append : run (history ++ [operation]) = operation.perform (run history) :=
  List.foldl_append

/-- After one more operation the draft that it stages waits, and so do those whose wait it does
not end. -/
theorem waits_append (draft : Draft) :
    Waits (history ++ [operation]) draft ↔
      operation = stage draft ∨ Waits history draft ∧ ¬ operation.Ends draft (run history) := by
  constructor
  · rintro ⟨earlier, later, same, unended⟩
    cases later using List.reverseRecOn with
    | nil =>
        refine .inl ?_
        have last := congrArg List.getLast? same
        simpa using last
    | append_singleton later final =>
        rw [← List.cons_append, ← List.append_assoc] at same
        obtain ⟨before, last⟩ := List.append_inj' same rfl
        cases last
        refine .inr ⟨⟨earlier, later, before, fun passed other rest split => ?_⟩, ?_⟩
        · exact unended passed other (rest ++ [operation]) (by rw [split]; simp)
        · rw [before]
          exact unended later operation [] rfl
  · rintro (rfl | ⟨⟨earlier, later, same, unended⟩, kept⟩)
    · refine ⟨history, [], rfl, fun passed other rest split => ?_⟩
      simp at split
    · refine ⟨earlier, later ++ [operation], by rw [same]; simp, ?_⟩
      intro passed other rest split
      cases rest using List.reverseRecOn with
      | nil =>
          obtain ⟨before, last⟩ := List.append_inj' split rfl
          cases last
          rwa [← before, ← same]
      | append_singleton rest final =>
          rw [← List.cons_append, ← List.append_assoc] at split
          exact unended passed other rest (List.append_inj' split rfl).1

/-- A draft is in the buffer after an operation if it is staged there, or if it was in the buffer
before and its wait does not end. -/
theorem mem_perform (buffer : DraftBuffer) (draft : Draft) :
    draft ∈ (operation.perform buffer).drafts ↔
      operation = stage draft ∨ draft ∈ buffer.drafts ∧ ¬ operation.Ends draft buffer := by
  cases operation with
  | stage newer =>
      change draft ∈ (buffer.stage newer).drafts ↔ _
      rw [DraftBuffer.mem_stage, stage.injEq, eq_comm]
      exact or_congr_right (and_congr_right fun _ => not_congr eq_comm)
  | discard element =>
      change draft ∈ buffer.drafts.filter _ ↔ _
      simp [Ends, Ne.symm, ne_comm]
  | flush apply state =>
      change draft ∈ (buffer.flush apply state).2.1.drafts ↔ _
      rw [DraftBuffer.flush_drafts, DraftBuffer.mem_failed apply buffer.distinct]
      simp [Ends]

/-- An operation drops keys or adds one that is new at the end. -/
theorem keys_perform (buffer : DraftBuffer) :
    ((operation.perform buffer).drafts.map Draft.key).Sublist (buffer.drafts.map Draft.key) ∨
      ∃ key, key ∉ buffer.drafts.map Draft.key ∧
        (operation.perform buffer).drafts.map Draft.key = buffer.drafts.map Draft.key ++ [key] := by
  cases operation with
  | stage draft =>
      change (DraftBuffer.stageInto draft buffer.drafts |>.map Draft.key).Sublist _ ∨ _
      by_cases known : draft.key ∈ buffer.drafts.map Draft.key
      · rw [DraftBuffer.keysStageInto, if_pos known]
        exact .inl (.refl _)
      · refine .inr ⟨draft.key, known, ?_⟩
        exact (DraftBuffer.keysStageInto draft buffer.drafts).trans (if_neg known)
  | discard element => exact .inl (List.filter_sublist.map Draft.key)
  | flush apply state =>
      change ((buffer.flush apply state).2.1.drafts.map Draft.key).Sublist _ ∨ _
      rw [DraftBuffer.flush_drafts]
      exact .inl ((DraftBuffer.failed_sublist apply buffer.drafts state).map Draft.key)

variable {history} {operation} {key : ElementId × String}

/-- A key that still waits after one more operation keeps the moment at which it has entered. -/
theorem enters_append {moment : Nat} (entered : Enters history key moment)
    (still : KeyWaits (history ++ [operation]) key) :
    Enters (history ++ [operation]) key moment := by
  obtain ⟨inside, fresh, since⟩ := entered
  refine ⟨by simp; omega, ?_, fun later after within => ?_⟩
  · rwa [List.take_append_of_le_length (Nat.le_of_lt inside)]
  · by_cases last : later = history.length + 1
    · rwa [last, List.take_of_length_le (by simp)]
    · rw [List.length_append, List.length_singleton] at within
      have before : later ≤ history.length := by omega
      rw [List.take_append_of_le_length before]
      exact since later after before

/-- A key that begins to wait at an operation enters there. -/
theorem enters_last (fresh : ¬ KeyWaits history key)
    (now : KeyWaits (history ++ [operation]) key) :
    Enters (history ++ [operation]) key history.length := by
  refine ⟨by simp, by rwa [List.take_left], fun later after within => ?_⟩
  rw [List.length_append, List.length_singleton] at within
  rwa [List.take_of_length_le (by simp; omega)]

end Step

variable (history : List (BufferOperation State Error))

theorem mem_run (draft : Draft) : draft ∈ (run history).drafts ↔ Waits history draft := by
  induction history using List.reverseRecOn with
  | nil => simp [run, DraftBuffer.empty, Waits]
  | append_singleton history operation ih =>
      rw [run_append, mem_perform, waits_append, ih]

theorem mem_keys_run (key : ElementId × String) :
    key ∈ (run history).drafts.map Draft.key ↔ KeyWaits history key := by
  simp only [List.mem_map, mem_run, KeyWaits, and_comm]

/-- Every key that waits has entered at some moment. -/
theorem enters_of_waits {key : ElementId × String} (waiting : KeyWaits history key) :
    ∃ moment, Enters history key moment := by
  induction history using List.reverseRecOn with
  | nil =>
      obtain ⟨draft, _, earlier, later, same, _⟩ := waiting
      simp at same
  | append_singleton history operation ih =>
      by_cases before : KeyWaits history key
      · obtain ⟨moment, entered⟩ := ih before
        exact ⟨moment, enters_append entered waiting⟩
      · exact ⟨history.length, enters_last before waiting⟩

/-- The keys in a buffer are in the order in which they have entered it. -/
theorem keys_run_ordered :
    ((run history).drafts.map Draft.key).Pairwise (EntersBefore history) := by
  induction history using List.reverseRecOn with
  | nil => exact .nil
  | append_singleton history operation ih =>
      have waiting (key : ElementId × String)
          (held : key ∈ (operation.perform (run history)).drafts.map Draft.key) :
          KeyWaits (history ++ [operation]) key := by
        rwa [← run_append, mem_keys_run] at held
      have later {keys : List (ElementId × String)} (ordered : keys.Pairwise (EntersBefore history))
          (held : keys ⊆ (operation.perform (run history)).drafts.map Draft.key) :
          keys.Pairwise (EntersBefore (history ++ [operation])) := by
        refine ordered.imp_of_mem fun {first second} left right before => ?_
        obtain ⟨former, latter, entered, followed, less⟩ := before
        exact ⟨former, latter, enters_append entered (waiting first (held left)),
          enters_append followed (waiting second (held right)), less⟩
      rw [run_append]
      cases operation.keys_perform (run history) with
      | inl fewer => exact later (ih.sublist fewer) (List.Subset.refl _)
      | inr more =>
          obtain ⟨added, fresh, keys⟩ := more
          rw [keys] at waiting later ⊢
          rw [mem_keys_run] at fresh
          refine List.pairwise_append.mpr ⟨later ih (List.subset_append_left _ _), by simp, ?_⟩
          intro old known new only
          rw [List.mem_singleton] at only
          subst only
          obtain ⟨moment, entered⟩ := enters_of_waits history ((mem_keys_run history old).mp known)
          exact ⟨moment, history.length, enters_append entered (waiting old (by simp [known])),
            enters_last fresh (waiting new (by simp)), entered.1⟩

theorem get?_run (element : ElementId) (field : String) (draft : Draft) :
    (run history).get? element field = some draft ↔
      draft.key = (element, field) ∧ Waits history draft := by
  rw [DraftBuffer.get?_eq_some, mem_run]

/-- After every history a buffer has for a key the draft that was staged last for it, unless its
wait has ended since, and lists the drafts that wait in the order in which their keys have last
entered. -/
theorem buffer_after_history :
    (∀ element field draft, (run history).get? element field = some draft ↔
      draft.key = (element, field) ∧ Waits history draft) ∧
    (∀ draft, draft ∈ (run history).drafts ↔ Waits history draft) ∧
    ((run history).drafts.map Draft.key).Pairwise (EntersBefore history) :=
  ⟨get?_run history, mem_run history, keys_run_ordered history⟩

end BufferOperation

end PropertyPanel
