/-
This file proves which drafts a buffer has after a draft is staged, after the drafts of elements are
discarded and after a flush.
-/

import Mathlib.Data.List.Nodup
import PropertyPanel.Draft

namespace PropertyPanel.DraftBuffer

theorem mem_stageInto {staged draft : Draft} {drafts : List Draft}
    (distinct : (drafts.map Draft.key).Nodup) :
    draft ∈ stageInto staged drafts ↔ draft = staged ∨ draft ∈ drafts ∧ draft.key ≠ staged.key := by
  induction drafts with
  | nil => simp [stageInto]
  | cons first rest ih =>
      rw [List.map_cons, List.nodup_cons] at distinct
      obtain ⟨fresh, later⟩ := distinct
      rw [stageInto]
      split
      · rename_i same
        -- No other draft has the key of the one that is replaced.
        have others : draft ∈ rest → draft.key ≠ staged.key := by
          intro inside equal
          exact fresh (List.mem_map.mpr ⟨draft, inside, equal.trans same.symm⟩)
        by_cases replaced : draft = first
        · subst replaced
          have once : draft ∉ rest := fun inside => others inside same
          simp [once, same]
        · simp only [List.mem_cons, replaced, false_or]
          exact or_congr_right ⟨fun inside => ⟨inside, others inside⟩, And.left⟩
      · rename_i different
        by_cases kept : draft = first
        · simp [kept, different]
        · simp [kept, ih later]

/-- A staged draft takes the place of the one with its key and of no other. -/
theorem mem_stage {buffer : DraftBuffer} {staged draft : Draft} :
    draft ∈ (buffer.stage staged).drafts ↔
      draft = staged ∨ draft ∈ buffer.drafts ∧ draft.key ≠ staged.key :=
  mem_stageInto buffer.distinct

/-- A draft with a new key joins the end of the buffer. -/
theorem stageInto_fresh {draft : Draft} {drafts : List Draft}
    (fresh : draft.key ∉ drafts.map Draft.key) : stageInto draft drafts = drafts ++ [draft] := by
  induction drafts with
  | nil => rfl
  | cons first rest ih =>
      rw [List.map_cons, List.mem_cons, not_or] at fresh
      rw [stageInto, if_neg (Ne.symm fresh.1), ih fresh.2, List.cons_append]

/-- Drafts with distinct new keys are kept in the order in which they are staged. -/
theorem foldl_stage {drafts : List Draft} {buffer : DraftBuffer}
    (distinct : ((buffer.drafts ++ drafts).map Draft.key).Nodup) :
    (drafts.foldl stage buffer).drafts = buffer.drafts ++ drafts := by
  induction drafts generalizing buffer with
  | nil => exact (List.append_nil _).symm
  | cons draft rest ih =>
      have fresh : draft.key ∉ buffer.drafts.map Draft.key := by
        rw [List.map_append, List.map_cons] at distinct
        intro known
        exact (List.nodup_append.mp distinct).2.2 _ known _ List.mem_cons_self rfl
      have staged : (buffer.stage draft).drafts = buffer.drafts ++ [draft] := stageInto_fresh fresh
      have parts : (buffer.stage draft).drafts ++ rest = buffer.drafts ++ draft :: rest := by
        rw [staged, List.append_assoc]
        rfl
      rw [List.foldl_cons, ← parts]
      exact ih (parts ▸ distinct)

/-- The drafts of a buffer that are staged one by one into an empty buffer make the same buffer. -/
theorem stage_drafts (buffer : DraftBuffer) : buffer.drafts.foldl stage .empty = buffer := by
  have distinct : ((empty.drafts ++ buffer.drafts).map Draft.key).Nodup := buffer.distinct
  have drafts : (buffer.drafts.foldl stage .empty).drafts = buffer.drafts := foldl_stage distinct
  generalize buffer.drafts.foldl stage .empty = staged at drafts
  cases staged
  cases buffer
  cases drafts
  rfl

/-- Elements that are discarded one after the other take their own drafts with them. -/
theorem foldl_discardElement (elements : List ElementId) (buffer : DraftBuffer) :
    elements.foldl discardElement buffer =
      buffer.filter fun draft => !elements.contains draft.element := by
  induction elements generalizing buffer with
  | nil => simp [filter]
  | cons element rest ih =>
      rw [List.foldl_cons, ih]
      simp [filter, discardElement, List.filter_filter, Bool.and_comm]

theorem eq_of_key {buffer : DraftBuffer} {first second : Draft} (left : first ∈ buffer.drafts)
    (right : second ∈ buffer.drafts) (same : first.key = second.key) : first = second :=
  List.inj_on_of_nodup_map buffer.distinct left right same

/-- The draft of a key is the one in the buffer that has the key. -/
theorem get?_eq_some {buffer : DraftBuffer} {element : ElementId} {field : String}
    {draft : Draft} :
    buffer.get? element field = some draft ↔
      draft.key = (element, field) ∧ draft ∈ buffer.drafts := by
  constructor
  · intro found
    have tested := List.find?_some found
    exact ⟨by simpa using tested, List.mem_of_find?_eq_some found⟩
  · rintro ⟨same, held⟩
    cases found : buffer.get? element field with
    | none =>
        have missing := List.find?_eq_none.mp found draft held
        simp [same] at missing
    | some other =>
        have tested : other.key = (element, field) := by simpa using List.find?_some found
        rw [eq_of_key (List.mem_of_find?_eq_some found) held (tested.trans same.symm)]

section Flush

variable {State Error : Type} (apply : Draft → State → State × Except Error Unit)

/-- The calls of a flush are its drafts with the outcomes that they have one after the other. -/
def calls : List Draft → State → List (Draft × Except Error Unit)
  | [], _ => []
  | draft :: rest, state => (draft, (apply draft state).2) :: calls rest (apply draft state).1

def succeeded (drafts : List Draft) (state : State) : List Draft :=
  ((calls apply drafts state).filter fun call => call.2.isOk).map Prod.fst

def failed (drafts : List Draft) (state : State) : List Draft :=
  ((calls apply drafts state).filter fun call => !call.2.isOk).map Prod.fst

/-- The state after drafts that are applied one after the other. -/
def replay (drafts : List Draft) (state : State) : State :=
  drafts.foldl (fun state draft => (apply draft state).1) state

theorem replay_append (first second : List Draft) (state : State) :
    replay apply (first ++ second) state = replay apply second (replay apply first state) :=
  List.foldl_append

/-- What every call keeps of the state is kept by all calls together. -/
theorem replay_kept {Kept : State → Prop} {drafts : List Draft} {state : State}
    (start : Kept state)
    (step : ∀ draft ∈ drafts, ∀ state, Kept state → Kept (apply draft state).1) :
    Kept (replay apply drafts state) :=
  List.foldlRecOn drafts _ start fun state kept draft listed => step draft listed state kept

section Call

variable {apply} {draft : Draft} {state : State} (rest : List Draft)

theorem failed_ok (done : (apply draft state).2 = .ok ()) :
    failed apply (draft :: rest) state = failed apply rest (apply draft state).1 := by
  simp [failed, calls, done, Except.isOk, Except.toBool]

theorem failed_error {error : Error} (stuck : (apply draft state).2 = .error error) :
    failed apply (draft :: rest) state = draft :: failed apply rest (apply draft state).1 := by
  simp [failed, calls, stuck, Except.isOk, Except.toBool]

theorem succeeded_ok (done : (apply draft state).2 = .ok ()) :
    succeeded apply (draft :: rest) state =
      draft :: succeeded apply rest (apply draft state).1 := by
  simp [succeeded, calls, done, Except.isOk, Except.toBool]

theorem succeeded_error {error : Error} (stuck : (apply draft state).2 = .error error) :
    succeeded apply (draft :: rest) state = succeeded apply rest (apply draft state).1 := by
  simp [succeeded, calls, stuck, Except.isOk, Except.toBool]

end Call

/-- The loop of a flush ends in the state after all its calls with those that succeed counted and
the drafts of the others kept. -/
theorem applyEach_calls (drafts : List Draft) (state : State) (applied : Nat) (left : List Draft) :
    applyEach apply drafts state applied left =
      (replay apply drafts state, applied + (succeeded apply drafts state).length,
        left ++ failed apply drafts state) := by
  induction drafts generalizing state applied left with
  | nil => simp [applyEach, replay, succeeded, failed, calls]
  | cons draft rest ih =>
      rw [applyEach]
      split
      · rename_i next outcome
        have done : (apply draft state).2 = .ok () := congrArg Prod.snd outcome
        rw [ih, succeeded_ok rest done, failed_ok rest done, outcome, List.length_cons,
          Nat.add_right_comm, Nat.add_assoc, replay, replay, List.foldl_cons, outcome]
      · rename_i next error outcome
        have stuck : (apply draft state).2 = .error error := congrArg Prod.snd outcome
        rw [ih, succeeded_error rest stuck, failed_error rest stuck, outcome, List.append_assoc,
          List.singleton_append, replay, replay, List.foldl_cons, outcome]

/-- A flush calls each of its drafts once. -/
theorem fst_calls (drafts : List Draft) (state : State) :
    (calls apply drafts state).map Prod.fst = drafts := by
  induction drafts generalizing state with
  | nil => rfl
  | cons first rest ih => rw [calls, List.map_cons, ih]

/-- A draft fails in a flush if its only call does not succeed. -/
theorem mem_failed {drafts : List Draft} (distinct : (drafts.map Draft.key).Nodup) {state : State}
    {draft : Draft} :
    draft ∈ failed apply drafts state ↔
      draft ∈ drafts ∧ (draft, .ok ()) ∉ calls apply drafts state := by
  have once : ((calls apply drafts state).map Prod.fst).Nodup := by
    rw [fst_calls]
    exact distinct.of_map _
  rw [failed, List.mem_map]
  constructor
  · rintro ⟨call, listed, rfl⟩
    obtain ⟨listed, failing⟩ := List.mem_filter.mp listed
    refine ⟨?_, fun applied => ?_⟩
    · rw [← fst_calls apply drafts state]
      exact List.mem_map_of_mem listed
    · have same : call = (call.1, .ok ()) := List.inj_on_of_nodup_map once listed applied rfl
      rw [same] at failing
      cases failing
  · rintro ⟨waiting, unapplied⟩
    rw [← fst_calls apply drafts state] at waiting
    obtain ⟨⟨called, outcome⟩, listed, rfl⟩ := List.mem_map.mp waiting
    cases outcome with
    | ok => exact absurd listed unapplied
    | error error => exact ⟨_, List.mem_filter.mpr ⟨listed, rfl⟩, rfl⟩

/-- No draft is left exactly if all calls succeed. -/
theorem failed_eq_nil {drafts : List Draft} {state : State} :
    failed apply drafts state = [] ↔ ∀ call ∈ calls apply drafts state, call.2 = .ok () := by
  rw [failed, List.map_eq_nil_iff, List.filter_eq_nil_iff]
  refine forall₂_congr fun call _ => ?_
  cases call.2 <;> simp [Except.isOk, Except.toBool]

/-- The drafts whose calls fail are in the order of the others. -/
theorem failed_sublist (drafts : List Draft) (state : State) :
    (failed apply drafts state).Sublist drafts := by
  have fewer : ((calls apply drafts state).filter fun call => !call.2.isOk).Sublist
      (calls apply drafts state) := List.filter_sublist
  have drafts_fewer := fewer.map Prod.fst
  rwa [fst_calls] at drafts_fewer

/-- Every call succeeds or fails. -/
theorem length_succeeded (drafts : List Draft) (state : State) :
    (succeeded apply drafts state).length + (failed apply drafts state).length = drafts.length := by
  have all := (calls apply drafts state).length_eq_length_filter_add fun call => call.2.isOk
  have count := congrArg List.length (fst_calls apply drafts state)
  rw [List.length_map] at count
  rw [succeeded, failed, List.length_map, List.length_map, ← all, count]

/-- A draft that is not left by a flush is applied without a failure in its place. -/
theorem failed_departure {drafts : List Draft} {state : State} {draft : Draft}
    (waiting : draft ∈ drafts) (gone : draft ∉ failed apply drafts state) :
    ∃ passed rest, drafts = passed ++ draft :: rest ∧
      (apply draft (replay apply passed state)).2 = .ok () := by
  induction drafts generalizing state with
  | nil => cases waiting
  | cons first rest ih =>
      have goOn (later : draft ∈ rest) (left : draft ∉ failed apply rest (apply first state).1) :
          ∃ passed others, first :: rest = passed ++ draft :: others ∧
            (apply draft (replay apply passed state)).2 = .ok () := by
        obtain ⟨passed, others, split, applied⟩ := ih later left
        exact ⟨first :: passed, others, by rw [split, List.cons_append], applied⟩
      cases outcome : (apply first state).2 with
      | ok =>
          rw [failed_ok rest outcome] at gone
          by_cases same : draft = first
          · subst same
            exact ⟨[], rest, rfl, outcome⟩
          · exact goOn ((List.mem_cons.mp waiting).resolve_left same) gone
      | error error =>
          rw [failed_error rest outcome, List.mem_cons, not_or] at gone
          exact goOn ((List.mem_cons.mp waiting).resolve_left gone.1) gone.2

section Buffer

variable (buffer : DraftBuffer) (state : State)

/-- A flush leaves the state after all its calls. -/
theorem flush_state : (buffer.flush apply state).1 = replay apply buffer.drafts state := by
  rw [flush, applyEach_calls]
  split
  · rename_i none
    rw [List.isEmpty_iff.mp none]
    rfl
  · dsimp only
    split <;> rfl

/-- A flush leaves the drafts whose calls fail. -/
theorem flush_drafts :
    (buffer.flush apply state).2.1.drafts = failed apply buffer.drafts state := by
  rw [flush, applyEach_calls]
  split
  · rename_i none
    have empty : buffer.drafts = [] := List.isEmpty_iff.mp none
    change buffer.drafts = _
    rw [empty]
    rfl
  · dsimp only
    rw [List.nil_append]
    split
    · rename_i none
      exact (List.isEmpty_iff.mp none).symm
    · -- The drafts of different calls have different keys.
      have distinct : ((empty.drafts ++ failed apply buffer.drafts state).map Draft.key).Nodup :=
        buffer.distinct.sublist ((failed_sublist apply buffer.drafts state).map Draft.key)
      exact foldl_stage distinct

/-- A flush tells how many of its calls succeed and how many fail. -/
theorem flush_status :
    (buffer.flush apply state).2.2 =
      if buffer.drafts = [] then .nothingToDo
      else if failed apply buffer.drafts state = [] then
        .allSucceeded (succeeded apply buffer.drafts state).length
      else
        .someFailed (succeeded apply buffer.drafts state).length
          (failed apply buffer.drafts state).length := by
  rw [flush, applyEach_calls, isEmpty]
  simp only [List.isEmpty_iff, List.nil_append, Nat.zero_add]
  split
  · rfl
  · split <;> rfl

/-- A flush depends on the calls with its own drafts only. -/
theorem flush_congr {buffer : DraftBuffer}
    {apply other : Draft → State → State × Except Error Unit}
    (same : ∀ draft ∈ buffer.drafts, ∀ state, other draft state = apply draft state)
    (state : State) : buffer.flush other state = buffer.flush apply state := by
  have all (drafts : List Draft) (state : State) (applied : Nat) (left : List Draft)
      (same : ∀ draft ∈ drafts, ∀ state, other draft state = apply draft state) :
      applyEach other drafts state applied left = applyEach apply drafts state applied left := by
    induction drafts generalizing state applied left with
    | nil => rfl
    | cons draft rest ih =>
        rw [List.forall_mem_cons] at same
        simp only [applyEach, same.1, ih _ _ _ same.2]
  simp only [flush, all _ _ _ _ same]

end Buffer

/-- A call that fails gives the state back. -/
def Restores : Prop :=
  ∀ draft state error, (apply draft state).2 = .error error → (apply draft state).1 = state

variable {apply}

/-- The calls that succeed in a flush do so again without the others. -/
theorem calls_succeeded (restores : Restores apply) (drafts : List Draft) (state : State) :
    calls apply (succeeded apply drafts state) state =
      (calls apply drafts state).filter fun call => call.2.isOk := by
  induction drafts generalizing state with
  | nil => rfl
  | cons draft rest ih =>
      cases outcome : (apply draft state).2 with
      | ok =>
          rw [succeeded_ok rest outcome, calls, calls, ih, outcome, List.filter_cons_of_pos rfl]
      | error error =>
          rw [succeeded_error rest outcome, calls, outcome,
            List.filter_cons_of_neg Bool.false_ne_true, restores draft state error outcome, ih]

/-- The calls that fail in a flush add nothing to the state after it. -/
theorem replay_succeeded (restores : Restores apply) (drafts : List Draft) (state : State) :
    replay apply (succeeded apply drafts state) state = replay apply drafts state := by
  induction drafts generalizing state with
  | nil => rfl
  | cons draft rest ih =>
      cases outcome : (apply draft state).2 with
      | ok =>
          rw [succeeded_ok rest outcome]
          exact ih (apply draft state).1
      | error error =>
          have kept := restores draft state error outcome
          rw [succeeded_error rest outcome, kept, ih, replay, replay, List.foldl_cons, kept]

end Flush

end PropertyPanel.DraftBuffer
