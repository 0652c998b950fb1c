/-
This file proves that a command that sets fields stores either the last value of each field or
nothing at all.
-/

import PropertyPanel.Proofs.CommandLine.Opening
import PropertyPanel.Proofs.CommandLine.Staging
import PropertyPanel.Proofs.Diagram.Document

namespace PropertyPanel.CommandLine

namespace Session.Opened

variable {session : Session} {configuration : Configuration} {document : DiagramDocument}
  {element : ElementId} {elementType : String}
  (opened : session.Opened configuration document element elementType)
  {assignments : List Assignment}

include opened

/-- The staging ends at the first assignment that is refused. -/
theorem stops_at_refused
    (refused : ∃ assignment ∈ assignments, ∃ error,
      assignment.Refused element (session.fields elementType) error) :
    ∃ earlier assignment later error, assignments = earlier ++ assignment :: later ∧
      (∀ before ∈ earlier, ∃ draft, before.Drafts element (session.fields elementType) draft) ∧
      assignment.Refused element (session.fields elementType) error ∧
      session.stageAll element assignments = (earlier, .error error) := by
  cases Assignment.drafts_or_first_refused element (session.fields elementType) assignments with
  | inl all =>
      obtain ⟨drafts, drafted⟩ := all
      obtain ⟨assignment, listed, error, refused⟩ := refused
      obtain ⟨draft, made⟩ := Assignment.drafted_of_mem drafted listed
      exact absurd refused made.not_refused
  | inr first =>
      obtain ⟨earlier, assignment, later, drafts, error, split, drafted, refused⟩ := first
      refine ⟨earlier, assignment, later, error, split, ?_, refused, ?_⟩
      · exact fun before listed => Assignment.drafted_of_mem drafted listed
      · rw [split]
        exact Session.stageAll_refused opened.selected opened.typed drafted refused

/-- A save after the staging applies the last value of each field, in the order in which the fields
are first assigned. -/
theorem saves_last
    (valid : ∀ assignment ∈ assignments, ∃ draft,
      assignment.Drafts element (session.fields elementType) draft) :
    ∃ drafts staged,
      drafts.map Draft.key =
        (assignments.map fun assignment => (element, assignment.field)).eraseDups ∧
      (∀ draft ∈ drafts,
        Assignment.DraftsLast element (session.fields elementType) assignments draft) ∧
      session.stageAll element assignments = (assignments, .ok staged) ∧
      staged.save.1.diagram = DraftBuffer.replay (Panel.applyDraft configuration.locations) drafts
        (Diagram.ofDocument document) := by
  cases Assignment.drafts_or_first_refused element (session.fields elementType) assignments with
  | inr first =>
      obtain ⟨earlier, assignment, later, _, _, split, _, refused⟩ := first
      obtain ⟨draft, made⟩ := valid assignment (by simp [split])
      exact absurd refused made.not_refused
  | inl all =>
      obtain ⟨made, drafted⟩ := all
      let buffer := made.foldl DraftBuffer.stage .empty
      have accepted := Session.stageAll_drafts opened.selected opened.typed drafted [] .empty
      have fresh : session.withDrafts .empty = session := by
        rw [← opened.clean]
        rfl
      rw [fresh, List.append_nil] at accepted
      refine ⟨buffer.drafts, session.withDrafts buffer, ?_, ?_, ?_, ?_⟩
      · rw [DraftBuffer.keys_foldl_stage, Assignment.keys_drafts drafted]
      · intro draft left
        cases Assignment.mem_foldl_stage drafted left with
        | inl kept => exact absurd kept.1 List.not_mem_nil
        | inr last => exact last
      · rw [accepted]
        simp only [stageAll, List.append_nil]
        rfl
      · have ready : (session.withDrafts buffer).panel.ready = true := opened.ready
        rw [Session.diagram_save ready, ← opened.configured, ← opened.untouched]
        rfl

end Session.Opened

/-- The tree of files after a session has been stored. -/
def OpenSession.storedIn (opened : OpenSession) (session : Session) (tree : FileTree) : FileTree :=
  if 0 < session.diagram.revision then
    (Workspace.on (opened.store.save session.diagram.toDocument opened.pretty) tree).2
  else tree

theorem OpenSession.tree_store? (opened : OpenSession) (session : Session) (said : Transcript)
    (tree : FileTree) :
    ((opened.store? session).on said tree).2 = opened.storedIn session tree := by
  unfold store? storedIn
  split
  · rw [Run.on_ofWorkspace]
  · rw [Run.on_pure]

/-- What follows the staging finds the files as they were and stores the session that is saved. -/
theorem set_staging {style : Style} {options : Options} {element : ElementId}
    {assignments : List Assignment} {said heard : Transcript} {tree : FileTree}
    {opened : OpenSession}
    (loaded : (openSession style options element).on said tree = ((.ok opened, heard), tree))
    {accepted : List Assignment} {outcome : Except CommandError Session}
    (staging : opened.session.stageAll element assignments = (accepted, outcome)) :
    ∃ (printed : Transcript) (rest : Session → Run (StateM FileTree) Unit),
      (set style options element assignments).on said tree =
        (liftExcept outcome >>= rest).on printed tree ∧
      ∀ staged, ((rest staged).on printed tree).2 = opened.storedIn staged.save.1 tree := by
  have notes := Run.speaks_forIn accepted fun assignment =>
    style.speaks_noteAbout "set"
      ("Staged " ++ assignment.field ++ "=" ++ Printable.quote assignment.raw)
  obtain ⟨printed, spoken⟩ := notes heard tree
  refine ⟨printed, ?_⟩
  apply Exists.intro
  constructor
  -- what follows is read off the command
  · rw [set, Run.on_bind_value loaded, staging]
    dsimp only
    rw [Run.on_bind_value spoken]
  · intro staged
    obtain ⟨_, counted⟩ := (style.speaks_noteAbout "set"
      (toString staged.save.1.diagram.revision ++ " model update(s)")).on_bind _ printed tree
    rw [counted, Run.tree_on_bind, OpenSession.tree_store?]
    -- only the notice is left, and it is printed or thrown
    intro _
    split
    · exact (style.speaks_success _).reads
    · split
      · exact Run.reads_throw _
      · exact (style.speaks_success _).reads

/-- A command that sets fields fails and changes nothing if one of its assignments is refused. If
none is, then the last value of each field is applied to the stored diagram, in the order in which
the fields are first assigned. -/
theorem set_all_or_nothing (style : Style) (options : Options) (element : ElementId)
    (assignments : List Assignment) (said : Transcript) (tree : FileTree) :
    match (openSession style options element).on said tree with
    | ((.error error, heard), _) =>
        (set style options element assignments).on said tree = ((.error error, heard), tree)
    | ((.ok opened, _), _) =>
        ∃ configuration document elementType,
          opened.Loaded style options element said tree configuration document ∧
          opened.session.Opened configuration document element elementType ∧
          let fields := opened.session.fields elementType
          (∀ count staged,
            (opened.session.stageAll element (assignments.take count)).2 = .ok staged →
              staged.diagram = Diagram.ofDocument document) ∧
          ((∃ assignment ∈ assignments, ∃ error, assignment.Refused element fields error) →
            ∃ earlier assignment later error printed,
              assignments = earlier ++ assignment :: later ∧
              (∀ before ∈ earlier, ∃ draft, before.Drafts element fields draft) ∧
              assignment.Refused element fields error ∧
              (set style options element assignments).on said tree =
                ((.error error, printed), tree)) ∧
          ((∀ assignment ∈ assignments, ∃ draft, assignment.Drafts element fields draft) →
            ∃ drafts staged,
              drafts.map Draft.key =
                (assignments.map fun assignment => (element, assignment.field)).eraseDups ∧
              (∀ draft ∈ drafts, Assignment.DraftsLast element fields assignments draft) ∧
              (opened.session.stageAll element assignments).2 = .ok staged ∧
              staged.save.1.diagram =
                DraftBuffer.replay (Panel.applyDraft configuration.locations) drafts
                  (Diagram.ofDocument document) ∧
              ((set style options element assignments).on said tree).2 =
                opened.storedIn staged.save.1 tree) := by
  have reads := reads_openSession style options element said tree
  split
  · rename_i error heard after outcome
    rw [outcome] at reads
    cases reads
    rw [set, Run.on_bind, outcome]
  · rename_i opened heard after outcome
    rw [outcome] at reads
    cases reads
    obtain ⟨configuration, document, loaded⟩ := openSession_loaded outcome
    obtain ⟨elementType, selected⟩ := Session.select_opened loaded.selected
    refine ⟨configuration, document, elementType, loaded, selected, ?_, ?_, ?_⟩
    · intro count staged done
      exact (Session.diagram_stageAll done).trans selected.untouched
    · intro refused
      obtain ⟨earlier, assignment, later, error, parts, before, stops, staging⟩ :=
        selected.stops_at_refused refused
      obtain ⟨printed, rest, reached, _⟩ := set_staging outcome staging
      refine ⟨earlier, assignment, later, error, printed, parts, before, stops, ?_⟩
      rw [reached, Run.on_bind, Run.on_liftExcept]
    · intro valid
      obtain ⟨drafts, staged, keys, last, staging, saved⟩ := selected.saves_last valid
      obtain ⟨printed, rest, reached, stored⟩ := set_staging outcome staging
      refine ⟨drafts, staged, keys, last, congrArg Prod.snd staging, saved, ?_⟩
      rw [reached, Run.on_bind, Run.on_liftExcept]
      exact stored staged

section Form

/-- A form shows a key that is read-only and a name that can be edited. -/
def formJson : Json :=
  .object [
    ("locations", .object [("attribute", .list [.object [("property", .text "$id")]])]),
    ("elements", .object [("common", .object [
      ("key", .object [("location", .text "attribute"), ("readonly", .flag true)]),
      ("name", .object [("location", .text "attribute")])])])]

def formConfiguration : Configuration :=
  let key : FieldDescriptor := { FieldDescriptor.atLocation "attribute" with readonly := true }
  ⟨.ofList [("attribute", ⟨"attribute", [.leaf .fieldId]⟩)],
    .ofList [("key", key), ("name", .atLocation "attribute")], .empty, []⟩

/-- A document with one task that has these properties. -/
def formDocument (properties : List (String × Property)) : DiagramDocument :=
  ⟨.permissive, [⟨"task", "Task", ⟨"Task", properties, none⟩⟩]⟩

/-- The working directory holds the form and a task without properties. -/
def formTree : FileTree :=
  let bare : FileTree := ⟨.empty, [], .empty⟩
  (bare.plant ["form.json"] (.file formJson.compact)).plant ["tasks.json"]
    (.file (formDocument []).toJson.compact)

def formOptions : Options :=
  { Options.none with configuration := some ⟨"form.json"⟩, diagram := some ⟨"tasks.json"⟩ }

theorem loadFile_form :
    Workspace.on (Configuration.loadFile ⟨"form.json"⟩) formTree =
      (.ok formConfiguration, formTree) := by
  have integral : formJson.Integral := by
    simp [formJson, Json.Integral, Json.IntegralMembers, Json.IntegralItems]
  refine Configuration.on_loadFile_json (by rfl) (by decide) ?_
  rw [Configuration.ofJsonText, Json.source?_compact _ integral]
  rfl

theorem load_form :
    Workspace.on (DiagramStore.load ⟨⟨"tasks.json"⟩⟩) formTree =
      (.ok (formDocument []), formTree) := by
  refine DiagramStore.on_load (by rfl) ?_
  rw [DiagramDocument.ofText?_compact]
  rfl

/-- A saved document takes the place of the one that the session was opened with. -/
theorem save_form (document : DiagramDocument) :
    (Workspace.on (DiagramStore.save ⟨⟨"tasks.json"⟩⟩ document true) formTree).2.read
      ⟨"tasks.json"⟩ = .ok (document.toJson.indented ++ "\n") := by
  rfl

/-- The task can be opened, and it shows both fields of the form. -/
theorem openSession_form (style : Style) : ∃ session heard,
    (openSession style formOptions "task").on .empty formTree =
      ((.ok ⟨session, ⟨⟨"tasks.json"⟩⟩, true⟩, heard), formTree) ∧
    session.Opened formConfiguration (formDocument []) "task" "Task" ∧
    session.fields "Task" = formConfiguration.common.entries := by
  obtain ⟨session, selected⟩ : ∃ session,
      (Session.start formConfiguration (formDocument [])).select "task" = .ok session := ⟨_, rfl⟩
  have around : Workspace.on Project.current? formTree = (.ok none, formTree) := by rfl
  obtain ⟨heard, opening⟩ :=
    openSession_files style formOptions .empty around rfl loadFile_form rfl load_form selected
  obtain ⟨elementType, opened⟩ := Session.select_opened selected
  have typed : elementType = "Task" := by
    have typed := opened.typed
    rw [opened.untouched] at typed
    exact (Option.some.inj typed).symm
  subst typed
  refine ⟨session, heard, opening, opened, ?_⟩
  rw [Session.fields, opened.configured]
  rfl

def formDraft (name : String) : Draft :=
  ⟨"task", "name", .atLocation "attribute", (FieldInput.text name).value⟩

theorem drafts_form {fields : List (String × FieldDescriptor)}
    (shown : fields = formConfiguration.common.entries) {name : String} {draft : Draft} :
    Assignment.Drafts "task" fields ⟨"name", name⟩ draft ↔ draft = formDraft name := by
  subst shown
  constructor
  · rintro ⟨shown, _, parsed⟩
    cases shown
    cases parsed
    rfl
  · rintro rfl
    exact .intro rfl rfl rfl

/-- Of two names the later one is drafted. -/
theorem draftsLast_form {fields : List (String × FieldDescriptor)}
    (shown : fields = formConfiguration.common.entries) {first second : String} {draft : Draft}
    (last : Assignment.DraftsLast "task" fields [⟨"name", first⟩, ⟨"name", second⟩] draft) :
    draft = formDraft second := by
  obtain ⟨earlier, assignment, later, parts, once, drafted⟩ := last
  match earlier, parts with
  | [], parts =>
      obtain ⟨rfl, rfl⟩ := List.cons.inj parts
      exact absurd rfl (once ⟨"name", second⟩ (List.mem_singleton_self _))
  | [_], parts =>
      obtain ⟨rfl, _⟩ := List.cons.inj (List.cons.inj parts).2
      exact (drafts_form shown).mp drafted
  | _ :: _ :: _, parts => simp at parts

/-- A key that is refused keeps the name in front of it from being stored, and of two names the
later one is stored. -/
theorem set_all_or_nothing_form :
    (∃ error printed,
      (set ⟨.text, true⟩ formOptions "task" [⟨"name", "n"⟩, ⟨"key", "k"⟩]).on .empty formTree =
        ((.error error, printed), formTree)) ∧
    ((set ⟨.text, true⟩ formOptions "task" [⟨"name", "m"⟩, ⟨"name", "n"⟩]).on .empty
      formTree).2.read ⟨"tasks.json"⟩ =
        .ok ((formDocument [("name", .scalar (.text "n"))]).toJson.indented ++ "\n") := by
  -- Nothing that is stored depends on the style.
  generalize (⟨.text, true⟩ : Style) = style
  obtain ⟨session, heard, opening, own, fields⟩ := openSession_form style
  constructor
  · have refused := set_all_or_nothing style formOptions "task" [⟨"name", "n"⟩, ⟨"key", "k"⟩]
      .empty formTree
    rw [opening] at refused
    obtain ⟨_, _, elementType, _, opened, _, fails, _⟩ := refused
    cases Option.some.inj (opened.typed.symm.trans own.typed)
    have key : Assignment.Refused "task" (session.fields "Task") ⟨"key", "k"⟩
        (.readonlyField "key") := .readonly (by rw [fields]; rfl) rfl
    obtain ⟨_, _, _, error, printed, _, _, _, ended⟩ := fails ⟨_, by simp, _, key⟩
    exact ⟨error, printed, ended⟩
  · have accepted := set_all_or_nothing style formOptions "task" [⟨"name", "m"⟩, ⟨"name", "n"⟩]
      .empty formTree
    rw [opening] at accepted
    obtain ⟨_, _, elementType, _, opened, _, _, succeeds⟩ := accepted
    cases Option.some.inj (opened.typed.symm.trans own.typed)
    cases opened.configured.symm.trans own.configured
    have valid : ∀ assignment ∈ ([⟨"name", "m"⟩, ⟨"name", "n"⟩] : List Assignment),
        ∃ draft, assignment.Drafts "task" (session.fields "Task") draft := by
      simp [drafts_form fields]
    obtain ⟨drafts, staged, keys, last, _, saved, stored⟩ := succeeds valid
    obtain ⟨draft, rfl, _⟩ := List.map_eq_singleton_iff.mp keys
    rw [draftsLast_form fields (last draft (by simp)), ← opened.untouched, own.untouched] at saved
    have revised : 0 < staged.save.1.diagram.revision := by
      rw [saved]
      decide
    have renamed : staged.save.1.diagram.toDocument =
        formDocument [("name", .scalar (.text "n"))] := by
      rw [saved]
      rfl
    rw [stored, OpenSession.storedIn, if_pos revised, renamed]
    exact save_form _

end Form

end PropertyPanel.CommandLine
