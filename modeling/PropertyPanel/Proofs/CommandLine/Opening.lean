/-
This file proves that a command opens its session without a change to any file.
-/

import PropertyPanel.CommandLine.Commands
import PropertyPanel.Proofs.Files.Reading

namespace PropertyPanel.CommandLine

namespace Run

variable {First Value : Type}

/-- What a run on a tree of files comes to, after what has been said before. -/
def on (run : Run (StateM FileTree) Value) (said : Transcript) (tree : FileTree) :
    (Except CommandError Value × Transcript) × FileTree :=
  (run.run.run said).run tree

section On

variable (said : Transcript) (tree : FileTree)

theorem on_pure (value : Value) : on (pure value) said tree = ((.ok value, said), tree) := rfl

/-- The first failure ends a run. -/
theorem on_bind (run : Run (StateM FileTree) First) (next : First → Run (StateM FileTree) Value) :
    (run >>= next).on said tree =
      match run.on said tree with
      | ((.ok value, heard), after) => (next value).on heard after
      | ((.error error, heard), after) => ((.error error, heard), after) := by
  change (((ExceptT.bindCont next (run.on said tree).1.1).run (run.on said tree).1.2).run
    (run.on said tree).2) = _
  obtain ⟨⟨outcome, heard⟩, after⟩ := run.on said tree
  cases outcome <;> rfl

theorem on_liftExcept (outcome : Except CommandError Value) :
    (liftExcept outcome : Run (StateM FileTree) Value).on said tree = ((outcome, said), tree) := by
  cases outcome <;> rfl

theorem on_ofWorkspace (work : Workspace (StateM FileTree) Value) :
    (ofWorkspace work).on said tree =
      (((work.on tree).1.mapError CommandError.workspace, said), (work.on tree).2) := rfl

end On

/-- What follows a run that succeeds goes on with its value. -/
theorem on_bind_value {run : Run (StateM FileTree) First}
    {next : First → Run (StateM FileTree) Value} {said heard : Transcript} {tree after : FileTree}
    {value : First} (done : run.on said tree = ((.ok value, heard), after)) :
    (run >>= next).on said tree = (next value).on heard after := by
  rw [on_bind, done]

theorem on_ofWorkspace_value {work : Workspace (StateM FileTree) Value} (said : Transcript)
    {tree after : FileTree} {value : Value} (done : work.on tree = (.ok value, after)) :
    (ofWorkspace work).on said tree = ((.ok value, said), after) := by
  rw [on_ofWorkspace, done]
  rfl

/-- A run on a workspace succeeds if the computation does. -/
theorem on_ofWorkspace_ok {work : Workspace (StateM FileTree) Value} {said heard : Transcript}
    {tree after : FileTree} {value : Value}
    (done : (ofWorkspace work).on said tree = ((.ok value, heard), after)) :
    work.on tree = (.ok value, after) := by
  rw [on_ofWorkspace] at done
  generalize work.on tree = result at done ⊢
  obtain ⟨outcome, left⟩ := result
  cases outcome with
  | ok found =>
      cases done
      rfl
  | error error => cases done

/-- A run only reads if it leaves every tree of files as it is. -/
def Reads (run : Run (StateM FileTree) Value) : Prop := ∀ said tree, (run.on said tree).2 = tree

/-- A run only speaks if it succeeds and leaves every tree of files as it is. -/
def Speaks (run : Run (StateM FileTree) Unit) : Prop :=
  ∀ said tree, ∃ heard, run.on said tree = ((.ok (), heard), tree)

theorem reads_pure (value : Value) : Reads (pure value) := fun _ _ => rfl

theorem reads_throw (error : CommandError) :
    Reads (throw error : Run (StateM FileTree) Value) := fun _ _ => rfl

theorem reads_bind {run : Run (StateM FileTree) First}
    {next : First → Run (StateM FileTree) Value} (first : Reads run)
    (rest : ∀ value, Reads (next value)) : Reads (run >>= next) := by
  intro said tree
  have before := first said tree
  rw [on_bind]
  split
  · rename_i value heard after outcome
    rw [outcome] at before
    exact (rest value heard after).trans before
  · rename_i error heard after outcome
    rw [outcome] at before
    exact before

/-- A run that succeeds after a reading run has succeeded on the same tree. -/
theorem Reads.on_bind_ok {run : Run (StateM FileTree) First} (reads : Reads run)
    {next : First → Run (StateM FileTree) Value} {said heard : Transcript} {tree after : FileTree}
    {value : Value} (done : (run >>= next).on said tree = ((.ok value, heard), after)) :
    ∃ first middle, run.on said tree = ((.ok first, middle), tree) ∧
      (next first).on middle tree = ((.ok value, heard), after) := by
  have same := reads said tree
  rw [on_bind] at done
  split at done
  · rename_i first middle between outcome
    rw [outcome] at same
    cases same
    exact ⟨first, middle, outcome, done⟩
  · cases done

theorem reads_liftExcept (outcome : Except CommandError Value) :
    Reads (liftExcept outcome : Run (StateM FileTree) Value) := by
  intro said tree
  rw [on_liftExcept]

theorem reads_ofWorkspace {work : Workspace (StateM FileTree) Value} (reads : work.Reads) :
    Reads (ofWorkspace work) := fun _ tree => reads tree

/-- A reading run leaves the tree of the run before it. -/
theorem tree_on_bind (run : Run (StateM FileTree) First)
    {next : First → Run (StateM FileTree) Value} (rest : ∀ value, Reads (next value))
    (said : Transcript) (tree : FileTree) :
    ((run >>= next).on said tree).2 = (run.on said tree).2 := by
  rw [on_bind]
  split
  · rename_i value heard after outcome
    rw [outcome]
    exact rest value heard after
  · rename_i error heard after outcome
    rw [outcome]

theorem Speaks.reads {run : Run (StateM FileTree) Unit} (speaks : Speaks run) : Reads run := by
  intro said tree
  obtain ⟨heard, same⟩ := speaks said tree
  rw [same]

/-- What follows a run that only speaks is heard after it. -/
theorem Speaks.on_bind {run : Run (StateM FileTree) Unit} (speaks : Speaks run)
    (next : Unit → Run (StateM FileTree) Value) (said : Transcript) (tree : FileTree) :
    ∃ heard, (run >>= next).on said tree = (next ()).on heard tree := by
  obtain ⟨heard, same⟩ := speaks said tree
  exact ⟨heard, on_bind_value same⟩

theorem speaks_pure : Speaks (pure ()) := fun said _ => ⟨said, rfl⟩

theorem speaks_print (line : String) : Speaks (print line) := fun _ _ => ⟨_, rfl⟩

theorem speaks_complain (line : String) : Speaks (complain line) := fun _ _ => ⟨_, rfl⟩

theorem speaks_forIn (values : List First) {body : First → Run (StateM FileTree) Unit}
    (each : ∀ value, Speaks (body value)) :
    Speaks (forIn values PUnit.unit fun value _ => do
      body value
      pure (ForInStep.yield PUnit.unit)) := by
  induction values with
  | nil => exact speaks_pure
  | cons value rest ih =>
      intro said tree
      obtain ⟨heard, first⟩ := each value said tree
      obtain ⟨last, later⟩ := ih heard tree
      refine ⟨last, ?_⟩
      rw [List.forIn_cons, on_bind, on_bind_value first]
      exact later

end Run

open Run (Reads Speaks reads_pure reads_throw reads_bind reads_liftExcept reads_ofWorkspace)

theorem Style.speaks_noteAbout (style : Style) (subject line : String) :
    Speaks (style.noteAbout subject line) := by
  unfold noteAbout
  split
  · exact Run.speaks_complain _
  · exact Run.speaks_pure

theorem Style.speaks_success (style : Style) (message : String) :
    Speaks (style.success message) := by
  unfold success
  split <;> exact Run.speaks_print _

theorem reads_configuration (style : Style) (options : Options) :
    Reads (configuration style options) := by
  unfold configuration
  refine reads_bind (reads_ofWorkspace Project.reads_current?) fun project => ?_
  have noted (subject line : String) : Reads (style.noteAbout subject line) :=
    (style.speaks_noteAbout subject line).reads
  have warned (configuration : Configuration) : Reads (do
      for warning in configuration.warnings do
        style.noteAbout "config" ("Warning: " ++ warning.message)
      return configuration) :=
    reads_bind (Run.speaks_forIn _ fun _ => style.speaks_noteAbout _ _).reads fun _ =>
      reads_pure configuration
  dsimp only
  split
  · exact reads_bind (noted _ _) fun _ =>
      reads_bind (reads_ofWorkspace (Configuration.reads_loadFile _)) warned
  · exact reads_bind (noted _ _) fun _ =>
      reads_bind (reads_ofWorkspace (Project.reads_configuration _)) warned
  · exact reads_bind (noted _ _) fun _ =>
      reads_bind (reads_ofWorkspace Configuration.reads_loadBuiltin) warned

theorem reads_diagramStore (options : Options) : Reads (diagramStore options) := by
  unfold diagramStore
  refine reads_bind (reads_ofWorkspace Project.reads_current?) fun project => ?_
  dsimp only
  split
  · exact reads_pure _
  · exact reads_bind (reads_liftExcept _) fun _ => reads_pure _
  · exact reads_throw _

/-- A session is opened on the stored document under the configuration that is loaded. -/
structure OpenSession.Loaded (opened : OpenSession) (style : Style) (options : Options)
    (element : ElementId) (said : Transcript) (tree : FileTree) (configuration : Configuration)
    (document : DiagramDocument) : Prop where
  configured : ∃ heard,
    (CommandLine.configuration style options).on said tree = ((.ok configuration, heard), tree)
  stored : Workspace.on opened.store.load tree = (.ok document, tree)
  selected : (Session.start configuration document).select element = .ok opened.session

/-- A session that is opened has been loaded. -/
theorem openSession_loaded {style : Style} {options : Options} {element : ElementId}
    {said heard : Transcript} {tree after : FileTree} {opened : OpenSession}
    (done : (openSession style options element).on said tree = ((.ok opened, heard), after)) :
    ∃ configuration document,
      opened.Loaded style options element said tree configuration document := by
  unfold openSession at done
  obtain ⟨configuration, noted, configured, done⟩ :=
    (reads_configuration style options).on_bind_ok done
  obtain ⟨⟨store, pretty⟩, _, _, done⟩ := (reads_diagramStore options).on_bind_ok done
  obtain ⟨_, _, _, done⟩ := (style.speaks_noteAbout _ _).reads.on_bind_ok done
  obtain ⟨document, _, stored, done⟩ := (reads_ofWorkspace store.reads_load).on_bind_ok done
  obtain ⟨session, _, selected, done⟩ := (reads_liftExcept _).on_bind_ok done
  cases done
  rw [Run.on_liftExcept] at selected
  exact ⟨configuration, document, ⟨noted, configured⟩, Run.on_ofWorkspace_ok stored,
    congrArg (fun result => result.1.1) selected⟩

/-- A session is opened with the two files that are asked for by name, in a project or not. -/
theorem openSession_files (style : Style) (options : Options) {element : ElementId}
    (said : Transcript) {tree : FileTree} {project : Option Project}
    (around : Workspace.on Project.current? tree = (.ok project, tree))
    {form : Path} (named : options.configuration = some form) {configuration : Configuration}
    (loaded : Workspace.on (Configuration.loadFile form) tree = (.ok configuration, tree))
    {store : DiagramStore} (placed : options.diagram = some store.path)
    {document : DiagramDocument} (stored : Workspace.on store.load tree = (.ok document, tree))
    {session : Session} (selected : (Session.start configuration document).select element =
      .ok session) :
    ∃ heard, (openSession style options element).on said tree =
      ((.ok ⟨session, store,
        (project.map fun project => project.settings.project.pretty).getD true⟩, heard), tree) := by
  obtain ⟨used, use⟩ := style.speaks_noteAbout "config" ("Using " ++ form.text) said tree
  obtain ⟨warned, warning⟩ := Run.speaks_forIn configuration.warnings
    (fun warning => style.speaks_noteAbout "config" ("Warning: " ++ warning.message)) used tree
  have configured : (CommandLine.configuration style options).on said tree =
      ((.ok configuration, warned), tree) := by
    rw [CommandLine.configuration, Run.on_bind_value (Run.on_ofWorkspace_value said around), named]
    dsimp only
    rw [Run.on_bind_value use, Run.on_bind_value (Run.on_ofWorkspace_value used loaded),
      Run.on_bind_value warning, Run.on_pure]
  have located : (diagramStore options).on warned tree = ((.ok (store,
      (project.map fun project => project.settings.project.pretty).getD true), warned), tree) := by
    rw [diagramStore, Run.on_bind_value (Run.on_ofWorkspace_value warned around), placed]
    rfl
  obtain ⟨noted, note⟩ :=
    style.speaks_noteAbout "diagram" ("Loading " ++ store.path.text) warned tree
  refine ⟨noted, ?_⟩
  rw [openSession, Run.on_bind_value configured, Run.on_bind_value located]
  dsimp only
  rw [Run.on_bind_value note, Run.on_bind_value (Run.on_ofWorkspace_value noted stored), selected]
  rfl

theorem reads_openSession (style : Style) (options : Options) (element : ElementId) :
    Reads (openSession style options element) := by
  unfold openSession
  refine reads_bind (reads_configuration style options) fun configuration => ?_
  refine reads_bind (reads_diagramStore options) fun (store, pretty) => ?_
  refine reads_bind (style.speaks_noteAbout _ _).reads fun _ => ?_
  refine reads_bind (reads_ofWorkspace store.reads_load) fun document => ?_
  exact reads_bind (reads_liftExcept _) fun _ => reads_pure _

end PropertyPanel.CommandLine
