/-
This file proves that the settings, the configuration and the diagram of a project are found without
a change to any file, and what is found in files that can be read.
-/

import PropertyPanel.Files.Tree
import PropertyPanel.Workspace.Project

namespace PropertyPanel

namespace FileTree

variable {First Value : Type}

/-- An action only reads if it leaves every tree of files as it is. -/
def Reads (action : StateM FileTree Value) : Prop := ∀ tree, (action.run tree).2 = tree

theorem reads_pure (value : Value) : Reads (pure value) := fun _ => rfl

theorem reads_bind {action : StateM FileTree First} {next : First → StateM FileTree Value}
    (first : Reads action) (rest : ∀ value, Reads (next value)) : Reads (action >>= next) := by
  intro tree
  change ((next (action.run tree).1).run (action.run tree).2).2 = tree
  rw [rest, first]

theorem reads_workingDirectory : Reads FileSystem.workingDirectory := fun _ => rfl

theorem reads_environment? (name : String) : Reads (FileSystem.environment? name) := fun _ => rfl

theorem reads_read (path : Path) : Reads (FileSystem.read path) := fun _ => rfl

theorem reads_readLocked (path : Path) : Reads (FileSystem.readLocked path) := fun _ => rfl

theorem reads_isFile (path : Path) : Reads (FileSystem.isFile path) := by
  refine reads_bind (reads_read path) fun content => ?_
  cases content with
  | ok content => exact reads_pure true
  | error error => exact reads_pure false

theorem reads_isPresent (path : Path) : Reads (FileSystem.isPresent path) := by
  refine reads_bind (reads_read path) fun content => ?_
  cases content with
  | ok content => exact reads_pure true
  | error error => exact reads_pure _

theorem reads_findM? {test : First → StateM FileTree Bool} (each : ∀ value, Reads (test value))
    (values : List First) : Reads (values.findM? test) := by
  induction values with
  | nil => exact reads_pure none
  | cons value rest ih =>
      rw [List.findM?]
      refine reads_bind (each value) fun found => ?_
      cases found with
      | true => exact reads_pure (some value)
      | false => exact ih

end FileTree

namespace Workspace

variable {First Value : Type}

/-- What a computation on a tree of files comes to. -/
def on (work : Workspace (StateM FileTree) Value) (tree : FileTree) :
    Except WorkspaceError Value × FileTree :=
  work.run.run tree

section Value

variable {tree after : FileTree} {value : First}

/-- What follows a computation that succeeds goes on with its value. -/
theorem on_bind_value {work : Workspace (StateM FileTree) First}
    {next : First → Workspace (StateM FileTree) Value}
    (done : work.on tree = (.ok value, after)) :
    (work >>= next).on tree = (next value).on after := by
  change (ExceptT.bindCont next (work.on tree).1).run (work.on tree).2 = _
  rw [done]
  rfl

theorem on_demand_value {Refusal : Type} {operation : StateM FileTree (Except Refusal First)}
    (done : operation.run tree = (.ok value, after)) (wrap : Refusal → WorkspaceError) :
    (demand operation wrap).on tree = (.ok value, after) := by
  rw [on, demand, ExceptT.run_mk, StateT.run_bind, done]
  rfl

end Value

/-- A computation on a workspace only reads whether it fails or not. -/
def Reads (work : Workspace (StateM FileTree) Value) : Prop := ∀ tree, (work.on tree).2 = tree

theorem reads_pure (value : Value) : Reads (pure value) := fun _ => rfl

theorem reads_throw (error : WorkspaceError) :
    Reads (throw error : Workspace (StateM FileTree) Value) := fun _ => rfl

theorem reads_liftExcept (outcome : Except WorkspaceError Value) :
    Reads (liftExcept outcome : Workspace (StateM FileTree) Value) := by
  cases outcome with
  | ok value => exact reads_pure value
  | error error => exact reads_throw error

theorem reads_bind {work : Workspace (StateM FileTree) First}
    {next : First → Workspace (StateM FileTree) Value} (first : Reads work)
    (rest : ∀ value, Reads (next value)) : Reads (work >>= next) := by
  change FileTree.Reads (work.run >>= ExceptT.bindCont next)
  refine FileTree.reads_bind first fun outcome => ?_
  cases outcome with
  | ok value => exact rest value
  | error error => exact FileTree.reads_pure (Except.error error)

theorem reads_lift {action : StateM FileTree Value} (reads : FileTree.Reads action) :
    Reads (monadLift action) :=
  FileTree.reads_bind reads fun value => FileTree.reads_pure (Except.ok value)

theorem reads_demand {Refusal : Type} {operation : StateM FileTree (Except Refusal Value)}
    (reads : FileTree.Reads operation) (wrap : Refusal → WorkspaceError) :
    Reads (Workspace.demand operation wrap) := by
  refine FileTree.reads_bind reads fun outcome => ?_
  cases outcome with
  | ok value => exact FileTree.reads_pure (Except.ok value)
  | error error => exact FileTree.reads_pure (Except.error (wrap error))

end Workspace

open Workspace (Reads reads_pure reads_throw reads_liftExcept reads_bind reads_lift reads_demand)

namespace Settings

theorem reads_loadFile {Value : Type} (path : Path) (standard : Value)
    (unreadable : SystemError → WorkspaceError) (malformed : WorkspaceError)
    (ofTable? : Toml.Table → Option Value) :
    Reads (loadFile path standard unreadable malformed ofTable?) := by
  refine reads_bind (reads_lift (FileTree.reads_isPresent path)) fun present => ?_
  cases present with
  | true =>
      refine reads_bind (reads_demand (FileTree.reads_read path) _) fun text => ?_
      split
      · exact reads_pure _
      · exact reads_throw _
  | false => exact reads_pure _

theorem reads_userFile? : FileTree.Reads userFile? :=
  FileTree.reads_bind (FileTree.reads_environment? _) fun _ =>
    FileTree.reads_bind (FileTree.reads_environment? _) fun _ => FileTree.reads_pure _

theorem reads_loadUser : Reads loadUser := by
  refine reads_bind (reads_lift reads_userFile?) fun path? => ?_
  cases path? with
  | none => exact reads_pure _
  | some path => exact reads_loadFile path _ _ _ _

theorem reads_loadProject (root : Path) : Reads (loadProject root) := reads_loadFile _ _ _ _ _

theorem reads_findRoot? (start : Path) : FileTree.Reads (findRoot? start) :=
  FileTree.reads_findM? (fun _ => FileTree.reads_isFile _) _

theorem reads_forProject (root : Path) : Reads (forProject root) :=
  reads_bind reads_loadUser fun _ => reads_bind (reads_loadProject root) fun _ => reads_pure _

end Settings

namespace Project

theorem reads_openAt (root : Path) : Reads (openAt root) := by
  refine reads_bind (reads_lift (FileTree.reads_isFile _)) fun found => ?_
  cases found with
  | true => exact reads_bind (Settings.reads_forProject root) fun _ => reads_pure _
  | false => exact reads_throw _

theorem reads_current? : Reads current? := by
  refine reads_bind (reads_lift FileTree.reads_workingDirectory) fun directory => ?_
  refine reads_bind (reads_lift (Settings.reads_findRoot? directory)) fun root? => ?_
  cases root? with
  | none => exact reads_pure _
  | some root => exact reads_bind (reads_openAt root) fun _ => reads_pure _

end Project

namespace Configuration

theorem reads_loadFile (path : Path) : Reads (loadFile path) := by
  refine reads_bind (reads_demand (FileTree.reads_read path) _) fun text => ?_
  split
  · exact reads_pure _
  · exact reads_throw _

/-- The text of a file without a name for YAML is read as JSON. -/
theorem on_loadFile_json {path : Path} {tree : FileTree} {text : String}
    {configuration : Configuration} (present : tree.read path = .ok text)
    (json : isYaml path = false) (parsed : ofJsonText text = .ok configuration) :
    Workspace.on (loadFile path) tree = (.ok configuration, tree) := by
  have read : StateT.run (FileSystem.read path : StateM FileTree _) tree = (.ok text, tree) :=
    congrArg (Prod.mk · tree) present
  rw [loadFile, Workspace.on_bind_value (Workspace.on_demand_value read _), json,
    if_neg Bool.false_ne_true, parsed]
  rfl

theorem reads_loadBuiltin : Reads loadBuiltin := by
  unfold loadBuiltin
  exact reads_liftExcept _

end Configuration

theorem Project.reads_configuration (project : Project) : Reads project.configuration := by
  unfold Project.configuration
  split
  · exact Configuration.reads_loadFile _
  · exact Configuration.reads_loadBuiltin

/-- A document is loaded from the text in the file of its store. -/
theorem DiagramStore.on_load {store : DiagramStore} {tree : FileTree} {text : String}
    {document : DiagramDocument} (present : tree.readLocked store.path = .ok text)
    (parsed : DiagramDocument.ofText? text = some document) :
    Workspace.on store.load tree = (.ok document, tree) := by
  have read : StateT.run (FileSystem.readLocked store.path : StateM FileTree _) tree =
      (.ok text, tree) := congrArg (Prod.mk · tree) present
  rw [load, Workspace.on_bind_value (Workspace.on_demand_value read _), parsed]
  rfl

theorem DiagramStore.reads_load (store : DiagramStore) : Reads store.load := by
  refine reads_bind (reads_demand (FileTree.reads_readLocked store.path) _) fun text => ?_
  split
  · exact reads_pure _
  · exact reads_throw _

end PropertyPanel
