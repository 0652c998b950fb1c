import PropertyPanel.BusinessObject.Basic
import PropertyPanel.BusinessObject.Json
import PropertyPanel.CommandLine.Arguments
import PropertyPanel.CommandLine.Commands
import PropertyPanel.CommandLine.Report
import PropertyPanel.CommandLine.Request
import PropertyPanel.CommandLine.Session
import PropertyPanel.Configuration.Basic
import PropertyPanel.Configuration.Builtin
import PropertyPanel.Configuration.Declaration
import PropertyPanel.Configuration.Field
import PropertyPanel.Configuration.Subtype
import PropertyPanel.Configuration.Text
import PropertyPanel.Diagram.Document
import PropertyPanel.Diagram.Host
import PropertyPanel.Diagram.Locked
import PropertyPanel.Diagram.Memory
import PropertyPanel.Diagram.Registry
import PropertyPanel.Diagram.Update
import PropertyPanel.Dictionary
import PropertyPanel.Draft
import PropertyPanel.Files.Path
import PropertyPanel.Files.System
import PropertyPanel.Files.Tree
import PropertyPanel.Form.Label
import PropertyPanel.Form.Notice
import PropertyPanel.Form.Value
import PropertyPanel.Form.View
import PropertyPanel.Json.Basic
import PropertyPanel.Json.Reader
import PropertyPanel.Json.Token
import PropertyPanel.Json.Writer
import PropertyPanel.Location.Descriptor
import PropertyPanel.Location.Step
import PropertyPanel.Main
import PropertyPanel.NameSet
import PropertyPanel.Number.Binary64
import PropertyPanel.Number.Decimal
import PropertyPanel.Number.Integer
import PropertyPanel.Panel
import PropertyPanel.Proofs.Audit
import PropertyPanel.Proofs.Builtin
import PropertyPanel.Proofs.BusinessObject
import PropertyPanel.Proofs.BusinessObject.Json
import PropertyPanel.Proofs.BusinessObject.Names
import PropertyPanel.Proofs.BusinessObject.Reading
import PropertyPanel.Proofs.CommandLine.Opening
import PropertyPanel.Proofs.CommandLine.Setting
import PropertyPanel.Proofs.CommandLine.Staging
import PropertyPanel.Proofs.Configuration
import PropertyPanel.Proofs.Configuration.Accounting
import PropertyPanel.Proofs.Configuration.Warnings
import PropertyPanel.Proofs.Diagram.Document
import PropertyPanel.Proofs.Diagram.Slice
import PropertyPanel.Proofs.Dictionary
import PropertyPanel.Proofs.DraftBuffer
import PropertyPanel.Proofs.DraftFlush
import PropertyPanel.Proofs.DraftHistory
import PropertyPanel.Proofs.Files.Reading
import PropertyPanel.Proofs.Form
import PropertyPanel.Proofs.Host
import PropertyPanel.Proofs.Json.Reader
import PropertyPanel.Proofs.Json.Token
import PropertyPanel.Proofs.Number.Integer
import PropertyPanel.Proofs.Outcome
import PropertyPanel.Proofs.Panel.Alike
import PropertyPanel.Proofs.Panel.Application
import PropertyPanel.Proofs.Panel.Consistency
import PropertyPanel.Proofs.Panel.Containment
import PropertyPanel.Proofs.Panel.Departure
import PropertyPanel.Proofs.Panel.Determination
import PropertyPanel.Proofs.Panel.Entry
import PropertyPanel.Proofs.Panel.Import
import PropertyPanel.Proofs.Panel.Lookup
import PropertyPanel.Proofs.Panel.Presence
import PropertyPanel.Proofs.Panel.Report
import PropertyPanel.Proofs.Panel.Retyping
import PropertyPanel.Proofs.Panel.Run
import PropertyPanel.Proofs.Panel.Save
import PropertyPanel.Proofs.Panel.SavedDocument
import PropertyPanel.Proofs.Panel.Shown
import PropertyPanel.Proofs.Panel.Staging
import PropertyPanel.Proofs.Panel.StagingOrder
import PropertyPanel.Proofs.Panel.Switch
import PropertyPanel.Proofs.Panel.View
import PropertyPanel.Proofs.Resolution.Acceptance
import PropertyPanel.Proofs.Resolution.Agreement
import PropertyPanel.Proofs.Resolution.Attachment
import PropertyPanel.Proofs.Resolution.Attribute
import PropertyPanel.Proofs.Resolution.Choice
import PropertyPanel.Proofs.Resolution.Creation
import PropertyPanel.Proofs.Resolution.Descent
import PropertyPanel.Proofs.Resolution.Determination
import PropertyPanel.Proofs.Resolution.Edit
import PropertyPanel.Proofs.Resolution.EndNodes
import PropertyPanel.Proofs.Resolution.Extension
import PropertyPanel.Proofs.Resolution.Failure
import PropertyPanel.Proofs.Resolution.Frame
import PropertyPanel.Proofs.Resolution.Join
import PropertyPanel.Proofs.Resolution.Leaves
import PropertyPanel.Proofs.Resolution.Names
import PropertyPanel.Proofs.Resolution.Placement
import PropertyPanel.Proofs.Resolution.Prune
import PropertyPanel.Proofs.Resolution.Read
import PropertyPanel.Proofs.Resolution.Removal
import PropertyPanel.Proofs.Resolution.Repetition
import PropertyPanel.Proofs.Resolution.Restoration
import PropertyPanel.Proofs.Resolution.Search
import PropertyPanel.Proofs.Resolution.Selection
import PropertyPanel.Proofs.Resolution.Separation
import PropertyPanel.Proofs.Resolution.Storage
import PropertyPanel.Proofs.Resolution.Switch
import PropertyPanel.Proofs.Resolution.SwitchLog
import PropertyPanel.Proofs.Resolution.Trail
import PropertyPanel.Proofs.Resolution.Write
import PropertyPanel.Resolution.Edit
import PropertyPanel.Resolution.Prune
import PropertyPanel.Resolution.Read
import PropertyPanel.Resolution.Subtype
import PropertyPanel.Resolution.Write
import PropertyPanel.Scalar
import PropertyPanel.Source
import PropertyPanel.Text.Blank
import PropertyPanel.Text.LetterCase
import PropertyPanel.Text.PlainCase
import PropertyPanel.Text.Printable
import PropertyPanel.Toml.Basic
import PropertyPanel.Toml.Plain
import PropertyPanel.Toml.Reader
import PropertyPanel.Toml.Token
import PropertyPanel.Toml.Writer
import PropertyPanel.Workspace.DiagramStore
import PropertyPanel.Workspace.Failure
import PropertyPanel.Workspace.Project
import PropertyPanel.Workspace.Sample
import PropertyPanel.Workspace.Settings
import PropertyPanel.Yaml.Atom
import PropertyPanel.Yaml.Quotation
import PropertyPanel.Yaml.Reader
import PropertyPanel.Yaml.Token
