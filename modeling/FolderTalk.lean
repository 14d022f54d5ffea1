import FolderTalk.Intent.Data
import FolderTalk.Main
import FolderTalk.Proofs.Text.Trimmed
import FolderTalk.Proofs.Text.Lowered
import FolderTalk.Proofs.Text.Words
import FolderTalk.Proofs.Text.Capitals
import FolderTalk.Proofs.Text.NameForms
import FolderTalk.Proofs.Command.Language
import FolderTalk.Proofs.Command.Spaced
import FolderTalk.Proofs.Command.Operand
import FolderTalk.Proofs.Command.Reading
import FolderTalk.Proofs.Command.Canonical
import FolderTalk.Proofs.Command.ReadBack
import FolderTalk.Proofs.Command.Grounded
import FolderTalk.Proofs.Command.Destructive
import FolderTalk.Proofs.Command.RuleOrder
import FolderTalk.Proofs.Command.ReadToEnd
import FolderTalk.Proofs.Command.Refusals
import FolderTalk.Proofs.Engine.FreeStamp
import FolderTalk.Proofs.Engine.DistinctIds
import FolderTalk.Proofs.Engine.Undo
import FolderTalk.Proofs.Engine.Forest
import FolderTalk.Proofs.Engine.SiblingNames
import FolderTalk.Proofs.Engine.Identity
import FolderTalk.Proofs.Engine.OpenFolder
import FolderTalk.Proofs.Engine.Failing
import FolderTalk.Proofs.Engine.Alike
import FolderTalk.Proofs.Engine.Colors
import FolderTalk.Proofs.Engine.Frame
import FolderTalk.Proofs.Engine.References
import FolderTalk.Proofs.Engine.NewFolder
import FolderTalk.Proofs.Engine.Moves
import FolderTalk.Proofs.Engine.MovedTwice
import FolderTalk.Proofs.Engine.Idle
import FolderTalk.Proofs.Config.LastWriter
import FolderTalk.Proofs.Config.Rejection
import FolderTalk.Proofs.Config.Spelling
import FolderTalk.Proofs.Config.Order
import FolderTalk.Proofs.Config.Header
import FolderTalk.Proofs.Config.Assigning
import FolderTalk.Proofs.Json.Cutting
import FolderTalk.Proofs.Json.Built
import FolderTalk.Proofs.Json.Numerals
import FolderTalk.Proofs.Json.RoundTrip
import FolderTalk.Proofs.Json.Reading
import FolderTalk.Proofs.Json.Writing
import FolderTalk.Proofs.Data.Returning
import FolderTalk.Proofs.Data.Records
import FolderTalk.Proofs.Session.Parts
import FolderTalk.Proofs.Session.Saving
import FolderTalk.Proofs.Session.Loading
import FolderTalk.Proofs.Session.Reload
import FolderTalk.Proofs.Session.OpenFolder
import FolderTalk.Proofs.Session.Filing
import FolderTalk.Proofs.Session.AnyDrawer
import FolderTalk.Proofs.Session.Savable
import FolderTalk.Proofs.Session.Failing
import FolderTalk.Proofs.Session.Twins
import FolderTalk.Proofs.Session.Reset
import FolderTalk.Proofs.Session.Contents
import FolderTalk.Proofs.Session.OneAtATime
import FolderTalk.Proofs.Session.Legible
import FolderTalk.Proofs.Session.Colors
import FolderTalk.Proofs.Session.Numbering
import FolderTalk.Proofs.Session.Kept
import FolderTalk.Proofs.Session.Conversation
import FolderTalk.Proofs.Session.Repair
import FolderTalk.Proofs.Session.Mutated
import FolderTalk.Proofs.Storage.Repository
import FolderTalk.Proofs.Storage.Isolation
import FolderTalk.Proofs.Storage.Following
import FolderTalk.Proofs.Yaml.FlowList
import FolderTalk.Proofs.Yaml.Scalars
import FolderTalk.Proofs.Yaml.Comments
import FolderTalk.Proofs.Yaml.Written
import FolderTalk.Proofs.Config.Saved
import FolderTalk.Proofs.Config.Environment
import FolderTalk.Proofs.Number.Overflow
import FolderTalk.Proofs.CommandLine.KeptName
import FolderTalk.Proofs.CommandLine.Opening
import FolderTalk.Proofs.Diff.Unified
import FolderTalk.Proofs.Config.Unseen
import FolderTalk.Proofs.CommandLine.ConfigSet
import FolderTalk.Proofs.Engine.CreatedTwice
import FolderTalk.Proofs.Outline.Shown
