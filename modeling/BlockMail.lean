import BlockMail.Decode.Error
import BlockMail.Decode.Layer
import BlockMail.Decode.Record
import BlockMail.Decode.Simple
import BlockMail.Editor.Mutation
import BlockMail.Editor.MutationCodec
import BlockMail.Editor.Session
import BlockMail.Html.Declarations
import BlockMail.Html.Fragment
import BlockMail.Html.Interpolation
import BlockMail.Html.Node
import BlockMail.Html.Page
import BlockMail.Html.PlainText
import BlockMail.Http.Api
import BlockMail.Http.MediaType
import BlockMail.Http.Message
import BlockMail.Http.Route
import BlockMail.Http.SocketAddress
import BlockMail.Json.Basic
import BlockMail.Json.Draft
import BlockMail.Json.Numeral
import BlockMail.Json.Writer
import BlockMail.Keyed.ByArrival
import BlockMail.Keyed.ByKey
import BlockMail.Keyed.Pairs
import BlockMail.Mail.Address
import BlockMail.Mail.Mailbox
import BlockMail.Mail.MemoryTransport
import BlockMail.Mail.Message
import BlockMail.Mail.Outbox
import BlockMail.Mail.Relay
import BlockMail.Main
import BlockMail.Network.Address
import BlockMail.Number.Basic
import BlockMail.Number.Double
import BlockMail.Number.Port
import BlockMail.Number.Shortest
import BlockMail.Project.Arguments
import BlockMail.Project.Command
import BlockMail.Project.CommandLine
import BlockMail.Project.Compile
import BlockMail.Project.Config
import BlockMail.Project.Database
import BlockMail.Project.FileTree
import BlockMail.Project.Files
import BlockMail.Project.Path
import BlockMail.Project.Serve
import BlockMail.Project.Server
import BlockMail.Project.Start
import BlockMail.Project.Usage
import BlockMail.Proofs.Editor.InStep
import BlockMail.Proofs.Editor.Mutation
import BlockMail.Proofs.Editor.Session
import BlockMail.Proofs.Keyed.Lookup
import BlockMail.Proofs.Service.Deletion
import BlockMail.Proofs.Service.Lifetime
import BlockMail.Proofs.Service.Operation
import BlockMail.Proofs.Service.Protocol
import BlockMail.Proofs.Service.Reading
import BlockMail.Proofs.Service.Save
import BlockMail.Proofs.Service.Schedule
import BlockMail.Proofs.Service.Secrecy
import BlockMail.Proofs.Service.Stored
import BlockMail.Proofs.Store.Alike
import BlockMail.Proofs.Store.Entry
import BlockMail.Proofs.Template.Codec
import BlockMail.Proofs.Template.Patch
import BlockMail.Proofs.Template.Validity
import BlockMail.Proofs.Time.Timestamps
import BlockMail.Service.Basic
import BlockMail.Service.Error
import BlockMail.Service.Program
import BlockMail.Service.World
import BlockMail.Store.Basic
import BlockMail.Store.Error
import BlockMail.Store.Memory
import BlockMail.Store.Table
import BlockMail.Template.Block
import BlockMail.Template.Blocks
import BlockMail.Template.Document
import BlockMail.Template.Identity
import BlockMail.Template.Kind
import BlockMail.Template.Patch
import BlockMail.Template.Scalar
import BlockMail.Template.Starter
import BlockMail.Template.Visibility
import BlockMail.Text.Blank
import BlockMail.Text.Invisible
import BlockMail.Text.Percent
import BlockMail.Text.Quoted
import BlockMail.Text.Replace
import BlockMail.Text.Split
import BlockMail.Time.Calendar
import BlockMail.Time.Instant
import BlockMail.Time.Rfc3339
import BlockMail.Proofs.Editor.History
import BlockMail.Proofs.Editor.Saving
import BlockMail.Proofs.Number.Rounding
import BlockMail.Proofs.Number.Shortest
import BlockMail.Proofs.Json.NumeralText
import BlockMail.Proofs.Json.NumeralValue
import BlockMail.Proofs.Json.NumberText
import BlockMail.Proofs.Json.Parsed
import BlockMail.Proofs.Template.Reread
import BlockMail.Proofs.Service.Legible
import BlockMail.Proofs.Service.Agreement
import BlockMail.Proofs.Service.Overlap
import BlockMail.Proofs.Store.Listing
import BlockMail.Proofs.Store.Catalogue
import BlockMail.Proofs.Service.Aftermath
import BlockMail.Proofs.Http.Account
import BlockMail.Proofs.Http.Principal
import BlockMail.Proofs.Http.Isolation
import BlockMail.Proofs.Html.Placeholders
import BlockMail.Proofs.Html.Attributes
import BlockMail.Proofs.Html.Shell
import BlockMail.Proofs.Decode.Complete
import BlockMail.Proofs.Service.Delivery
import BlockMail.Proofs.Http.Preview
import BlockMail.Proofs.Template.Written
import BlockMail.Proofs.Html.Layout
import BlockMail.Proofs.Decode.Fieldwise
import BlockMail.Proofs.Time.LenientText
import BlockMail.Proofs.Template.DocumentCodec
import BlockMail.Proofs.Store.RoundTrip
import BlockMail.Proofs.Editor.Wire
import BlockMail.Proofs.Template.Payload
import BlockMail.Proofs.Store.Readable
import BlockMail.Proofs.Store.Shown
import BlockMail.Proofs.Store.Lineage
import BlockMail.Proofs.Mail.Admission
import BlockMail.Proofs.Service.Overview
import BlockMail.Proofs.Service.Sending
import BlockMail.Proofs.Service.Provenance
import BlockMail.Proofs.InPlace
import BlockMail.Proofs.Text.Split
import BlockMail.Proofs.Editor.InPlace
import BlockMail.Proofs.Editor.Rearrangement
import BlockMail.Proofs.Editor.Bookkeeping
import BlockMail.Proofs.Project.Names
import BlockMail.Proofs.Project.Places
import BlockMail.Proofs.Project.Compilation
import BlockMail.Proofs.Project.Rendering
import BlockMail.Proofs.Keyed.Order
import BlockMail.Proofs.Template.ContentFields
import BlockMail.Proofs.Editor.OneKey
import BlockMail.Proofs.Html.Precedence
import BlockMail.Proofs.Html.Personalisation
import BlockMail.Proofs.Store.Statement
import BlockMail.Proofs.Store.FieldUpdate
import BlockMail.Proofs.Text.Blank
import BlockMail.Proofs.Text.Leftmost
import BlockMail.Proofs.Html.TidyText
import BlockMail.Proofs.Html.Tags
import BlockMail.Proofs.Html.Entities
import BlockMail.Proofs.Html.Paragraphs
import BlockMail.Proofs.Html.EntityPass
import BlockMail.Proofs.Html.PagesTogether
import BlockMail.Proofs.Template.FirstFault
import BlockMail.Proofs.Project.DirectoryCompilation
import BlockMail.Proofs.Time.TimeLine
import BlockMail.Proofs.Store.NewestFirst
import BlockMail.Proofs.Html.PropertyNames
