import Subscription.Action
import Subscription.Attachment
import Subscription.Calendar.Date
import Subscription.Calendar.Reader
import Subscription.Calendar.Timestamp
import Subscription.Command.Footprint
import Subscription.Command.Line
import Subscription.Command.Run
import Subscription.Command.Setting
import Subscription.Contract.Client
import Subscription.Contract.Envelope
import Subscription.Contract.Failure
import Subscription.Contract.Notice
import Subscription.Contract.Request
import Subscription.Decimal.Binary64
import Subscription.Decimal.Shortest
import Subscription.Entitlement.Access
import Subscription.Entitlement.Change
import Subscription.Entitlement.MachineToken
import Subscription.Entitlement.Override
import Subscription.Entitlement.Processor
import Subscription.Entitlement.Reconcile
import Subscription.Entitlement.Record
import Subscription.Entitlement.Registry
import Subscription.Environment
import Subscription.Files.Error
import Subscription.Files.Path
import Subscription.Files.Tree
import Subscription.Host.Machine
import Subscription.Host.Platform
import Subscription.Host.Release
import Subscription.Http.Address
import Subscription.Http.AddressPath
import Subscription.Http.Authority
import Subscription.Http.Credentials
import Subscription.Http.DomainName
import Subscription.Http.Field
import Subscription.Http.ForeignAddress
import Subscription.Http.Host
import Subscription.Http.Message
import Subscription.Http.NameMapping
import Subscription.Http.Percent
import Subscription.Http.Server
import Subscription.Http.Status
import Subscription.Json.Basic
import Subscription.Json.Fault
import Subscription.Json.Numeral
import Subscription.Json.Outline
import Subscription.Json.Printer
import Subscription.Json.Reader
import Subscription.Json.Shape
import Subscription.Keyed
import Subscription.Log
import Subscription.Main
import Subscription.Proofs.Action
import Subscription.Proofs.Contract.TokenExchange
import Subscription.Proofs.Entitlement.ChangeEquality
import Subscription.Proofs.Entitlement.Decoding
import Subscription.Proofs.Entitlement.Handed
import Subscription.Proofs.Entitlement.Patch
import Subscription.Proofs.Entitlement.Reconcile
import Subscription.Proofs.Entitlement.Tight
import Subscription.Proofs.Entitlement.View
import Subscription.Proofs.Journal
import Subscription.Proofs.Json.Equality
import Subscription.Proofs.Json.Sorted
import Subscription.Proofs.Keyed
import Subscription.Proofs.Update.Course
import Subscription.Proofs.Update.Progress
import Subscription.Proofs.Update.Replacement
import Subscription.Proofs.Update.Services
import Subscription.Redaction
import Subscription.Store.Basic
import Subscription.Store.File
import Subscription.Store.Memory
import Subscription.Text.Ascii
import Subscription.Text.Base64
import Subscription.Text.Blank
import Subscription.Text.CodeRange
import Subscription.Text.Combining
import Subscription.Text.CombiningClass
import Subscription.Text.Composition
import Subscription.Text.DecimalDigit
import Subscription.Text.Direction
import Subscription.Text.Joining
import Subscription.Text.Literal
import Subscription.Text.LowerCase
import Subscription.Text.Mark
import Subscription.Text.Printable
import Subscription.Text.Punycode
import Subscription.Text.Quoted
import Subscription.Text.Utf8
import Subscription.Update
import Subscription.Uuid
import Subscription.Proofs.Entitlement.Arrangement
import Subscription.Proofs.Update.Visits
import Subscription.Proofs.Update.Acceptance
import Subscription.Proofs.Update.Attachment
import Subscription.Proofs.Consistency
import Subscription.Proofs.Redaction.Bodies
import Subscription.Proofs.Redaction.Headers
import Subscription.Proofs.Store.Refinement
import Subscription.Proofs.Store.Crash
import Subscription.Proofs.Command.Gate
import Subscription.Proofs.Command.Turn
import Subscription.Proofs.Command.Detachment
import Subscription.Proofs.Command.Requests
import Subscription.Proofs.Command.Identity
import Subscription.Proofs.Entitlement.Leaves
import Subscription.Proofs.SideBySide
import Subscription.Proofs.Update.SideBySide
import Subscription.Proofs.Update.Order
import Subscription.Proofs.Command.Leftovers
import Subscription.Proofs.Command.SteadyId
import Subscription.Proofs.Command.OneId
import Subscription.Proofs.Entitlement.Accounts
import Subscription.Proofs.Entitlement.Naming
import Subscription.Proofs.Entitlement.OtherSeries
import Subscription.Proofs.Entitlement.MergePatch
import Subscription.Proofs.Entitlement.Grammar
import Subscription.Proofs.Entitlement.Renderings
import Subscription.Proofs.Redaction.Covered
import Subscription.Proofs.Json.Decimals
import Subscription.Proofs.Json.Outlines
import Subscription.Proofs.Contract.Refusal
import Subscription.Proofs.Calendar.Clock
import Subscription.Proofs.Calendar.Reading
import Subscription.Proofs.Calendar.MissingOffset
import Subscription.Proofs.Contract.ShownDate
import Subscription.Proofs.Text.Parts
import Subscription.Proofs.Store.FileNames
import Subscription.Proofs.Text.LowerLetters
import Subscription.Proofs.Host.Assignments
import Subscription.Proofs.Host.OldVersion
import Subscription.Proofs.Host.Series
