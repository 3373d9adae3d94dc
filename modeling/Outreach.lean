import Outreach.Action
import Outreach.Action.Outline
import Outreach.Catalog
import Outreach.Catalog.Fixture
import Outreach.Collections.IdSet
import Outreach.Collections.KeyOrder
import Outreach.Collections.Keyed
import Outreach.CommandLine.Arguments
import Outreach.CommandLine.Execution
import Outreach.Configuration
import Outreach.Configuration.Offset
import Outreach.Configuration.Printer
import Outreach.Contact
import Outreach.Database.Address
import Outreach.Decimal.Binary64
import Outreach.Decimal.Shortest
import Outreach.Decode.Error
import Outreach.Decode.Record
import Outreach.Decode.Value
import Outreach.Event
import Outreach.Events.Log
import Outreach.Events.Review
import Outreach.Events.Store
import Outreach.Ids
import Outreach.Json.Basic
import Outreach.Json.Printer
import Outreach.Json.Reader
import Outreach.Json.Token
import Outreach.Mail
import Outreach.Main
import Outreach.Project
import Outreach.Proofs.Catalog.Enrolment
import Outreach.Proofs.Catalog.Filing
import Outreach.Proofs.Catalog.Removal
import Outreach.Proofs.Catalog.Replacement
import Outreach.Proofs.Catalog.Trees
import Outreach.Proofs.Collections.IdSet
import Outreach.Proofs.Collections.Keyed
import Outreach.Proofs.Document.Authored
import Outreach.Proofs.Document.Continuation
import Outreach.Proofs.Document.Token
import Outreach.Proofs.Document.Value
import Outreach.Proofs.Events.Chronicle
import Outreach.Proofs.Events.Interleaving
import Outreach.Proofs.Events.Numbering
import Outreach.Proofs.Events.Recording
import Outreach.Proofs.History.Deferral
import Outreach.Proofs.History.Deletion
import Outreach.Proofs.History.Lasting
import Outreach.Proofs.History.Mirror
import Outreach.Proofs.History.Occurrence
import Outreach.Proofs.History.Parted
import Outreach.Proofs.History.Resumption
import Outreach.Proofs.History.Standing
import Outreach.Proofs.History.Unregistered
import Outreach.Proofs.Json.Written
import Outreach.Proofs.Queue.Account
import Outreach.Proofs.Queue.Backoff
import Outreach.Proofs.Queue.Batch
import Outreach.Proofs.Queue.Delivery
import Outreach.Proofs.Queue.Exclusion
import Outreach.Proofs.Queue.Fetching
import Outreach.Proofs.Queue.Handover
import Outreach.Proofs.Queue.Ledger
import Outreach.Proofs.Queue.Treatment
import Outreach.Proofs.Queue.Whereabouts
import Outreach.Proofs.Rules.Application
import Outreach.Proofs.Rules.Marking
import Outreach.Proofs.Rules.Matching
import Outreach.Proofs.Rules.Ownership
import Outreach.Proofs.Run.Admission
import Outreach.Proofs.Run.Anonymity
import Outreach.Proofs.Run.Conduct
import Outreach.Proofs.Run.Contacts
import Outreach.Proofs.Run.Effect
import Outreach.Proofs.Run.Ending
import Outreach.Proofs.Run.Identity
import Outreach.Proofs.Run.Mailing
import Outreach.Proofs.Run.Performance
import Outreach.Proofs.Run.Redirection
import Outreach.Proofs.Run.Requests
import Outreach.Proofs.Run.Residue
import Outreach.Proofs.Run.Suspension
import Outreach.Proofs.Run.Tagging
import Outreach.Proofs.Run.Verdict
import Outreach.Proofs.Text.Base64Url
import Outreach.Proofs.Text.Digits
import Outreach.Proofs.Text.LowerCase
import Outreach.Proofs.Text.Utf8
import Outreach.Proofs.Text.Uuid
import Outreach.Proofs.Time.Calendar
import Outreach.Proofs.Time.Instant
import Outreach.Proofs.Time.Offset
import Outreach.Proofs.Time.Written
import Outreach.Proofs.Tree.Arrivals
import Outreach.Proofs.Tree.Diagnosis
import Outreach.Proofs.Tree.Exposure
import Outreach.Proofs.Tree.Interruption
import Outreach.Proofs.Tree.Lookup
import Outreach.Proofs.Tree.Passage
import Outreach.Proofs.Tree.Pruning
import Outreach.Proofs.Tree.Refinement
import Outreach.Proofs.Tree.Replay
import Outreach.Proofs.Tree.Tour
import Outreach.Proofs.Tree.Validity
import Outreach.Proofs.Tree.Walk
import Outreach.Proofs.Url.Parts
import Outreach.Proofs.Url.Query
import Outreach.Queue.Delay
import Outreach.Queue.Job
import Outreach.Queue.Memory
import Outreach.Queue.Resume
import Outreach.Queue.Row
import Outreach.Queue.Worker
import Outreach.Rehearsal.Basic
import Outreach.Rehearsal.Casting
import Outreach.Rehearsal.Report
import Outreach.Rehearsal.Samples
import Outreach.Rehearsal.Script
import Outreach.Rehearsal.Workroom
import Outreach.Rules.Matching
import Outreach.Rules.Rule
import Outreach.Rules.Store
import Outreach.Run.Activity
import Outreach.Run.Context
import Outreach.Run.Outcome
import Outreach.Run.Services
import Outreach.ServiceError
import Outreach.Steps.Authenticate
import Outreach.Steps.Condition
import Outreach.Steps.Contact
import Outreach.Steps.Container
import Outreach.Steps.Log
import Outreach.Steps.Redirect
import Outreach.Steps.Registry
import Outreach.Steps.Schedule
import Outreach.Steps.SendMail
import Outreach.Text.Base64Url
import Outreach.Text.Blank
import Outreach.Text.CaseTable
import Outreach.Text.CodeRange
import Outreach.Text.Digits
import Outreach.Text.LowerCase
import Outreach.Text.PrintableTable
import Outreach.Text.Quoted
import Outreach.Text.Utf8
import Outreach.Time.Calendar
import Outreach.Time.Instant
import Outreach.Time.Printer
import Outreach.Time.Reader
import Outreach.Time.Span
import Outreach.Tree.Editing
import Outreach.Tree.Execution
import Outreach.Tree.Registry
import Outreach.Tree.Validation
import Outreach.Url
import Outreach.Url.Host
import Outreach.Url.Path
import Outreach.Url.Percent
import Outreach.Url.Query
import Outreach.Url.Reader
import Outreach.Uuid
