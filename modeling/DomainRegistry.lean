import DomainRegistry.Text.Basic
import DomainRegistry.Collection.SortedSet
import DomainRegistry.Bytes.Base64
import DomainRegistry.Bytes.Hex
import DomainRegistry.Collection.SortedMap
import DomainRegistry.Time.Calendar
import DomainRegistry.Time.Instant
import DomainRegistry.Time.Rfc3339
import DomainRegistry.Json.Basic
import DomainRegistry.Json.Parser
import DomainRegistry.Json.Printer
import DomainRegistry.Json.Record
import DomainRegistry.Money
import DomainRegistry.Record.Flags
import DomainRegistry.Record.IpAddress
import DomainRegistry.RepoId
import DomainRegistry.Reservation
import DomainRegistry.ResultCode
import DomainRegistry.Config
import DomainRegistry.Record.Command
import DomainRegistry.Record.Resource
import DomainRegistry.Record.ResourceJson
import DomainRegistry.Checksum.Crc32
import DomainRegistry.Checksum.WordHash
import DomainRegistry.Crypto.Ed25519
import DomainRegistry.Label.DomainName
import DomainRegistry.Lists.Catalog
import DomainRegistry.Admission.Dnssec
import DomainRegistry.Store.Partition
import DomainRegistry.Trademark.Armor
import DomainRegistry.Trademark.ClaimsNoticeId
import DomainRegistry.Trademark.Issuance
import DomainRegistry.Trademark.Revocation
import DomainRegistry.Trademark.Verifier
import DomainRegistry.Queue
import DomainRegistry.State
import DomainRegistry.Admission.Assessment
import DomainRegistry.Creation.Flow
import DomainRegistry.Deletion.Job
import DomainRegistry.Deletion.Progress
import DomainRegistry.Deletion.Request
import DomainRegistry.Deletion.Worker
import DomainRegistry.Registry
import DomainRegistry.Report.Answer
import DomainRegistry.Files.Tree
import DomainRegistry.Logging.Filter
import DomainRegistry.Logging.Logger
import DomainRegistry.Toml.Document
import DomainRegistry.CommandLine.Arguments
import DomainRegistry.CommandLine.Run
import DomainRegistry.Main
import DomainRegistry.Logging.FieldPattern
import DomainRegistry.Ini.Document
import DomainRegistry.Json5.Document
import DomainRegistry.Ron.Document
import DomainRegistry.Yaml.Cursor
import DomainRegistry.Yaml.Document
import DomainRegistry.Proofs.Answers
import DomainRegistry.Proofs.RepoId
import DomainRegistry.Proofs.Trademark.Marks
import DomainRegistry.Proofs.Label.DomainNames
import DomainRegistry.Proofs.Admission.Accepted
import DomainRegistry.Proofs.Admission.Evidence
import DomainRegistry.Proofs.Admission.Reservations
import DomainRegistry.Proofs.Store.Tables
import DomainRegistry.Proofs.Store.Transactions
import DomainRegistry.Proofs.Store.Domains
import DomainRegistry.Proofs.Store.Cache
import DomainRegistry.Proofs.Flows.Gate
import DomainRegistry.Proofs.Flows.Creation
import DomainRegistry.Proofs.Flows.Registration
import DomainRegistry.Proofs.Flows.Privilege
import DomainRegistry.Proofs.Flows.Ungated
import DomainRegistry.Proofs.Flows.DryRun
import DomainRegistry.Proofs.Flows.Deletion
import DomainRegistry.Proofs.Flows.Pending
import DomainRegistry.Proofs.Flows.Scan
import DomainRegistry.Proofs.Runs.Basic
import DomainRegistry.Proofs.Runs.Creations
import DomainRegistry.Proofs.Runs.Lookups
import DomainRegistry.Proofs.Runs.Deletions
import DomainRegistry.Proofs.Runs.Names
import DomainRegistry.Proofs.Runs.AuditTrail
import DomainRegistry.Proofs.Runs.Handover
import DomainRegistry.Proofs.Runs.Scans
import DomainRegistry.Proofs.Text.Digits
import DomainRegistry.Proofs.Text.Markers
import DomainRegistry.Proofs.Time.Calendar
import DomainRegistry.Proofs.Time.Rfc3339
import DomainRegistry.Proofs.Bytes.Utf8
import DomainRegistry.Proofs.Bytes.Base64
import DomainRegistry.Proofs.Json.Strings
import DomainRegistry.Proofs.Json.Tokens
import DomainRegistry.Proofs.Json.Documents
import DomainRegistry.Proofs.Json.Sizes
import DomainRegistry.Proofs.Trademark.Revocations
import DomainRegistry.Proofs.Trademark.SignedBytes
import DomainRegistry.Proofs.Trademark.Records
import DomainRegistry.Proofs.Trademark.Armor
import DomainRegistry.Proofs.Trademark.Issuance
import DomainRegistry.Proofs.Store.Shelves
import DomainRegistry.Proofs.Store.Reads
import DomainRegistry.Proofs.Admission.Reports
import DomainRegistry.Proofs.Admission.Charges
import DomainRegistry.Proofs.Admission.Claims
import DomainRegistry.Proofs.Bytes.Hex
import DomainRegistry.Proofs.Admission.Structure
import DomainRegistry.Proofs.Label.Bias
import DomainRegistry.Proofs.Label.Numerals
import DomainRegistry.Proofs.Label.Placements
import DomainRegistry.Proofs.Label.Rounds
import DomainRegistry.Proofs.Label.LabelForms
import DomainRegistry.Proofs.Label.Zones
import DomainRegistry.Proofs.Label.Grammar
import DomainRegistry.Proofs.Trademark.ClaimsNoticeIds
import DomainRegistry.Proofs.Admission.Notices
import DomainRegistry.Proofs.Store.Rooted
import DomainRegistry.Proofs.Flows.Independence
import DomainRegistry.Proofs.Store.Relabelled
import DomainRegistry.Proofs.Runs.Commuting
import DomainRegistry.Proofs.Flows.Decisions
import DomainRegistry.Proofs.Runs.Draining
import DomainRegistry.Proofs.Admission.Drafts
import DomainRegistry.Proofs.Admission.FirstFailure
import DomainRegistry.Proofs.Lists.Reserved
import DomainRegistry.Proofs.Lists.Reservations
import DomainRegistry.Proofs.Text.Letters
import DomainRegistry.Proofs.Text.Blanks
import DomainRegistry.Proofs.Money.Bounds
import DomainRegistry.Proofs.Money.Written
import DomainRegistry.Proofs.Runs.Identifiers
import DomainRegistry.Proofs.Admission.LinkOrder
import DomainRegistry.Proofs.Label.Faultless
import DomainRegistry.Proofs.Text.Hexadecimal
import DomainRegistry.Proofs.Record.Resources
