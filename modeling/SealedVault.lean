import SealedVault.Audit.Event
import SealedVault.Audit.Log
import SealedVault.Calendar.Date
import SealedVault.Calendar.Epoch
import SealedVault.Calendar.Reading
import SealedVault.Calendar.Timestamp
import SealedVault.Cipher.Aes
import SealedVault.Cipher.Block
import SealedVault.Cipher.Chain
import SealedVault.Decimal.Binary64
import SealedVault.Decimal.Shortest
import SealedVault.Digest.Keyed
import SealedVault.Digest.Sha256
import SealedVault.Disk.Access
import SealedVault.Disk.Basic
import SealedVault.Disk.Changes
import SealedVault.Disk.Path
import SealedVault.Json.Decode
import SealedVault.Json.Number
import SealedVault.Json.Printer
import SealedVault.Json.Token
import SealedVault.Json.Tree
import SealedVault.Json.Value
import SealedVault.Main
import SealedVault.Proofs.Cipher.Chaining
import SealedVault.Proofs.Cipher.Inverse
import SealedVault.Proofs.Text.Base64
import SealedVault.Record.Basic
import SealedVault.Record.Codec
import SealedVault.Record.Kind
import SealedVault.Role
import SealedVault.Sealing.Envelope
import SealedVault.Sealing.Error
import SealedVault.Sealing.Key
import SealedVault.Sealing.Payload
import SealedVault.Sealing.Service
import SealedVault.Settings
import SealedVault.Startup
import SealedVault.Store.Error
import SealedVault.Store.Layout
import SealedVault.Store.Records
import SealedVault.Store.Storage
import SealedVault.Text.Base64
import SealedVault.Text.Blank
import SealedVault.Text.CharRange
import SealedVault.Text.LetterCase
import SealedVault.Text.Lowercase
import SealedVault.Text.Quoted
import SealedVault.Text.Utf8
import SealedVault.Text.Visible
import SealedVault.Vault.AuditAccess
import SealedVault.Vault.Basic
import SealedVault.Vault.Claims
import SealedVault.Vault.Documents
import SealedVault.Vault.Error
import SealedVault.Vault.Request
import SealedVault.Vault.Reseal
import SealedVault.Vault.Seed
import SealedVault.Vault.World
import SealedVault.Proofs.Sealing.Opening
import SealedVault.Proofs.Json.Lexing
import SealedVault.Proofs.Calendar.RoundTrip
import SealedVault.Proofs.Json.TextObject
import SealedVault.Proofs.Record.RoundTrip
import SealedVault.Proofs.Disk.Entries
import SealedVault.Proofs.Disk.Paths
import SealedVault.Proofs.Disk.Walking
import SealedVault.Proofs.Store.DataDirectory
import SealedVault.Proofs.Store.Shelves
import SealedVault.Proofs.Store.Listing
import SealedVault.Proofs.Store.AuditDirectory
import SealedVault.Proofs.Store.Preparation
import SealedVault.Proofs.Vault.Steps
import SealedVault.Proofs.Vault.Effects
import SealedVault.Proofs.Vault.Operations
import SealedVault.Proofs.Vault.Reading
import SealedVault.Proofs.Vault.Resealing
import SealedVault.Proofs.Vault.Sessions
import SealedVault.Proofs.Vault.Integrity
import SealedVault.Proofs.Vault.Ledger
import SealedVault.Proofs.Vault.Lifetime
import SealedVault.Proofs.Vault.Visibility
import SealedVault.Proofs.Vault.Confidentiality
import SealedVault.Proofs.Disk.Files
import SealedVault.Proofs.Store.Footprints
import SealedVault.Proofs.Vault.Touching
import SealedVault.Proofs.Vault.WriteBack
import SealedVault.Proofs.Vault.Authority
import SealedVault.Proofs.Vault.Accountability
import SealedVault.Proofs.Vault.Recovery
import SealedVault.Proofs.Json.Trees
import SealedVault.Proofs.Json.Values
import SealedVault.Proofs.Audit.RoundTrip
import SealedVault.Proofs.Store.AuditLogs
import SealedVault.Proofs.Audit.Fidelity
import SealedVault.Proofs.Store.Cabinet
import SealedVault.Proofs.Store.Refusals
import SealedVault.Proofs.Store.Beside
import SealedVault.Proofs.Vault.Notes
import SealedVault.Proofs.Vault.Journal
import SealedVault.Proofs.Store.Matching
import SealedVault.Proofs.Vault.Twins
import SealedVault.Proofs.Vault.Lockstep
import SealedVault.Proofs.Vault.Indifference
import SealedVault.Proofs.Vault.AtRest
import SealedVault.Proofs.Vault.Auditors
import SealedVault.Proofs.Sealing.Envelopes
import SealedVault.Proofs.Json.Grammar
import SealedVault.Proofs.Store.Contents
import SealedVault.Proofs.Store.Agreement
import SealedVault.Proofs.Store.OwnFiles
import SealedVault.Proofs.Store.Removals
import SealedVault.Proofs.Vault.Coupling
import SealedVault.Proofs.Vault.AuditTrouble
import SealedVault.Proofs.Vault.Confinement
import SealedVault.Proofs.Vault.Cascade
import SealedVault.Proofs.Store.Tallies
import SealedVault.Proofs.Store.WorkingFiles
import SealedVault.Proofs.Store.LogBytes
import SealedVault.Proofs.Vault.Passes
import SealedVault.Proofs.Vault.Listings
import SealedVault.Proofs.Vault.Failures
import SealedVault.Proofs.Vault.Interchange
import SealedVault.Proofs.Calendar.Succession
import SealedVault.Proofs.Audit.Ranges
import SealedVault.Proofs.Sealing.Classification
import SealedVault.Proofs.Store.FileByFile
import SealedVault.Proofs.Vault.FileByFile
import SealedVault.Proofs.Sealing.Lengths
import SealedVault.Proofs.Text.LetterCase
import SealedVault.Proofs.Settings
import SealedVault.Proofs.Store.Atomicity
import SealedVault.Proofs.Startup
import SealedVault.Proofs.Role
import SealedVault.Proofs.Role
