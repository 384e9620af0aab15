import MaterialEmail.Library.Directory
import MaterialEmail.AtomicJsonStore.Model
import MaterialEmail.AtomicJsonStore.Commit
import MaterialEmail.AtomicJsonStore.Load
import MaterialEmail.AtomicJsonStore.CrashSafety
import MaterialEmail.AtomicJsonStore.FailureAtomicity
import MaterialEmail.AtomicJsonStore.Chain
import MaterialEmail.AtomicJsonStore.LockProtocol
import MaterialEmail.JsonStore.Model
import MaterialEmail.JsonStore.Files
import MaterialEmail.JsonStore.Backup
import MaterialEmail.JsonStore.Write
import MaterialEmail.JsonStore.Load
import MaterialEmail.JsonStore.CrashSafety
import MaterialEmail.FirstRun
import MaterialEmail.JsonStore.Updates
import MaterialEmail.Library.JsString
import MaterialEmail.Library.JsDate
import MaterialEmail.OAuth.TokenVault
import MaterialEmail.OAuth.TokenExchange
import MaterialEmail.Library.Interleaving
import MaterialEmail.OAuth.Refresh
import MaterialEmail.AppService.Commits
import MaterialEmail.AppService.Operations
import MaterialEmail.AppService.Queue
import MaterialEmail.AppService.Flights
import MaterialEmail.AppService.Tasks
import MaterialEmail.AppService.QueueDiscipline
import MaterialEmail.AppService.Bodies
import MaterialEmail.AppService.Removal
import MaterialEmail.AppService.Drafts
import MaterialEmail.Pim.Service
import MaterialEmail.Pim.Schemas
import MaterialEmail.Library.EventLog
import MaterialEmail.Pim.History
import MaterialEmail.Pim.Ledger
import MaterialEmail.Library.Fallible
import MaterialEmail.Pim.Recording
import MaterialEmail.Pim.Operations
import MaterialEmail.Pim.Restoring
import MaterialEmail.Library.ContentLine
import MaterialEmail.Pim.Interchange
import MaterialEmail.Pim.Folding
import MaterialEmail.Library.Uri
import MaterialEmail.Pim.ICalendar
import MaterialEmail.Pim.Components
import MaterialEmail.MessageTags.Model
import MaterialEmail.MessageTags.Identifiers
import MaterialEmail.MessageTags.Invariant
import MaterialEmail.MessageTags.Storage
import MaterialEmail.Identities.Defaults
import MaterialEmail.Identities.Reachable
import MaterialEmail.AccountSetup
import MaterialEmail.AppService.QueuedMoves
import MaterialEmail.Pim.Frames
import MaterialEmail.Pim.TaskVersion
import MaterialEmail.Pim.Refreshing
import MaterialEmail.Pim.Separation
import MaterialEmail.Pim.Serialization
import MaterialEmail.Pim.Exporting
import MaterialEmail.AppService.Folders
import MaterialEmail.AppService.Ownership
import MaterialEmail.AppService.Mailboxes
import MaterialEmail.AppService.Overlap
import MaterialEmail.AppService.Convergence
import MaterialEmail.Library.Superseding
import MaterialEmail.MessageFilters
import MaterialEmail.Library.Utf8
import MaterialEmail.OAuth.Authorization
import MaterialEmail.Library.Occurrence
import MaterialEmail.Identities.Signatures
import MaterialEmail.OAuth.SignIn
import MaterialEmail.OAuth.VaultDocument
import MaterialEmail.OAuth.VaultStorage
import MaterialEmail.Pop3Test.Safety
import MaterialEmail.Library.Translation
import MaterialEmail.AppService.Attachments
import MaterialEmail.AppService.Provenance
import MaterialEmail.Library.TimeValue
import MaterialEmail.MailService.AttachmentSafety
import MaterialEmail.MailService.Model
import MaterialEmail.MailService.Storing
import MaterialEmail.Library.Lineage
import MaterialEmail.HistoryRepository.Model
import MaterialEmail.HistoryRepository.Reading
import MaterialEmail.HistoryRepository.Pruning
import MaterialEmail.Library.Forest
import MaterialEmail.CachedMail.Conversations
import MaterialEmail.CachedMail.Grouping
import MaterialEmail.CachedMail.SqliteAgreement
import MaterialEmail.Pim.Completion
import MaterialEmail.Pop3Test.Chunking
import MaterialEmail.MailService.Keywords
import MaterialEmail.MailService.KeywordStoring
import MaterialEmail.Library.Json
import MaterialEmail.HistoryRepository.Diff
import MaterialEmail.Quarantine.Model
import MaterialEmail.Quarantine.Consistency
import MaterialEmail.Library.LocalTime
import MaterialEmail.Pim.DateTimes
import MaterialEmail.Pim.VCard
import MaterialEmail.Pim.Merging
import MaterialEmail.Pim.Reimport
import MaterialEmail.Library.Regular
import MaterialEmail.SearchPatterns.Model
import MaterialEmail.SearchPatterns.Catastrophe
import MaterialEmail.SearchPatterns.Repetition
import MaterialEmail.SearchPatterns.Alternatives
import MaterialEmail.SearchPatterns.Refusal
import MaterialEmail.Library.JsValue
import MaterialEmail.WindowState
import MaterialEmail.Library.Requests
import MaterialEmail.OAuth.Revocation
import MaterialEmail.Library.Completion
import MaterialEmail.Pop3Test.Bodies
import MaterialEmail.Library.TextPattern
import MaterialEmail.Library.WhiteSpace
import MaterialEmail.UserVisibleError
import MaterialEmail.Library.Arrangement
import MaterialEmail.MessageFilters.Conditions
import MaterialEmail.MessageFilters.Catalogue
import MaterialEmail.MessageFilters.Evaluation
import MaterialEmail.MessageFilters.SyncRuns
import MaterialEmail.JunkClassifier
import MaterialEmail.Library.JsonText
import MaterialEmail.TabAppearance.Theme
import MaterialEmail.TabAppearance.RoundTrip
import MaterialEmail.Library.Schema
import MaterialEmail.PersistedState.Cryptography
import MaterialEmail.PersistedState.Loading
import MaterialEmail.Library.LineFolding
import MaterialEmail.Pim.Unfolding
import MaterialEmail.Library.TextList
import MaterialEmail.Pim.Values
import MaterialEmail.Library.QuotedPrintable
import MaterialEmail.Pim.QuotedPrintable
import MaterialEmail.MailService.SavedNames
import MaterialEmail.PersistedState.Reloading
