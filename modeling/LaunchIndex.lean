import LaunchIndex.Binary64
import LaunchIndex.Binary64.Power
import LaunchIndex.Binary64.Reading
import LaunchIndex.Binary64.Shortest
import LaunchIndex.Calendar
import LaunchIndex.Complaint
import LaunchIndex.Connection
import LaunchIndex.Disk
import LaunchIndex.Environment
import LaunchIndex.Event
import LaunchIndex.Extended
import LaunchIndex.Fault
import LaunchIndex.Like
import LaunchIndex.Neighbour
import LaunchIndex.Panel
import LaunchIndex.Preferences
import LaunchIndex.Query
import LaunchIndex.Record
import LaunchIndex.Retry
import LaunchIndex.Routine
import LaunchIndex.Routine.Gather
import LaunchIndex.Schema
import LaunchIndex.Session
import LaunchIndex.Settings
import LaunchIndex.Settings.Entry
import LaunchIndex.Shortcut
import LaunchIndex.Signature
import LaunchIndex.Statement
import LaunchIndex.Store.Cell
import LaunchIndex.Store.Database
import LaunchIndex.Store.Numeral
import LaunchIndex.Store.Tables
import LaunchIndex.Text
import LaunchIndex.Text.Base64
import LaunchIndex.Text.CharSet
import LaunchIndex.Text.LowerCase
import LaunchIndex.Text.Quoted
import LaunchIndex.Text.Trim
import LaunchIndex.Text.Utf8
import LaunchIndex.Toml.Document
import LaunchIndex.Toml.Item
import LaunchIndex.Toml.Quoted
import LaunchIndex.Toml.Scalar
import LaunchIndex.Turnstile
import LaunchIndex.Uri
import LaunchIndex.Value
import LaunchIndex.Value.Name
import LaunchIndex.Value.Number
import LaunchIndex.World
import LaunchIndex.Writer
import LaunchIndex.Yaml.Character
import LaunchIndex.Yaml.Datum
import LaunchIndex.Yaml.Document
import LaunchIndex.Yaml.Kind
import LaunchIndex.Yaml.Node
import LaunchIndex.Yaml.Scalar
import LaunchIndex.Yaml.Source
import LaunchIndex.Yaml.Token
import LaunchIndex.Proofs.Task
import LaunchIndex.Proofs.Pattern
import LaunchIndex.Proofs.ByteOrder
import LaunchIndex.Proofs.Reading
import LaunchIndex.Proofs.Ranking
import LaunchIndex.Proofs.Search
import LaunchIndex.Proofs.Trial
import LaunchIndex.Proofs.Opening
import LaunchIndex.Proofs.Queries
import LaunchIndex.Proofs.Ledger
import LaunchIndex.Proofs.Balance
import LaunchIndex.Proofs.Lifecycle
import LaunchIndex.Proofs.Oblivious
import LaunchIndex.Proofs.TakingTurns
import LaunchIndex.Proofs.Calls
import LaunchIndex.Proofs.Unlocked
import LaunchIndex.Proofs.Asking
import LaunchIndex.Proofs.InTurn
import LaunchIndex.Proofs.Gathering
import LaunchIndex.Proofs.Crowd
import LaunchIndex.Proofs.Assurance
import LaunchIndex.Proofs.Conduct
import LaunchIndex.Proofs.Stance
import LaunchIndex.Proofs.Lifetime
import LaunchIndex.Proofs.LastAct
import LaunchIndex.Proofs.Errands
import LaunchIndex.Proofs.Deeds
import LaunchIndex.Proofs.Accounting
import LaunchIndex.Proofs.Lineage
import LaunchIndex.Proofs.Readers
import LaunchIndex.Proofs.Agreement
import LaunchIndex.Proofs.Literal
import LaunchIndex.Proofs.Accepted
import LaunchIndex.Proofs.Outcomes
import LaunchIndex.Proofs.Refusals
import LaunchIndex.Proofs.Shared
import LaunchIndex.Proofs.Failures
import LaunchIndex.Proofs.Tools
import LaunchIndex.Proofs.NameBytes
import LaunchIndex.Proofs.Address
import LaunchIndex.Proofs.Order
import LaunchIndex.Proofs.Answers
import LaunchIndex.Proofs.LetterCase
import LaunchIndex.Proofs.Promotion
import LaunchIndex.Proofs.Launching
import LaunchIndex.Proofs.TopUsed
import LaunchIndex.Proofs.Provision
import LaunchIndex.Proofs.Undisturbed
import LaunchIndex.Proofs.Pages
import LaunchIndex.Proofs.Defaults
import LaunchIndex.Proofs.SmallLetters
import LaunchIndex.Proofs.KeyBinding
import LaunchIndex.Proofs.EntryOrder
import LaunchIndex.Proofs.SearchTool
import LaunchIndex.Proofs.Escaped
import LaunchIndex.Proofs.Rounding
import LaunchIndex.Proofs.Backoff
