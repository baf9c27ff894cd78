import ConfigAudit.Logging.Loggers
import ConfigAudit.Main
import ConfigAudit.Policy.Catalogue
import ConfigAudit.Proofs.Command.Audit
import ConfigAudit.Proofs.Exemption.History
import ConfigAudit.Proofs.Exemption.Purge
import ConfigAudit.Proofs.Policy.Excuses
import ConfigAudit.Proofs.Rule.PlainText
import ConfigAudit.Proofs.Rule.Precedence
import ConfigAudit.Proofs.Run.Cancel
import ConfigAudit.Proofs.Run.Pool
import ConfigAudit.Proofs.Run.Request
import ConfigAudit.Proofs.Run.Schedule
import ConfigAudit.Proofs.Run.Sequential
import ConfigAudit.Proofs.Script.Verdict
import ConfigAudit.Proofs.Store.Batch
import ConfigAudit.Proofs.Store.Contained
import ConfigAudit.Proofs.Store.Identity
import ConfigAudit.Proofs.Store.Ledger
import ConfigAudit.Proofs.Store.Names
import ConfigAudit.Proofs.Store.Undone
import ConfigAudit.Settings.Basic
import ConfigAudit.Store.Audit
import ConfigAudit.Store.Rules
import ConfigAudit.Proofs.Pattern.Flags
import ConfigAudit.Proofs.Rule.Blocks
import ConfigAudit.Proofs.Policy.Membership
import ConfigAudit.Proofs.Rule.BlockVerdict
import ConfigAudit.Proofs.Rule.Inverted
import ConfigAudit.Proofs.Rule.Accepted
import ConfigAudit.Proofs.Rule.Refused
import ConfigAudit.Proofs.Script.Messages
import ConfigAudit.Proofs.Script.Payload
import ConfigAudit.Proofs.Policy.Ownership
import ConfigAudit.Proofs.Text.Stripped
import ConfigAudit.Proofs.Rule.Layout
import ConfigAudit.Proofs.Rule.Rebuilt
import ConfigAudit.Proofs.Script.Imports
import ConfigAudit.Proofs.Rule.Selection
import ConfigAudit.Proofs.Calendar.Reread
import ConfigAudit.Proofs.Exemption.Rebuilt
import ConfigAudit.Proofs.Outcome.Rewritten
import ConfigAudit.Proofs.Text.Undivided
import ConfigAudit.Proofs.Command.Lines
import ConfigAudit.Proofs.Logging.Setup
import ConfigAudit.Proofs.Run.Clock
