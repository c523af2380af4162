import DocAudit.Main
import DocAudit.Proofs.Glob.Pieces
import DocAudit.Proofs.Lint.Reading
import DocAudit.Proofs.Markdown.SectionBlocks
import DocAudit.Proofs.Verification.Commands
import DocAudit.Proofs.Verification.Expectation
import DocAudit.Proofs.Verification.Stopping
import DocAudit.Proofs.Verification.Written
import DocAudit.Proofs.Text.Joined
import DocAudit.Proofs.Files.Agreement
import DocAudit.Proofs.Outcome
import DocAudit.Proofs.Verification.Session
import DocAudit.Proofs.Files.Names
import DocAudit.Proofs.Lint.Hidden
import DocAudit.Proofs.Command.Documents
import DocAudit.Proofs.Validation.Findings
import DocAudit.Proofs.Command.Verdicts
import DocAudit.Proofs.Command.Compliance
import DocAudit.Proofs.Command.Patterns
import DocAudit.Proofs.Coverage.NewCode
import DocAudit.Proofs.Markdown.Extended
import DocAudit.Proofs.Markdown.Unread
import DocAudit.Proofs.Validation.Requirements
import DocAudit.Proofs.Command.Gradual
import DocAudit.Proofs.Verification.Tally
import DocAudit.Proofs.Command.Execution
import DocAudit.Proofs.Command.Mending
import DocAudit.Proofs.Coverage.Account
import DocAudit.Proofs.Glob.Open
import DocAudit.Proofs.Glob.Listed
import DocAudit.Proofs.Markdown.Verbatim
import DocAudit.Proofs.Markdown.Pairing
import DocAudit.Proofs.Lint.Anchors
import DocAudit.Proofs.Report.Notes
import DocAudit.Proofs.Command.Restricted
import DocAudit.Proofs.History.Inquiries
import DocAudit.Proofs.Config.Faults
import DocAudit.Proofs.Command.Diagnosis
import DocAudit.Proofs.Glob.Expression
import DocAudit.Proofs.Lint.Rerun
import DocAudit.Proofs.Lint.Fading
import DocAudit.Proofs.Lint.Titles
import DocAudit.Proofs.Lint.Linter
import DocAudit.Proofs.Lint.Styles
import DocAudit.Proofs.Lint.Paragraphs
import DocAudit.Proofs.Lint.Across
import DocAudit.Proofs.Files.Walk
import DocAudit.Proofs.Verification.Matching
import DocAudit.Proofs.Coverage.Excluded
import DocAudit.Proofs.Config.Tables
