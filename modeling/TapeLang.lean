import TapeLang.Folder
import TapeLang.Main
import TapeLang.Program.Display
import TapeLang.Program.Sameness
import TapeLang.Proofs.Structured
import TapeLang.Proofs.Chunk
import TapeLang.Proofs.Brackets
import TapeLang.Proofs.Reading
import TapeLang.Proofs.Flat
import TapeLang.Proofs.Writing
import TapeLang.Proofs.Tracing
import TapeLang.Proofs.Lines
import TapeLang.Proofs.Account
import TapeLang.Proofs.EndlessTape
import TapeLang.Proofs.Causality
import TapeLang.Proofs.Refusal
import TapeLang.Proofs.Allocation
import TapeLang.Proofs.Unreached
import TapeLang.Proofs.Ledger
import TapeLang.Proofs.Stack
import TapeLang.Proofs.Cases
import TapeLang.Proofs.Verdicts
import TapeLang.Proofs.Jobs
import TapeLang.Proofs.Reporting
import TapeLang.Proofs.Tally
import TapeLang.Proofs.Override
import TapeLang.Proofs.Outcomes
import TapeLang.Proofs.Malformed
import TapeLang.Proofs.Sequence
import TapeLang.Proofs.Positions
import TapeLang.Proofs.Congruence
import TapeLang.Proofs.Cancelling
import TapeLang.Proofs.Joining
import TapeLang.Proofs.Comment
import TapeLang.Proofs.Texts
import TapeLang.Proofs.Window
import TapeLang.Proofs.Notation
import TapeLang.Proofs.Nesting
import TapeLang.Proofs.Arguments
import TapeLang.Proofs.Messages
