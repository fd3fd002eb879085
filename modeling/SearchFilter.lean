import SearchFilter.Command.Logger
import SearchFilter.Main
import SearchFilter.Proofs.Compile.Outcome
import SearchFilter.Proofs.Document.Grouping
import SearchFilter.Proofs.Query.Tokens
import SearchFilter.Proofs.Compile.Report
import SearchFilter.Proofs.Document.Attempts
import SearchFilter.Proofs.Query.Clause
import SearchFilter.Proofs.Compile.Clause
import SearchFilter.Proofs.Binary64.Rounding
import SearchFilter.Proofs.Binary64.Text
import SearchFilter.Proofs.Json.Reader
import SearchFilter.Proofs.Json.RoundTrip
import SearchFilter.Proofs.Document.Rendering
import SearchFilter.Proofs.Json.Characters
import SearchFilter.Proofs.Compile.Filter
import SearchFilter.Proofs.Compile.Concatenation
import SearchFilter.Proofs.Document.Order
import SearchFilter.Proofs.Compile.Permutation
import SearchFilter.Proofs.Compile.Strictness
import SearchFilter.Proofs.Compile.Normal
import SearchFilter.Proofs.Command.Session
import SearchFilter.Proofs.Command.Printing
import SearchFilter.Proofs.Command.Envelope
import SearchFilter.Proofs.Value.Unanchored
import SearchFilter.Proofs.Command.EnvFile
import SearchFilter.Proofs.Command.History
import SearchFilter.Proofs.Command.Logger
import SearchFilter.Proofs.Value.NumberLiteral
import SearchFilter.Proofs.Value.Anchored
import SearchFilter.Proofs.Query.Separation
import SearchFilter.Proofs.Query.Hiding
import SearchFilter.Proofs.Document.Held
import SearchFilter.Proofs.Compile.Records
import SearchFilter.Proofs.Command.MissedFile
import SearchFilter.Proofs.Command.Format
import SearchFilter.Proofs.Command.Manner
import SearchFilter.Proofs.Policy.Environment
import SearchFilter.Proofs.Compile.PrintedNumber
import SearchFilter.Proofs.Binary64.Order
import SearchFilter.Proofs.Binary64.Rational
import SearchFilter.Proofs.Binary64.Whole
import SearchFilter.Proofs.Value.Order
import SearchFilter.Proofs.Compile.WholeNumber
import SearchFilter.Proofs.Command.Cell
import SearchFilter.Proofs.Text.Quoted
import SearchFilter.Proofs.Compile.Warning
