import ScadAdvisor.CommandLine.Request
import ScadAdvisor.CommandLine.Run
import ScadAdvisor.Console.Pool
import ScadAdvisor.Console.Status
import ScadAdvisor.Console.Styled
import ScadAdvisor.Dedupe
import ScadAdvisor.Deprecation.DigitIdentifier
import ScadAdvisor.Deprecation.Find
import ScadAdvisor.Deprecation.Import
import ScadAdvisor.Deprecation.Parameter
import ScadAdvisor.Diagnostic
import ScadAdvisor.File.Collect
import ScadAdvisor.File.Glob
import ScadAdvisor.File.Path
import ScadAdvisor.File.Tree
import ScadAdvisor.File.Write
import ScadAdvisor.Json.Value
import ScadAdvisor.LineIndex
import ScadAdvisor.LineStrip
import ScadAdvisor.Log
import ScadAdvisor.Main
import ScadAdvisor.Mask
import ScadAdvisor.Reassignment.Pattern
import ScadAdvisor.Reassignment.State
import ScadAdvisor.Report.Basic
import ScadAdvisor.Report.Line
import ScadAdvisor.Scan
import ScadAdvisor.Settings.Basic
import ScadAdvisor.Settings.Source
import ScadAdvisor.Settings.Validation
import ScadAdvisor.Snapshot
import ScadAdvisor.Store.Basic
import ScadAdvisor.Table
import ScadAdvisor.Text.Basic
import ScadAdvisor.Text.Blank
import ScadAdvisor.Text.CaseKey
import ScadAdvisor.Text.Identifier
import ScadAdvisor.Text.Integer
import ScadAdvisor.Text.Lowercase
import ScadAdvisor.Text.Quoted
import ScadAdvisor.Text.Ranges
import ScadAdvisor.Text.Search
import ScadAdvisor.Text.Utf8
import ScadAdvisor.Text.Width
import ScadAdvisor.Toml.Document
import ScadAdvisor.Toml.Item
import ScadAdvisor.Toml.Lexical
import ScadAdvisor.Toml.Moment
import ScadAdvisor.Toml.Number
import ScadAdvisor.Toml.Tree
import ScadAdvisor.Validation.Assign
import ScadAdvisor.Validation.Problem
import ScadAdvisor.Validation.Read
import ScadAdvisor.Validation.Record
import ScadAdvisor.Value.Basic
import ScadAdvisor.Value.Binary
import ScadAdvisor.Proofs.Dedupe
import ScadAdvisor.Proofs.Deprecation
import ScadAdvisor.Proofs.Deprecation.Distinct
import ScadAdvisor.Proofs.Lexeme
import ScadAdvisor.Proofs.LineMask
import ScadAdvisor.Proofs.LineStrip
import ScadAdvisor.Proofs.Mask
import ScadAdvisor.Proofs.Newlines
import ScadAdvisor.Proofs.Reassignment.Body
import ScadAdvisor.Proofs.Reassignment.Comment
import ScadAdvisor.Proofs.Reassignment.Events
import ScadAdvisor.Proofs.Reassignment.Literal
import ScadAdvisor.Proofs.Reassignment.Positions
import ScadAdvisor.Proofs.Reassignment.Reachable
import ScadAdvisor.Proofs.Reassignment.Reading
import ScadAdvisor.Proofs.Reassignment.Shift
import ScadAdvisor.Proofs.Scan
import ScadAdvisor.Proofs.Settings
import ScadAdvisor.Proofs.Store.Run
import ScadAdvisor.Proofs.Store.Release
import ScadAdvisor.Proofs.Store.Accounts
import ScadAdvisor.Proofs.Store.Versions
import ScadAdvisor.Proofs.Snapshot
import ScadAdvisor.Proofs.Store.Isolation
import ScadAdvisor.Proofs.Store.Transparency
import ScadAdvisor.Proofs.Value.Merge
import ScadAdvisor.Proofs.Settings.Extensions
import ScadAdvisor.Proofs.Reassignment.ExpressionFunction
import ScadAdvisor.Proofs.Settings.Faults
import ScadAdvisor.Proofs.Lines
import ScadAdvisor.Proofs.Reassignment.Lines
import ScadAdvisor.Proofs.Reassignment.TrailingBlanks
import ScadAdvisor.Proofs.Deprecation.Occurrences
import ScadAdvisor.Proofs.Deprecation.Unicode
import ScadAdvisor.Proofs.LineIndex
import ScadAdvisor.Proofs.MaskedTwice
import ScadAdvisor.Proofs.Deprecation.DigitWords
import ScadAdvisor.Proofs.Deprecation.Imports
import ScadAdvisor.Proofs.Settings.RoundTrip
import ScadAdvisor.Proofs.Digits
import ScadAdvisor.Proofs.File.Collect
import ScadAdvisor.Proofs.Json.Reader
import ScadAdvisor.Proofs.Json.RoundTrip
import ScadAdvisor.Proofs.Report
import ScadAdvisor.Proofs.Value.Associative
import ScadAdvisor.Proofs.Reassignment.Grammar
import ScadAdvisor.Proofs.Reassignment.Records
