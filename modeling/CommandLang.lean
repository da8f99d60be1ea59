import CommandLang.Text.Basic
import CommandLang.Text.Blank
import CommandLang.Text.Digit
import CommandLang.Text.Name
import CommandLang.Text.Quoted
import CommandLang.Color.Notation
import CommandLang.Keyed
import CommandLang.Spec.Check
import CommandLang.Catalog
import CommandLang.Scan
import CommandLang.Definition
import CommandLang.Registry.Operation
import CommandLang.Help
import CommandLang.Report.Display
import CommandLang.Main
import CommandLang.Proofs.Text
import CommandLang.Proofs.Text.Case
import CommandLang.Proofs.Text.Cells
import CommandLang.Proofs.Numeral
import CommandLang.Proofs.Color
import CommandLang.Proofs.Color.Notation
import CommandLang.Proofs.Color.Case
import CommandLang.Proofs.Spec
import CommandLang.Proofs.Spec.Check
import CommandLang.Proofs.Spec.Run
import CommandLang.Proofs.Catalog
import CommandLang.Proofs.Catalog.Lookup
import CommandLang.Proofs.Catalog.Check
import CommandLang.Proofs.Builtin
import CommandLang.Proofs.Definition
import CommandLang.Proofs.Definition.Parts
import CommandLang.Proofs.Instance
import CommandLang.Proofs.Scan.Step
import CommandLang.Proofs.Scan.RoundTrip
import CommandLang.Proofs.Scan.Fault
import CommandLang.Proofs.Scan.Yield
import CommandLang.Proofs.Scan.Canonical
import CommandLang.Proofs.Scan.Case
import CommandLang.Proofs.Scan.Excerpt
import CommandLang.Proofs.Scan.Progress
import CommandLang.Proofs.Registry.Resolution
import CommandLang.Proofs.Registry.Ledger
import CommandLang.Proofs.Registry.Sequence
import CommandLang.Proofs.Registry.Reachable
import CommandLang.Proofs.Registry.Atomic
import CommandLang.Proofs.Registry.RoundTrip
import CommandLang.Proofs.Registry.Fault
import CommandLang.Proofs.Registry.Explained
import CommandLang.Proofs.Registry.Canonical
import CommandLang.Proofs.Registry.Case
import CommandLang.Proofs.Registry.Classification
import CommandLang.Proofs.Report.Markup
import CommandLang.Proofs.Report.Escape
import CommandLang.Proofs.Report.Passage
import CommandLang.Proofs.Report.Display
import CommandLang.Proofs.Report.Layout
import CommandLang.Proofs.Report.Columns
import CommandLang.Proofs.Report.Grid
import CommandLang.Proofs.Report.Table
import CommandLang.Proofs.Report.Faithful
import CommandLang.Proofs.Help
import CommandLang.Proofs.Help.Lines
import CommandLang.Proofs.CommandLine.Options
import CommandLang.Proofs.CommandLine.Operands
import CommandLang.Proofs.CommandLine.Level
import CommandLang.Proofs.CommandLine.Finish
import CommandLang.Proofs.CommandLine.Plain
import CommandLang.Proofs.Scan.Order
import CommandLang.Proofs.Scan.Spelling
import CommandLang.Proofs.Scan.Course
import CommandLang.Proofs.Registry.Account
import CommandLang.Proofs.Registry.Checked
import CommandLang.Proofs.Scan.Remainder
import CommandLang.Proofs.Scan.Padding
import CommandLang.Proofs.Numeral.Leading
import CommandLang.Proofs.Text.Fold
import CommandLang.Proofs.Catalog.Suffix
import CommandLang.Proofs.Text.Lower
import CommandLang.Proofs.Color.Grammar
import CommandLang.Proofs.Color.Agreement
