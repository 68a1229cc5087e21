import DiceTray.Main
import DiceTray.Service
import DiceTray.Proofs.Expression.Reading
import DiceTray.Proofs.Expression.RoundTrip
import DiceTray.Proofs.Alias.RoundTrip
import DiceTray.Proofs.Session.Runs
import DiceTray.Proofs.Alias.Saving
import DiceTray.Proofs.History.Accumulation
import DiceTray.Proofs.History.Appending
import DiceTray.Proofs.Session.Effects
import DiceTray.Proofs.Session.Failure
import DiceTray.Proofs.Alias.Operations
import DiceTray.Proofs.Session.Profiles
import DiceTray.Proofs.History.Decoding
import DiceTray.Proofs.Session.Record
import DiceTray.Proofs.Expression.Refusal
import DiceTray.Proofs.Plan.Texts
import DiceTray.Proofs.Session.Nested
import DiceTray.Proofs.Number.Places
import DiceTray.Proofs.Line.Averages
import DiceTray.Proofs.Plan.Averages
import DiceTray.Proofs.Session.Unfolding
import DiceTray.Proofs.CommandLine.DefaultCommand
import DiceTray.Proofs.Expression.Overlong
import DiceTray.Proofs.Report.Explanation
import DiceTray.Proofs.Source.Results
import DiceTray.Proofs.Report.Agreement
import DiceTray.Proofs.Alias.Components
import DiceTray.Proofs.Json.Literals
import DiceTray.Proofs.Alias.Loading
import DiceTray.Proofs.Alias.Defects
import DiceTray.Proofs.Number.Range
import DiceTray.Proofs.Plan.Limits
import DiceTray.Proofs.Source.Reliable
import DiceTray.Proofs.Session.Completion
import DiceTray.Proofs.Source.Accounting
import DiceTray.Proofs.Json.Members
import DiceTray.Proofs.Source.Expectation
import DiceTray.Proofs.Source.Guarding
import DiceTray.Proofs.Alias.Colors
import DiceTray.Proofs.Alias.Entries
import DiceTray.Proofs.Line.Reading
import DiceTray.Proofs.Line.Highlights
import DiceTray.Proofs.Text.Case
import DiceTray.Proofs.Expression.Normalization
import DiceTray.Proofs.Expression.Trailing
import DiceTray.Proofs.Expression.Viability
import DiceTray.Proofs.Session.LineEnds
