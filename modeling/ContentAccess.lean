import ContentAccess.Content.Outline
import ContentAccess.Content.Snapshot.Json
import ContentAccess.Content.Snapshot.Yaml
import ContentAccess.Content.Store
import ContentAccess.Layout.Json
import ContentAccess.Layout.Yaml
import ContentAccess.Proofs.Content.Agreement
import ContentAccess.Proofs.Content.Boundary
import ContentAccess.Proofs.Content.Building
import ContentAccess.Proofs.Content.Capture
import ContentAccess.Proofs.Content.Contents
import ContentAccess.Proofs.Content.Descent
import ContentAccess.Proofs.Content.Links
import ContentAccess.Proofs.Content.Log
import ContentAccess.Proofs.Content.Merge
import ContentAccess.Proofs.Content.Navigation
import ContentAccess.Proofs.Content.Outline
import ContentAccess.Proofs.Content.Property
import ContentAccess.Proofs.Content.Replay
import ContentAccess.Proofs.Content.RoundTrip
import ContentAccess.Proofs.Content.Snapshot
import ContentAccess.Proofs.Content.Updates
import ContentAccess.Proofs.Distinct
import ContentAccess.Proofs.Matcher.Level
import ContentAccess.Proofs.Matcher.Lifting
import ContentAccess.Proofs.Matcher.Locality
import ContentAccess.Proofs.Matcher.Metadata
import ContentAccess.Proofs.Matcher.Monotone
import ContentAccess.Proofs.Matcher.Simulation
import ContentAccess.Proofs.Outcome
import ContentAccess.Proofs.Restriction
import ContentAccess.Proofs.Rule.Comparison
import ContentAccess.Proofs.Rule.Dialect
import ContentAccess.Proofs.Rule.Grammar
import ContentAccess.Proofs.Rule.Header
import ContentAccess.Proofs.Rule.Level
import ContentAccess.Proofs.Rule.Overlap
import ContentAccess.Proofs.Rule.Parts
import ContentAccess.Proofs.Rule.Reader
import ContentAccess.Proofs.Rule.Rewriting
import ContentAccess.Proofs.Rule.RoundTrip
import ContentAccess.Proofs.Text.Split
import ContentAccess.Proofs.Walk
import ContentAccess.Restriction.Json
import ContentAccess.Rule.Json
import ContentAccess.Rule.Writer
import ContentAccess.Proofs.Path.Order
import ContentAccess.Proofs.Matcher.Clock
import ContentAccess.Proofs.Rule.LevelGrammar
import ContentAccess.Proofs.Rule.Rejection
import ContentAccess.Proofs.Operand.Integer
import ContentAccess.Proofs.Operand.Date
import ContentAccess.Proofs.Matcher.TypeMarker
import ContentAccess.Proofs.Content.Json
import ContentAccess.Proofs.Rule.Search
import ContentAccess.Proofs.Rule.Commas
