import AppLinks.CommandLine.Command
import AppLinks.CommandLine.Options
import AppLinks.CommandLine.Run
import AppLinks.Decimal.Shortest
import AppLinks.Document.Basic
import AppLinks.Document.Printer
import AppLinks.Document.Reader
import AppLinks.Json.Fault
import AppLinks.Json.Numeral
import AppLinks.Json.Printer
import AppLinks.Json.Reader
import AppLinks.Json.Record
import AppLinks.Json.Skip
import AppLinks.Json.Value
import AppLinks.Locations
import AppLinks.Main
import AppLinks.Matching.Cache
import AppLinks.Matching.Component
import AppLinks.Matching.Event
import AppLinks.Matching.LinkSet
import AppLinks.Matching.Session
import AppLinks.Matching.Step
import AppLinks.Matching.Tester
import AppLinks.NameMap
import AppLinks.Proofs.CommandLine.Check
import AppLinks.Proofs.CommandLine.JsonReport
import AppLinks.Proofs.CommandLine.Match
import AppLinks.Proofs.Document.Query
import AppLinks.Proofs.Document.RoundTrip
import AppLinks.Proofs.Document.Schema
import AppLinks.Proofs.Json.Leaf
import AppLinks.Proofs.Json.Reading
import AppLinks.Proofs.Json.Record
import AppLinks.Proofs.Json.Skip
import AppLinks.Proofs.Json.Text
import AppLinks.Proofs.Json.Value
import AppLinks.Proofs.Matching.Accounting
import AppLinks.Proofs.Matching.Alongside
import AppLinks.Proofs.Matching.Asking
import AppLinks.Proofs.Matching.Consultation
import AppLinks.Proofs.Matching.Emptiness
import AppLinks.Proofs.Matching.Evaluation
import AppLinks.Proofs.Matching.Failure
import AppLinks.Proofs.Matching.Inertness
import AppLinks.Proofs.Matching.Inheritance
import AppLinks.Proofs.Matching.Interchange
import AppLinks.Proofs.Matching.Likeness
import AppLinks.Proofs.Matching.Polarity
import AppLinks.Proofs.Matching.Reordering
import AppLinks.Proofs.Matching.Satisfaction
import AppLinks.Proofs.Matching.Saturation
import AppLinks.Proofs.Matching.Session
import AppLinks.Proofs.Matching.Transparency
import AppLinks.Proofs.Matching.Widening
import AppLinks.Proofs.Regex.Basic
import AppLinks.Proofs.Regex.Source
import AppLinks.Proofs.Text.CaseFold
import AppLinks.Proofs.Text.Decoding
import AppLinks.Proofs.Text.Lines
import AppLinks.Proofs.Text.Percent
import AppLinks.Proofs.Text.Utf8
import AppLinks.Proofs.Url.Origin
import AppLinks.Proofs.Url.Query
import AppLinks.Proofs.Url.Restated
import AppLinks.Proofs.Wildcard.Case
import AppLinks.Proofs.Wildcard.Cut
import AppLinks.Proofs.Wildcard.Error
import AppLinks.Proofs.Wildcard.Jokers
import AppLinks.Proofs.Wildcard.Loops
import AppLinks.Proofs.Wildcard.Meaning
import AppLinks.Proofs.Wildcard.Reading
import AppLinks.Proofs.Wildcard.Scanners
import AppLinks.RelativePath
import AppLinks.Report
import AppLinks.Rules
import AppLinks.Text.CaseFold
import AppLinks.Text.CodeRanges
import AppLinks.Text.CombiningClass
import AppLinks.Text.Composition
import AppLinks.Text.Direction
import AppLinks.Text.Joining
import AppLinks.Text.Mark
import AppLinks.Text.Normal
import AppLinks.Text.Percent
import AppLinks.Text.Pieces
import AppLinks.Text.Quoted
import AppLinks.Text.Unprintable
import AppLinks.Text.Utf8
import AppLinks.Url.Basic
import AppLinks.Url.Domain
import AppLinks.Url.DomainTable
import AppLinks.Url.Error
import AppLinks.Url.Host
import AppLinks.Url.Ipv4
import AppLinks.Url.Ipv6
import AppLinks.Url.Parser
import AppLinks.Url.Path
import AppLinks.Url.Punycode
import AppLinks.Url.Scheme
import AppLinks.Url.View
import AppLinks.Wildcard.CharClass
import AppLinks.Wildcard.Element
import AppLinks.Wildcard.Item
import AppLinks.Wildcard.Locale
import AppLinks.Wildcard.Pattern
import AppLinks.Wildcard.Piece
import AppLinks.Wildcard.Token
