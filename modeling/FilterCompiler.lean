import FilterCompiler.Text.Blank
import FilterCompiler.Text.Lines
import FilterCompiler.Host.Version
import FilterCompiler.Regex.Dialect
import FilterCompiler.Pattern.Basic
import FilterCompiler.Pattern.Host
import FilterCompiler.Rule.Options
import FilterCompiler.Rule.Error
import FilterCompiler.Rule.Marker
import FilterCompiler.Rule.Header
import FilterCompiler.Rule.Scriptlet
import FilterCompiler.Rule.Selector
import FilterCompiler.Rule.Network
import FilterCompiler.Rule.Cosmetic
import FilterCompiler.Rule.Basic
import FilterCompiler.Rule.Canonical
import FilterCompiler.Rule.Batch
import FilterCompiler.Json.Token
import FilterCompiler.Json.Value
import FilterCompiler.Json.Record
import FilterCompiler.Ruleset.Entry
import FilterCompiler.Ruleset.RuleEntry
import FilterCompiler.Ruleset.Resolve
import FilterCompiler.Ruleset.Assemble
import FilterCompiler.Conversion.Basic
import FilterCompiler.Conversion.Report
import FilterCompiler.Conversion.Allowlist
import FilterCompiler.Conversion.Chunks
import FilterCompiler.Conversion.Lanes
import FilterCompiler.Text.Utf8
import FilterCompiler.Store.Hash
import FilterCompiler.Store.Fingerprint
import FilterCompiler.Store.Reload
import FilterCompiler.Store.Path
import FilterCompiler.Store.Files
import FilterCompiler.Store.Session
import FilterCompiler.Store.Rulesets
import FilterCompiler.Store.Cache
import FilterCompiler.Store.Programs
import FilterCompiler.Store.Machine
import FilterCompiler.Command.Arguments
import FilterCompiler.Command.Fault
import FilterCompiler.Command.Compile
import FilterCompiler.Command.Disable
import FilterCompiler.Command.Validate
import FilterCompiler.Command.Run
import FilterCompiler.Main
import FilterCompiler.Proofs.Regex.Grammar
import FilterCompiler.Proofs.Regex.Acceptance
import FilterCompiler.Proofs.Regex.Offence
import FilterCompiler.Proofs.Regex.Meaning
import FilterCompiler.Proofs.Pattern.Meaning
import FilterCompiler.Proofs.Pattern.Dialect
import FilterCompiler.Proofs.Pattern.HostAnchor
import FilterCompiler.Proofs.Pattern.HostCut
import FilterCompiler.Proofs.Pattern.Host
import FilterCompiler.Proofs.Pattern.HostEncoding
import FilterCompiler.Proofs.Text
import FilterCompiler.Proofs.Ascii
import FilterCompiler.Proofs.Text.Escaping
import FilterCompiler.Proofs.Text.Bytes
import FilterCompiler.Proofs.Text.Slice
import FilterCompiler.Proofs.Text.Decoding
import FilterCompiler.Proofs.Domain
import FilterCompiler.Proofs.LetterCase
import FilterCompiler.Proofs.Json.RoundTrip
import FilterCompiler.Proofs.Rule.Reading
import FilterCompiler.Proofs.Rule.Network
import FilterCompiler.Proofs.Rule.Negation
import FilterCompiler.Proofs.Rule.Outcomes
import FilterCompiler.Proofs.Rule.StyleContent
import FilterCompiler.Proofs.Rule.WellFormed
import FilterCompiler.Proofs.Rule.NewerHost
import FilterCompiler.Proofs.Rule.Marker
import FilterCompiler.Proofs.Rule.Leftmost
import FilterCompiler.Proofs.Rule.Canonical
import FilterCompiler.Proofs.Rule.Rewriting
import FilterCompiler.Proofs.Rule.CallArguments
import FilterCompiler.Proofs.Rule.Quoting
import FilterCompiler.Proofs.Rule.DomainCase
import FilterCompiler.Proofs.Rule.Parts
import FilterCompiler.Proofs.Rule.Expansion
import FilterCompiler.Proofs.Rule.Exemption
import FilterCompiler.Proofs.Rule.LiteralRegex
import FilterCompiler.Proofs.Rule.Width
import FilterCompiler.Proofs.Rule.Selector
import FilterCompiler.Proofs.Rule.LineCase
import FilterCompiler.Proofs.Rule.OptionOrder
import FilterCompiler.Proofs.Checked.Marker
import FilterCompiler.Proofs.Checked.Pattern
import FilterCompiler.Proofs.Checked.Host
import FilterCompiler.Proofs.Checked.Network
import FilterCompiler.Proofs.Checked.Scriptlet
import FilterCompiler.Proofs.Checked.Cosmetic
import FilterCompiler.Proofs.Checked.Canonical
import FilterCompiler.Proofs.Checked.Batch
import FilterCompiler.Proofs.Ruleset.RoundTrip
import FilterCompiler.Proofs.Ruleset.Steps
import FilterCompiler.Proofs.Ruleset.Resolve
import FilterCompiler.Proofs.Ruleset.Narrowing
import FilterCompiler.Proofs.Ruleset.Acceptable
import FilterCompiler.Proofs.Ruleset.Assemble
import FilterCompiler.Proofs.Conversion.Acceptable
import FilterCompiler.Proofs.Conversion.Chunks
import FilterCompiler.Proofs.Conversion.Lane
import FilterCompiler.Proofs.Ruleset.LongestPrefix
import FilterCompiler.Proofs.Ruleset.LostHosts
import FilterCompiler.Proofs.Ruleset.Resolution
import FilterCompiler.Proofs.Ruleset.Badfilter
import FilterCompiler.Proofs.Ruleset.Precedence
import FilterCompiler.Proofs.Ruleset.Decoding
import FilterCompiler.Proofs.Ruleset.LetterCase
import FilterCompiler.Proofs.Conversion.Lanes
import FilterCompiler.Proofs.Conversion.Schedules
import FilterCompiler.Proofs.Conversion.Accounting
import FilterCompiler.Proofs.Conversion.Merging
import FilterCompiler.Proofs.Conversion.NewerHost
import FilterCompiler.Proofs.Conversion.Splitting
import FilterCompiler.Proofs.Conversion.HostRules
import FilterCompiler.Proofs.Conversion.LetterCase
import FilterCompiler.Proofs.Conversion.DocumentException
import FilterCompiler.Proofs.Conversion.Allowlist
import FilterCompiler.Proofs.Conversion.InvertedAllowlist
import FilterCompiler.Proofs.Store.Reload
import FilterCompiler.Proofs.Store.Path
import FilterCompiler.Proofs.Store.Files
import FilterCompiler.Proofs.Store.Session
import FilterCompiler.Proofs.Store.Rulesets
import FilterCompiler.Proofs.Store.Programs
import FilterCompiler.Proofs.Store.Fingerprint
import FilterCompiler.Proofs.Store.Cache
import FilterCompiler.Proofs.Store.Loading
import FilterCompiler.Proofs.Store.Runs
import FilterCompiler.Proofs.Store.Coverage
import FilterCompiler.Proofs.Command.Compile
import FilterCompiler.Proofs.Command.CacheTransparency
import FilterCompiler.Proofs.Command.LastCommand
