import Storefront.Binary64
import Storefront.Block.Basic
import Storefront.Block.Kind
import Storefront.Block.Reader
import Storefront.Block.Writer
import Storefront.Command.Arguments
import Storefront.Command.Basic
import Storefront.Command.Extras
import Storefront.Command.Outcome
import Storefront.Condition.Basic
import Storefront.Condition.Evaluation
import Storefront.Condition.Operator
import Storefront.Decimal
import Storefront.Decimal.Numeral
import Storefront.Diagnostic
import Storefront.Dictionary
import Storefront.Event.Action
import Storefront.Event.Basic
import Storefront.Event.Dispatcher
import Storefront.Event.HandlerTable
import Storefront.Event.Invocation
import Storefront.Event.Trigger
import Storefront.Files
import Storefront.Json.Basic
import Storefront.Json.Cursor
import Storefront.Json.Dump
import Storefront.Json.Fault
import Storefront.Json.Field
import Storefront.Json.Numeral
import Storefront.Json.Parser
import Storefront.Json.Printer
import Storefront.Json.Reading
import Storefront.Json.Record
import Storefront.Json.Skip
import Storefront.Key
import Storefront.Main
import Storefront.Notice
import Storefront.Notice.Filter
import Storefront.Path
import Storefront.Plan.Basic
import Storefront.Plan.Drawing
import Storefront.Plan.Walk
import Storefront.Plan.Writer
import Storefront.Proofs.Binary64
import Storefront.Proofs.Block.Address
import Storefront.Proofs.Block.Canonical
import Storefront.Proofs.Block.Entries
import Storefront.Proofs.Block.Fields
import Storefront.Proofs.Block.Records
import Storefront.Proofs.Block.RoundTrip
import Storefront.Proofs.Condition.Comparison
import Storefront.Proofs.Event.History
import Storefront.Proofs.Event.Location
import Storefront.Proofs.Json.Canonical
import Storefront.Proofs.Json.Equality
import Storefront.Proofs.Json.Number
import Storefront.Proofs.Json.Record
import Storefront.Proofs.Key
import Storefront.Proofs.Key.Siblings
import Storefront.Proofs.Path.Indices
import Storefront.Proofs.Path.Scanning
import Storefront.Proofs.Plan.Footprint
import Storefront.Proofs.Plan.Hiding
import Storefront.Proofs.Plan.Identity
import Storefront.Proofs.Plan.Keys
import Storefront.Proofs.Plan.Mirror
import Storefront.Proofs.Plan.Reports
import Storefront.Proofs.Plan.Tolerance
import Storefront.Proofs.Plan.Unrolling
import Storefront.Proofs.Plan.Visit
import Storefront.Proofs.Scope
import Storefront.Proofs.Tag
import Storefront.Proofs.Url.Navigable
import Storefront.Scope
import Storefront.Settings.Basic
import Storefront.Settings.Fault
import Storefront.Settings.KeyPath
import Storefront.Settings.Layer
import Storefront.Settings.Reading
import Storefront.Settings.Tree
import Storefront.Style
import Storefront.Text.Blank
import Storefront.Text.Digits
import Storefront.Text.Guarded
import Storefront.Text.Lower
import Storefront.Text.Printable
import Storefront.Text.Quoted
import Storefront.Text.Ranges
import Storefront.Text.Search
import Storefront.Text.Split
import Storefront.Toml.Item
import Storefront.Toml.Moment
import Storefront.Toml.Parser
import Storefront.Toml.Reader
import Storefront.Toml.Scalar
import Storefront.Toml.Value
import Storefront.Url.Address
import Storefront.Url.Basic
import Storefront.Url.Domain
import Storefront.Url.Domain.Classes
import Storefront.Url.Domain.Direction
import Storefront.Url.Domain.Joining
import Storefront.Url.Domain.Mapping
import Storefront.Url.Host
import Storefront.Url.Punycode
import Storefront.View
import Storefront.Wrapper
import Storefront.Proofs.Path.Replacement
import Storefront.Proofs.Path.Composition
import Storefront.Proofs.Dictionary
import Storefront.Proofs.Style
import Storefront.Proofs.Text.Trim
import Storefront.Proofs.Wrapper.Grammar
import Storefront.Proofs.Wrapper.Selector
import Storefront.Proofs.Command.Extras
import Storefront.Proofs.Plan.Places
import Storefront.Proofs.Plan.Drawing
import Storefront.Proofs.Settings.Tree
import Storefront.Proofs.Settings.Reading
import Storefront.Proofs.Settings.Precedence
