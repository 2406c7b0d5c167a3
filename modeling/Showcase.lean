import Showcase.Address.Basic
import Showcase.Address.Label
import Showcase.Address.Numeric
import Showcase.Address.Percent
import Showcase.Address.Separators
import Showcase.Address.Trust
import Showcase.Address.Unicode
import Showcase.Bindings
import Showcase.Client
import Showcase.Component.Basic
import Showcase.Component.Category
import Showcase.Component.Metadata
import Showcase.Component.Remote
import Showcase.Component.Upload
import Showcase.Failure
import Showcase.Html.Body
import Showcase.Html.Escape
import Showcase.Html.Lexer
import Showcase.Html.Reference
import Showcase.Html.Table.Names
import Showcase.Html.Tag
import Showcase.Html.Tree
import Showcase.Html.Writer
import Showcase.Json.Basic
import Showcase.Json.Reader
import Showcase.Json.Writer
import Showcase.Jsx.Convert
import Showcase.Jsx.Rule
import Showcase.Listing.Entry
import Showcase.Listing.Layout
import Showcase.Listing.Path
import Showcase.Listing.Selection
import Showcase.Network.Body
import Showcase.Network.Memory
import Showcase.Network.Remote
import Showcase.Number.Double
import Showcase.Number.Seconds
import Showcase.Number.Shortest
import Showcase.Pattern.AnyCase
import Showcase.Pattern.Basic
import Showcase.Pattern.Search
import Showcase.Preview.Bootstrap
import Showcase.Preview.Document
import Showcase.Preview.Dynamic
import Showcase.Preview.Static
import Showcase.Preview.Surface
import Showcase.Proofs.Json.Literal
import Showcase.Proofs.Json.RoundTrip
import Showcase.Proofs.Json.Size
import Showcase.Proofs.Listing.Entry
import Showcase.Proofs.Network.Remote
import Showcase.Proofs.Number.Magnitude
import Showcase.Proofs.Record.Field
import Showcase.Proofs.Session.Cancellation
import Showcase.Proofs.Session.Change
import Showcase.Proofs.Session.Coherence
import Showcase.Proofs.Session.Commit
import Showcase.Proofs.Session.Growth
import Showcase.Proofs.Session.Origin
import Showcase.Proofs.Session.Resumption
import Showcase.Proofs.Session.Return
import Showcase.Proofs.Session.Run
import Showcase.Proofs.Session.Turns
import Showcase.Proofs.Text.Utf8
import Showcase.Proofs.Transport.Content
import Showcase.Proofs.Transport.Deployment
import Showcase.Proofs.Transport.Listing
import Showcase.Record.Field
import Showcase.Record.Issue
import Showcase.Repository.Reference
import Showcase.Script.Component
import Showcase.Script.Module
import Showcase.Service.Answer
import Showcase.Service.Basic
import Showcase.Service.Builder
import Showcase.Service.Form
import Showcase.Service.Proxy
import Showcase.Session.Basic
import Showcase.Session.Call
import Showcase.Session.Load
import Showcase.Session.State
import Showcase.Settings.Basic
import Showcase.Settings.Reader
import Showcase.Template.Basic
import Showcase.Template.Label
import Showcase.Template.Piece
import Showcase.Text.Basic
import Showcase.Text.Blank
import Showcase.Text.Bytes
import Showcase.Text.CodePointSet
import Showcase.Text.Hex
import Showcase.Text.LetterCase
import Showcase.Text.Normal
import Showcase.Text.Printable
import Showcase.Text.Quoted
import Showcase.Text.Table.Alphanumeric
import Showcase.Text.Table.Case
import Showcase.Text.Table.Composition
import Showcase.Text.Table.Label
import Showcase.Text.Table.Mark
import Showcase.Text.Table.Neighbour
import Showcase.Text.Table.Unprintable
import Showcase.Text.Wide
import Showcase.Text.Word
import Showcase.Variables.Content
import Showcase.Variables.Vocabulary
import Showcase.Proofs.Session.Undisturbed
import Showcase.Proofs.Session.Supersession
import Showcase.Proofs.Session.Rest
import Showcase.Proofs.Component.Static
import Showcase.Proofs.Address.Host
import Showcase.Proofs.Address.Trust
import Showcase.Proofs.Address.Steps
import Showcase.Proofs.Address.Parts
import Showcase.Proofs.Transport.Failures
import Showcase.Proofs.Transport.Directory
import Showcase.Proofs.Address.Authority
import Showcase.Proofs.Address.Origin
import Showcase.Proofs.Transport.Confinement
import Showcase.Proofs.Network.Outcome
import Showcase.Proofs.Repository.Directory
import Showcase.Proofs.Repository.Placed
import Showcase.Proofs.Repository.Listed
import Showcase.Proofs.Repository.Fetched
import Showcase.Proofs.Repository.Project
import Showcase.Proofs.Component.Project
import Showcase.Proofs.Preview.Snapshot
import Showcase.Proofs.Preview.Live
import Showcase.Proofs.Preview.Freshness
import Showcase.Proofs.Transport.Absence
import Showcase.Proofs.Component.Calls
import Showcase.Proofs.Component.Orderly
import Showcase.Proofs.Component.Search
import Showcase.Proofs.Template.Pieces
import Showcase.Proofs.Template.Staged
import Showcase.Proofs.Component.Upload
import Showcase.Proofs.Service.Guard
import Showcase.Proofs.Network.Unsigned
import Showcase.Proofs.Service.Proxy
import Showcase.Proofs.Template.Outline
import Showcase.Proofs.Template.Detection
import Showcase.Proofs.Network.Replay
import Showcase.Proofs.Component.Source
import Showcase.Proofs.Session.Provenance
import Showcase.Proofs.Json.Spelling
import Showcase.Proofs.Json.Ascii
import Showcase.Proofs.Text.Occurrence
import Showcase.Proofs.Preview.Payload
import Showcase.Proofs.Html.Escape
import Showcase.Proofs.Html.Markup
import Showcase.Proofs.Html.Tag
import Showcase.Proofs.Preview.Panel
import Showcase.Proofs.Pattern.Reading
import Showcase.Proofs.Pattern.Replacement
import Showcase.Proofs.Text.Stretch
import Showcase.Proofs.Text.LetterCase
import Showcase.Proofs.Jsx.SelfClosed
import Showcase.Proofs.Jsx.Hole
import Showcase.Proofs.Jsx.Placeholder
import Showcase.Proofs.Jsx.Return
import Showcase.Proofs.Html.Tree
import Showcase.Proofs.Html.Whole
import Showcase.Proofs.Preview.Fragment
import Showcase.Proofs.Pattern.Line
import Showcase.Proofs.Pattern.Search
import Showcase.Proofs.Script.Name
import Showcase.Proofs.Script.Module
import Showcase.Proofs.Script.Heading
import Showcase.Proofs.Script.Cascade
import Showcase.Proofs.Html.Source
import Showcase.Proofs.Html.Order
import Showcase.Proofs.Html.Styles
import Showcase.Proofs.Preview.Reduction
import Showcase.Proofs.Text.Words
import Showcase.Proofs.Text.SmallLetter
import Showcase.Proofs.Pattern.Matches
import Showcase.Proofs.Variables.Vocabulary
import Showcase.Proofs.Variables.Merge
import Showcase.Proofs.Variables.Quotation
import Showcase.Proofs.Variables.Slide
import Showcase.Proofs.Variables.Constant
import Showcase.Proofs.Component.Named
import Showcase.Proofs.Json.Numeral
import Showcase.Proofs.Json.Grammar
import Showcase.Proofs.Json.Reading
import Showcase.Proofs.Listing.Selection
import Showcase.Proofs.Listing.Layout
import Showcase.Proofs.Component.Refusal
import Showcase.Proofs.Service.Verdict
import Showcase.Proofs.Repository.Reference
import Showcase.Proofs.Component.Metadata
import Showcase.Proofs.Listing.Path
import Showcase.Proofs.Listing.Codec
import Showcase.Proofs.Template.Label
