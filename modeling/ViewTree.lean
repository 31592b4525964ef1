import ViewTree.Calc.Evaluation
import ViewTree.Calc.Fault
import ViewTree.Calc.Term
import ViewTree.Calc.Token
import ViewTree.Crash
import ViewTree.Data.Cache
import ViewTree.Data.Claims
import ViewTree.Data.Client
import ViewTree.Data.Query
import ViewTree.Data.Record
import ViewTree.Data.Request
import ViewTree.Data.Store
import ViewTree.Expression
import ViewTree.Fields
import ViewTree.Handler.Binding
import ViewTree.Handler.Event
import ViewTree.Handler.Policy
import ViewTree.Host
import ViewTree.Json.Basic
import ViewTree.Json.Reader
import ViewTree.Json.Shape
import ViewTree.Json.Writer
import ViewTree.Names
import ViewTree.Node
import ViewTree.Number.Binary
import ViewTree.Number.Layout
import ViewTree.Number.Reading
import ViewTree.Number.Remainder
import ViewTree.Number.Shortest
import ViewTree.Path
import ViewTree.Proofs.Cache.Cancelling
import ViewTree.Proofs.Cache.Claiming
import ViewTree.Proofs.Cache.Holders
import ViewTree.Proofs.Cache.Ownership
import ViewTree.Proofs.Cache.Replies
import ViewTree.Proofs.Cache.Settling
import ViewTree.Proofs.Calc.Finiteness
import ViewTree.Proofs.Calc.Grammar
import ViewTree.Proofs.Calc.Layout
import ViewTree.Proofs.Calc.Lookups
import ViewTree.Proofs.Calc.Paths
import ViewTree.Proofs.Calc.Tokens
import ViewTree.Proofs.Data.Arrivals
import ViewTree.Proofs.Data.Criteria
import ViewTree.Proofs.Data.Keys
import ViewTree.Proofs.Data.Nesting
import ViewTree.Proofs.Data.Versions
import ViewTree.Proofs.Expression.Chains
import ViewTree.Proofs.Expression.Comparisons
import ViewTree.Proofs.Expression.Operands
import ViewTree.Proofs.Handler.Calls
import ViewTree.Proofs.Handler.Prevention
import ViewTree.Proofs.Host.Histories
import ViewTree.Proofs.Json.RoundTrip
import ViewTree.Proofs.Number.Finiteness
import ViewTree.Proofs.Number.Integers
import ViewTree.Proofs.Path.Continuations
import ViewTree.Proofs.Path.Grammar
import ViewTree.Proofs.Render.Depth
import ViewTree.Proofs.Render.Elements
import ViewTree.Proofs.Render.Fetching
import ViewTree.Proofs.Render.Frames
import ViewTree.Proofs.Render.Grouping
import ViewTree.Proofs.Render.Noninterference
import ViewTree.Proofs.Render.Reached
import ViewTree.Proofs.Render.Rounds
import ViewTree.Proofs.Render.Snapshots
import ViewTree.Proofs.Render.Stopping
import ViewTree.Proofs.Render.Visits
import ViewTree.Proofs.Scope.Agreement
import ViewTree.Proofs.Scope.Finiteness
import ViewTree.Proofs.Scope.Shadowing
import ViewTree.Proofs.Scope.Walks
import ViewTree.Proofs.Settings.Documents
import ViewTree.Proofs.Surface.Children
import ViewTree.Proofs.Surface.Documents
import ViewTree.Proofs.Surface.Likeness
import ViewTree.Proofs.Surface.Views
import ViewTree.Proofs.Template.Interpolation
import ViewTree.Proofs.Template.Mentions
import ViewTree.Proofs.Template.Pieces
import ViewTree.Proofs.Text.Blanks
import ViewTree.Proofs.Text.Cuts
import ViewTree.Proofs.Text.Numerals
import ViewTree.Proofs.Value.Encodings
import ViewTree.Render.Basic
import ViewTree.Render.Renderer
import ViewTree.Render.Settle
import ViewTree.Scope
import ViewTree.Settings
import ViewTree.Surface.Basic
import ViewTree.Surface.Json
import ViewTree.Template
import ViewTree.Text.Alphanumeric
import ViewTree.Text.Blank
import ViewTree.Text.Cut
import ViewTree.Text.Hidden
import ViewTree.Text.Numeral
import ViewTree.Text.Parsed
import ViewTree.Text.Quoted
import ViewTree.Text.Ranges
import ViewTree.Value.Basic
import ViewTree.Value.Json
import ViewTree.View
