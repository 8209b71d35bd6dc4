import SpatialAccess.Clock
import SpatialAccess.Counts
import SpatialAccess.Decimal.Binary
import SpatialAccess.Decimal.Integer
import SpatialAccess.Decimal.Literal
import SpatialAccess.Decimal.Rounded
import SpatialAccess.Decimal.Shortest
import SpatialAccess.Facility.Basic
import SpatialAccess.Facility.Day
import SpatialAccess.Facility.Document
import SpatialAccess.Facility.Reader
import SpatialAccess.Geometry
import SpatialAccess.Gravity.Cache
import SpatialAccess.Gravity.Model
import SpatialAccess.Gravity.Potential
import SpatialAccess.Gravity.Search
import SpatialAccess.Gravity.Settings
import SpatialAccess.Id
import SpatialAccess.Main
import SpatialAccess.Markup.Attribute
import SpatialAccess.Markup.Token
import SpatialAccess.MeasuringGrid
import SpatialAccess.Mode
import SpatialAccess.Network.Basic
import SpatialAccess.Network.Document
import SpatialAccess.Network.Error
import SpatialAccess.Network.Routing
import SpatialAccess.Number
import SpatialAccess.Output.Folder
import SpatialAccess.Output.Layout
import SpatialAccess.Output.Observer
import SpatialAccess.Population.Basic
import SpatialAccess.Population.Table
import SpatialAccess.Program.AccessibilityRun
import SpatialAccess.Program.Lattice
import SpatialAccess.Program.Named
import SpatialAccess.Program.Report
import SpatialAccess.Program.RetailSiting
import SpatialAccess.Proofs.Calls
import SpatialAccess.Proofs.Clock
import SpatialAccess.Proofs.Counts.Comparison
import SpatialAccess.Proofs.Counts.MeanErrors
import SpatialAccess.Proofs.Counts.Rows
import SpatialAccess.Proofs.Facility.Collection
import SpatialAccess.Proofs.Facility.Contents
import SpatialAccess.Proofs.Facility.Described
import SpatialAccess.Proofs.Facility.Elements
import SpatialAccess.Proofs.Facility.Grammar
import SpatialAccess.Proofs.Facility.Offers
import SpatialAccess.Proofs.Facility.Opened
import SpatialAccess.Proofs.Facility.Reading
import SpatialAccess.Proofs.Facility.Refused
import SpatialAccess.Proofs.Facility.Tokens
import SpatialAccess.Proofs.Gravity.BestLayout
import SpatialAccess.Proofs.Gravity.Building
import SpatialAccess.Proofs.Gravity.CacheHistory
import SpatialAccess.Proofs.Gravity.CachedScore
import SpatialAccess.Proofs.Gravity.Checks
import SpatialAccess.Proofs.Gravity.Likelihood
import SpatialAccess.Proofs.Gravity.LookUps
import SpatialAccess.Proofs.Gravity.Order
import SpatialAccess.Proofs.Gravity.Samples
import SpatialAccess.Proofs.Gravity.Shops
import SpatialAccess.Proofs.Gravity.Utility
import SpatialAccess.Proofs.Groups
import SpatialAccess.Proofs.Labels
import SpatialAccess.Proofs.Network.Adjacency
import SpatialAccess.Proofs.Network.Closest
import SpatialAccess.Proofs.Network.Effort
import SpatialAccess.Proofs.Network.Growth
import SpatialAccess.Proofs.Network.LeastCost
import SpatialAccess.Proofs.Network.Pricing
import SpatialAccess.Proofs.Network.Queue
import SpatialAccess.Proofs.Network.Reading
import SpatialAccess.Proofs.Network.Slices
import SpatialAccess.Proofs.Network.Walk
import SpatialAccess.Proofs.Network.Written
import SpatialAccess.Proofs.Number.Double.Margin
import SpatialAccess.Proofs.Number.Double.Natural
import SpatialAccess.Proofs.Number.Double.Nearest
import SpatialAccess.Proofs.Number.Double.Order
import SpatialAccess.Proofs.Number.Double.Packing
import SpatialAccess.Proofs.Number.Double.Product
import SpatialAccess.Proofs.Number.Double.Quotient
import SpatialAccess.Proofs.Number.Double.Rational
import SpatialAccess.Proofs.Number.Double.Rounding
import SpatialAccess.Proofs.Number.Double.Scaled
import SpatialAccess.Proofs.Number.Double.Sum
import SpatialAccess.Proofs.Number.Double.Value
import SpatialAccess.Proofs.Number.Exact
import SpatialAccess.Proofs.Number.Laws
import SpatialAccess.Proofs.Outcome
import SpatialAccess.Proofs.Population.Creation
import SpatialAccess.Proofs.Population.Rows
import SpatialAccess.Proofs.Random.Positions
import SpatialAccess.Proofs.Random.Sampling
import SpatialAccess.Proofs.Scoring.Booking
import SpatialAccess.Proofs.Scoring.Clipping
import SpatialAccess.Proofs.Scoring.Conservation
import SpatialAccess.Proofs.Scoring.Crowding
import SpatialAccess.Proofs.Scoring.Improvement
import SpatialAccess.Proofs.Scoring.OpenTime
import SpatialAccess.Proofs.Scoring.Refusal
import SpatialAccess.Proofs.Scoring.Visitors
import SpatialAccess.Proofs.Settings.Accepted
import SpatialAccess.Proofs.Settings.Lists
import SpatialAccess.Proofs.Settings.Reading
import SpatialAccess.Proofs.Surface.Agreement
import SpatialAccess.Proofs.Surface.Anchors
import SpatialAccess.Proofs.Surface.Cells
import SpatialAccess.Proofs.Surface.ClosestNodes
import SpatialAccess.Proofs.Surface.Discovery
import SpatialAccess.Proofs.Surface.Filling
import SpatialAccess.Proofs.Surface.Grouping
import SpatialAccess.Proofs.Surface.History
import SpatialAccess.Proofs.Surface.Independence
import SpatialAccess.Proofs.Surface.Reporting
import SpatialAccess.Proofs.Surface.Requests
import SpatialAccess.Proofs.Text.Digits
import SpatialAccess.Proofs.Text.Items
import SpatialAccess.Proofs.Zone.AxisCell
import SpatialAccess.Proofs.Zone.Binning
import SpatialAccess.Proofs.Zone.Correction
import SpatialAccess.Proofs.Zone.Extent
import SpatialAccess.Proofs.Zone.Nearby
import SpatialAccess.Proofs.Zone.Tiling
import SpatialAccess.Random.Sample
import SpatialAccess.Random.Stream
import SpatialAccess.Scoring.Ledger
import SpatialAccess.Scoring.Load
import SpatialAccess.Scoring.Opening
import SpatialAccess.Scoring.Performance
import SpatialAccess.Scoring.Settings
import SpatialAccess.Settings.Document
import SpatialAccess.Settings.Error
import SpatialAccess.Settings.Group
import SpatialAccess.Surface.Basic
import SpatialAccess.Surface.Compute
import SpatialAccess.Surface.Opportunity
import SpatialAccess.Surface.Run
import SpatialAccess.Surface.Settings
import SpatialAccess.Table.Reader
import SpatialAccess.Table.Writer
import SpatialAccess.Text.Aligned
import SpatialAccess.Text.Blank
import SpatialAccess.Text.Invisible
import SpatialAccess.Text.Quoted
import SpatialAccess.Text.Utf8
import SpatialAccess.Toml.Document
import SpatialAccess.Toml.Lexeme
import SpatialAccess.Toml.Scalar
import SpatialAccess.Toml.Value
import SpatialAccess.Zone.Grid
import SpatialAccess.Zone.Index
