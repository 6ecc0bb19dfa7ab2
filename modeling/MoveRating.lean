import MoveRating.Blank
import MoveRating.Date.Basic
import MoveRating.Date.Text
import MoveRating.Decimal.Basic
import MoveRating.Decimal.Binary64
import MoveRating.Decimal.Rounding
import MoveRating.Decimal.Text
import MoveRating.Discount
import MoveRating.EffectiveRange
import MoveRating.Json.Number
import MoveRating.Json.Quoted
import MoveRating.Json.Record
import MoveRating.Json.Scalar
import MoveRating.Json.Skip
import MoveRating.Json.Symbol
import MoveRating.Numeral
import MoveRating.Pricing.Estimate
import MoveRating.Pricing.Linehaul
import MoveRating.Pricing.Route
import MoveRating.Pricing.Storage
import MoveRating.RatingError
import MoveRating.Reimbursement
import MoveRating.Service.ApiError
import MoveRating.Service.Estimates
import MoveRating.Service.MediaType
import MoveRating.Service.Message
import MoveRating.Table
import MoveRating.Tariff.Basic
import MoveRating.Tariff.Check
import MoveRating.Tariff.Directory
import MoveRating.Tariff.Row
import MoveRating.Tariff.Selection
import MoveRating.Tariff.Shipped
import MoveRating.Text.Printable
import MoveRating.Text.Quoted
import MoveRating.Units
import MoveRating.Wire.Estimates
import MoveRating.Wire.Fault
import MoveRating.Wire.Gathered
import MoveRating.Wire.Rows
import MoveRating.Wire.Shape
import MoveRating.Wire.Units
import MoveRating.Word
import MoveRating.Yaml.Block
import MoveRating.Yaml.Cursor
import MoveRating.Yaml.Document
import MoveRating.Yaml.Event
import MoveRating.Yaml.Folded
import MoveRating.Yaml.Layout
import MoveRating.Yaml.Record
import MoveRating.Yaml.Resolved
import MoveRating.Yaml.Token
import MoveRating.Yaml.Word
import MoveRating.Proofs.Amount
import MoveRating.Proofs.Outcome
import MoveRating.Proofs.Reckoning
import MoveRating.Proofs.Discount
import MoveRating.Proofs.ExactPricing
import MoveRating.Proofs.Rating
import MoveRating.Proofs.Loading
import MoveRating.Proofs.Operation
import MoveRating.Proofs.Resolution
import MoveRating.Proofs.Answering
import MoveRating.Proofs.Bounds
import MoveRating.Proofs.Deviation
import MoveRating.Proofs.NetTotal
import MoveRating.Proofs.Request
import MoveRating.Proofs.Status
import MoveRating.Proofs.DateText
import MoveRating.Proofs.DecimalText
import MoveRating.Proofs.Json.Scalars
import MoveRating.Proofs.Json.Records
import MoveRating.Proofs.Json.Texts
import MoveRating.Proofs.Json.Estimates
import MoveRating.Proofs.Json.RoundTrip
import MoveRating.Proofs.Agreement
import MoveRating.Proofs.Json.Faults
import MoveRating.Proofs.Json.Absence
import MoveRating.Proofs.Rejection
import MoveRating.Proofs.Contents
import MoveRating.Proofs.Comparison
import MoveRating.Proofs.Growth
import MoveRating.Proofs.Acceptance
import MoveRating.Proofs.Reordering
import MoveRating.Proofs.Storage
import MoveRating.Proofs.Influence
import MoveRating.Proofs.Lifecycle
import MoveRating.Proofs.Recorded
import MoveRating.Proofs.NetRounding
import MoveRating.Proofs.NetOrder
import MoveRating.Proofs.RouteDiscount
import MoveRating.Proofs.InEffect
import MoveRating.Proofs.StorageByDay
import MoveRating.Proofs.Brackets
import MoveRating.Proofs.RateSources
import MoveRating.Proofs.Normal
import MoveRating.Proofs.Expansion
import MoveRating.Proofs.Percentage
import MoveRating.Proofs.SharedDays
import MoveRating.Proofs.RunningTotal
import MoveRating.Proofs.AmountText
