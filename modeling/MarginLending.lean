import MarginLending.Arith.Checked
import MarginLending.Arith.Descriptor
import MarginLending.Arith.IntType
import MarginLending.Arith.Operand
import MarginLending.Arith.Power
import MarginLending.Contract.Catalog
import MarginLending.Contract.Schema
import MarginLending.Data.Binary
import MarginLending.Data.Dynamic
import MarginLending.Data.Hex
import MarginLending.Data.Json
import MarginLending.Data.Number
import MarginLending.Data.Order
import MarginLending.Data.Quoted
import MarginLending.Data.Shortest
import MarginLending.Data.Value
import MarginLending.Failure
import MarginLending.Lending.Balance
import MarginLending.Lending.Exposure
import MarginLending.Lending.Interest
import MarginLending.Lending.Twap
import MarginLending.Oracle.Feed
import MarginLending.Oracle.Status
import MarginLending.Oracle.Twap
import MarginLending.Oracle.Validity
import MarginLending.Pricing.LimitPrice
import MarginLending.Pricing.Standardize
import MarginLending.Proofs.Balance
import MarginLending.Proofs.Checked
import MarginLending.Service.Answer
import MarginLending.Service.Arith
import MarginLending.Service.Contract
import MarginLending.Service.Feed
import MarginLending.Service.Lending
import MarginLending.Service.Oracle
import MarginLending.Service.Position
import MarginLending.Service.Pricing
import MarginLending.Service.Request
import MarginLending.Service.Sequence
import MarginLending.Service.Snapshot
import MarginLending.Service.Wide
import MarginLending.Snapshot.Field
import MarginLending.Snapshot.GuardRails
import MarginLending.Snapshot.Issue
import MarginLending.Snapshot.Market
import MarginLending.Snapshot.Oracle
import MarginLending.Snapshot.Position
import MarginLending.Text.Digit
import MarginLending.Text.Printable
import MarginLending.Wide.Basic
import MarginLending.Wide.Bytes
import MarginLending.Wide.Width
import MarginLending.Proofs.Accrual
import MarginLending.Proofs.MarketRun
import MarginLending.Proofs.FillGate
import MarginLending.Proofs.WideCodec
import MarginLending.Proofs.OracleHistory
import MarginLending.Proofs.MarketSnapshot
import MarginLending.Proofs.RateCurve
import MarginLending.Proofs.TwapRange
import MarginLending.Proofs.TwapBand
import MarginLending.Proofs.Classification
import MarginLending.Proofs.TickRounding
import MarginLending.Proofs.StepRounding
import MarginLending.Proofs.LimitResolution
import MarginLending.Proofs.AccrualTime
import MarginLending.Proofs.StrictValue
import MarginLending.Proofs.AccrualDivisors
import MarginLending.Proofs.StaleTwap
import MarginLending.Proofs.FeedScaling
import MarginLending.Proofs.WideArithmetic
import MarginLending.Proofs.IntegerText
