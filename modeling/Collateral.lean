import Collateral.Decimal.Arithmetic
import Collateral.Binary.Decimal
import Collateral.Calendar.Text
import Collateral.Margin
import Collateral.Deposit.Model
import Collateral.Health
import Collateral.Realization
import Collateral.Projection.Walk
import Collateral.Desk.Monitor
import Collateral.Settings.Document
import Collateral.Document.Schedule
import Collateral.Document.Catalog
import Collateral.Proofs.Timeline
import Collateral.Proofs.ReachedHealth
import Collateral.Proofs.WrittenSchedule
import Collateral.Proofs.NetValue
import Collateral.Proofs.Reported
import Collateral.Proofs.Solvable
import Collateral.Proofs.Extremes
import Collateral.Proofs.RateHistory
import Collateral.Proofs.BinaryNumber
import Collateral.Proofs.AlertHistory
import Collateral.Proofs.CheckedSettings
import Collateral.Proofs.StoredSchedules
import Collateral.Proofs.MissingData
import Collateral.Proofs.Separation
import Collateral.Proofs.UsableSettings
import Collateral.Proofs.Stopping
import Collateral.Proofs.EntryOrder
import Collateral.Proofs.CheapestCover
import Collateral.Proofs.Assignment
import Collateral.Proofs.DomesticCash
import Collateral.Proofs.TargetOrder
import Collateral.Proofs.ExactWalk
import Collateral.Proofs.Convergence
import Collateral.Proofs.CursorHistory
import Collateral.Proofs.FundedMargin
import Collateral.Proofs.Realized
import Collateral.Proofs.SplitLots
import Collateral.Proofs.RoundTrip
import Collateral.Proofs.Balances
import Collateral.Proofs.CountedCash
import Collateral.Proofs.MissingPaths
import Collateral.Proofs.AccountOrder
import Collateral.Proofs.FlatBalances
import Collateral.Proofs.ScoreAndHealth
import Collateral.Proofs.WrittenHedge
import Collateral.Proofs.NettingWalk
import Collateral.Proofs.BracketHistory
