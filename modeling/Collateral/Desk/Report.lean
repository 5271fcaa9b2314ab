import Collateral.Account
import Collateral.Calendar.Text
import Collateral.Health
import Collateral.Projection.Snapshot

/-!
Contract: what a desk reports about a company.

Owns: the detail of one date, the recommendation of deposits, the health report, and the readings
taken from them.

Does not own: how their figures are computed.
-/

namespace Collateral

/-- The margin requirement and the excess liquidity of a company on a date. -/
structure Detail where
  company : CompanyId
  date : Date
  margin : Figure
  excess : Figure
deriving DecidableEq, Repr, Inhabited

namespace Detail

/-- The detail of a company that has nothing to margin. -/
def empty (company : CompanyId) (date : Date) : Detail :=
  ⟨company, date, 0, 0⟩

def toText (detail : Detail) : String :=
  "[date: " ++ detail.date.toText ++ ", margin: " ++ detail.margin.toText
    ++ ", excess: " ++ detail.excess.toText ++ "]"

/-- The health of a detail, whose margin stands for both requirements. -/
def health [Rounding] (detail : Detail) : Except Failure Health :=
  Health.ofFigures detail.excess detail.margin detail.margin

end Detail

/-- The cash that brings the worst projected date to the minimum and to the recommended target;
below zero it is what may be taken out. -/
structure Recommendation where
  minimum : Decimal := 0
  recommended : Decimal := 0
deriving DecidableEq, Repr, Inhabited

/-- Everything that a health check finds out about a company: the margin of the day, the
recommended cash, and the projections without further cash, with the pending cash, and with the
cash that is meant to be there in the end. -/
structure Report where
  detail : Detail
  recommendation : Recommendation
  pendingCash : Decimal
  multiplier : Decimal
  baseline : List Snapshot
  pending : List Snapshot
  theoretical : List Snapshot
deriving DecidableEq, Repr

namespace Report

/-- What has to be paid in to reach the minimum target. -/
def minimumDeposit (report : Report) : Decimal :=
  max report.recommendation.minimum 0

/-- What may be taken out while keeping the minimum target, as a number not above zero. -/
def maximumWithdrawal (report : Report) : Decimal :=
  min report.recommendation.minimum 0

/-- What should be paid in to reach the recommended target. -/
def recommendedDeposit (report : Report) : Decimal :=
  max report.recommendation.recommended 0

/-- What may be taken out while keeping the recommended target, as a number not above zero. -/
def recommendedWithdrawal (report : Report) : Decimal :=
  min report.recommendation.recommended 0

variable [Rounding]

/-- The first pending snapshot with the least score. -/
def worst? (report : Report) : Except Decimal.Error (Option Snapshot) :=
  Snapshot.worst? report.multiplier report.pending

/-- The last pending snapshot with the greatest score. -/
def best? (report : Report) : Except Decimal.Error (Option Snapshot) :=
  Snapshot.best? report.multiplier report.pending

end Report

end Collateral
