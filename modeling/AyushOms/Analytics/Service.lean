import AyushOms.Core.Timezone
import AyushOms.Lib.Counters
import AyushOms.Orders.Model
import Mathlib.Data.String.Basic

/-!
# Dashboard Figures

`app.services.analytics_service`, as far as it reads orders: the date range and the one it is
compared with, the summary's figures of orders, the two timeseries and the breakdown by payment
status. Amounts are exact. A sum leaves the precision of a `Decimal` only beyond 26 digits before
the point, and the percentages are left as they are before they become floats.

The figures that the summary counts in other tables are left out.
-/

namespace AyushOms

def PaymentType.value : PaymentType → String
  | cod => "cod"
  | prepaid => "prepaid"
  | other => "other"

namespace Analytics

open AyushOms.Lib AyushOms.Orders

/-! ## Section 1: Date ranges -/

/-- `DateRange`: both ends belong to it. -/
structure DateRange where
  dateFrom : ℤ
  dateTo : ℤ
  deriving DecidableEq, Repr

/-- `DEFAULT_WINDOW_DAYS`. -/
def defaultWindowDays : ℤ := 30

/-- `resolve_range`. -/
def resolveRange (dateFrom dateTo : Option Instant) (now : Instant) :
    Except PyException DateRange := do
  let dateTo := dateTo.getD now
  let dateFrom ← match dateFrom with
    | some dateFrom => pure dateFrom
    | none => checkedInstant (dateTo - defaultWindowDays * microsecondsPerDay)
  return ⟨dateFrom, dateTo⟩

/-- `_previous_range`. -/
def previousRange (current : DateRange) : Except PyException DateRange := do
  let span := current.dateTo - current.dateFrom
  return ⟨← checkedInstant (current.dateFrom - span), current.dateFrom⟩

theorem previousRange_returns_iff (r : DateRange) : (∃ previous, previousRange r = .ok previous) ↔
    Representable (r.dateFrom - (r.dateTo - r.dateFrom)) := by
  constructor
  · intro h
    obtain ⟨previous, hprevious⟩ := h
    obtain ⟨start, hstart, -⟩ := bind_eq_ok.mp hprevious
    exact (checkedInstant_eq_ok.mp hstart).1
  · intro h
    exact ⟨_, bind_eq_ok.mpr ⟨_, checkedInstant_of h, rfl⟩⟩

/-- The condition `order_datetime >= date_from AND order_datetime <= date_to`. -/
def DateRange.Holds (r : DateRange) (t : ℤ) : Prop := r.dateFrom ≤ t ∧ t ≤ r.dateTo

instance (r : DateRange) (t : ℤ) : Decidable (r.Holds t) :=
  inferInstanceAs (Decidable (_ ∧ _))

/-- The orders a range selects, with their `order_datetime`. -/
def ordersIn (orders : List Order) (r : DateRange) : List (Instant × Order) :=
  orders.filterMap fun order =>
    match order.orderDatetime with
    | some t => if r.Holds t then some (t, order) else none
    | none => none

/-- The orders of a range. -/
def selected (orders : List Order) (r : DateRange) : List Order := (ordersIn orders r).map Prod.snd

/-! ## Section 2: The summary -/

/-- `KPIValue`. -/
structure KPIValue where
  current : ℚ
  previous : ℚ
  changePct : Option ℚ
  deriving DecidableEq

/-- `_change_pct`. -/
def changePct (current previous : ℚ) : Option ℚ :=
  if previous = 0 then none
  else some (pyDecimal (pyDecimal (pyDecimal (current - previous) / previous) * 100))

/-- `_kpi`. -/
def kpi (current previous : ℚ) : KPIValue := ⟨current, previous, changePct current previous⟩

/-- `count(case((condition, 1)))`. -/
def countIf (condition : Order → Bool) (rows : List (Instant × Order)) : ℚ :=
  rows.countP fun row => condition row.2

/-- `coalesce(sum(case((condition, total_amount))), 0)`. -/
def sumIf (condition : Order → Bool) (rows : List (Instant × Order)) : ℚ :=
  ((rows.filter fun row => condition row.2).map fun row => row.2.totalAmount).sum

/-- The figures of orders in `_summary_counts`. -/
structure SummaryCounts where
  totalOrders : ℚ
  totalRevenue : ℚ
  fulfilledOrders : ℚ
  unfulfilledOrders : ℚ
  codOrders : ℚ
  prepaidOrders : ℚ
  pendingOrders : ℚ
  codValue : ℚ
  prepaidValue : ℚ
  deriving DecidableEq

/-- `_summary_counts`. -/
def summaryCounts (orders : List Order) (r : DateRange) : SummaryCounts :=
  let rows := ordersIn orders r
  { totalOrders := rows.length
    totalRevenue := (rows.map fun row => row.2.totalAmount).sum
    fulfilledOrders := countIf (fun order => order.fulfillmentStatus = .fulfilled) rows
    unfulfilledOrders := countIf (fun order => order.fulfillmentStatus = .unfulfilled) rows
    codOrders := countIf (fun order => order.paymentType = .cod) rows
    prepaidOrders := countIf (fun order => order.paymentType = .prepaid) rows
    pendingOrders := countIf (fun order => order.status = .pending) rows
    codValue := sumIf (fun order => order.paymentType = .cod) rows
    prepaidValue := sumIf (fun order => order.paymentType = .prepaid) rows }

/-- `AnalyticsSummaryResponse`. -/
structure AnalyticsSummary where
  dateFrom : Instant
  dateTo : Instant
  totalOrders : KPIValue
  totalRevenue : KPIValue
  fulfilledOrders : KPIValue
  unfulfilledOrders : KPIValue
  codOrders : KPIValue
  prepaidOrders : KPIValue
  pendingOrders : KPIValue
  codValue : KPIValue
  prepaidValue : KPIValue
  deriving DecidableEq

/-- `get_summary`. -/
def getSummary (orders : List Order) (dateFrom dateTo : Option Instant) (now : Instant) :
    Except PyException AnalyticsSummary := do
  let current ← resolveRange dateFrom dateTo now
  let previous ← previousRange current
  let currentCounts := summaryCounts orders current
  let previousCounts := summaryCounts orders previous
  let kpiOf (key : SummaryCounts → ℚ) := kpi (key currentCounts) (key previousCounts)
  return {
    dateFrom := current.dateFrom
    dateTo := current.dateTo
    totalOrders := kpiOf (·.totalOrders)
    totalRevenue := kpiOf (·.totalRevenue)
    fulfilledOrders := kpiOf (·.fulfilledOrders)
    unfulfilledOrders := kpiOf (·.unfulfilledOrders)
    codOrders := kpiOf (·.codOrders)
    prepaidOrders := kpiOf (·.prepaidOrders)
    pendingOrders := kpiOf (·.pendingOrders)
    codValue := kpiOf (·.codValue)
    prepaidValue := kpiOf (·.prepaidValue) }

/-! ## Section 3: Timeseries -/

/-- `_bucket_key`. -/
def bucketKey (value : Instant) (interval : String) : Except PyException String := do
  let istValue ← toIst value
  let date := utcDate istValue
  if interval = "hour" then
    let hour := (istValue - utcMidnight date) / 3600000000
    return toString date.year ++ "-" ++ zeroPadded 2 date.month ++ "-" ++
      zeroPadded 2 date.day ++ "T" ++ zeroPadded 2 hour ++ ":00"
  else if interval = "week" then
    let startOfWeek ← date.addDays (-date.weekday)
    return startOfWeek.isoformat
  else if interval = "month" then
    let first ← pyDate date.year date.month 1
    return first.isoformat
  else return date.isoformat

/-- The rows, each with the key of its bucket. -/
def keyedRows (rows : List (Instant × Order)) (interval : String) :
    Except PyException (List (String × Order)) :=
  rows.mapM fun row => do
    return (← bucketKey row.1 interval, row.2)

/-- `TimeseriesPoint`. -/
structure TimeseriesPoint where
  bucket : String
  orderCount : ℕ
  revenue : ℚ
  deriving DecidableEq

/-- `OrdersTimeseriesResponse`. -/
structure OrdersTimeseries where
  interval : String
  points : List TimeseriesPoint
  deriving DecidableEq

/-- The amounts of each bucket. -/
def amountBuckets (rows : List (String × Order)) : Counters String (List ℚ) :=
  Counters.countBy [] Prod.fst (fun amounts row => amounts ++ [row.2.totalAmount]) rows

/-- `get_orders_timeseries`. -/
def getOrdersTimeseries (orders : List Order) (dateFrom dateTo : Option Instant) (now : Instant)
    (interval : String) : Except PyException OrdersTimeseries := do
  let r ← resolveRange dateFrom dateTo now
  let rows ← keyedRows (ordersIn orders r) interval
  return ⟨interval, (amountBuckets rows).items.map fun item =>
    ⟨item.1, item.2.length, item.2.sum⟩⟩

/-- A bucket of the revenue timeseries. -/
structure RevenueBucket where
  codOrders : ℕ := 0
  codRevenue : ℚ := 0
  prepaidOrders : ℕ := 0
  prepaidRevenue : ℚ := 0
  deriving DecidableEq

/-- What an order adds to its bucket. -/
def RevenueBucket.add (bucket : RevenueBucket) (order : Order) : RevenueBucket :=
  if order.paymentType = .cod then
    { bucket with
      codOrders := bucket.codOrders + 1
      codRevenue := bucket.codRevenue + order.totalAmount }
  else if order.paymentType = .prepaid then
    { bucket with
      prepaidOrders := bucket.prepaidOrders + 1
      prepaidRevenue := bucket.prepaidRevenue + order.totalAmount }
  else bucket

/-- `RevenueTimeseriesPoint`. -/
structure RevenuePoint where
  bucket : String
  codOrders : ℕ
  codRevenue : ℚ
  prepaidOrders : ℕ
  prepaidRevenue : ℚ
  totalOrders : ℕ
  totalRevenue : ℚ
  deriving DecidableEq

/-- The point of a bucket. -/
def RevenueBucket.point (key : String) (b : RevenueBucket) : RevenuePoint where
  bucket := key
  codOrders := b.codOrders
  codRevenue := b.codRevenue
  prepaidOrders := b.prepaidOrders
  prepaidRevenue := b.prepaidRevenue
  totalOrders := b.codOrders + b.prepaidOrders
  totalRevenue := b.codRevenue + b.prepaidRevenue

/-- `RevenueTimeseriesResponse`. -/
structure RevenueTimeseries where
  interval : String
  points : List RevenuePoint
  deriving DecidableEq

/-- The figures of each bucket. -/
def revenueBuckets (rows : List (String × Order)) : Counters String RevenueBucket :=
  Counters.countBy {} Prod.fst (fun bucket row => bucket.add row.2) rows

/-- `get_revenue_timeseries`. -/
def getRevenueTimeseries (orders : List Order) (dateFrom dateTo : Option Instant) (now : Instant)
    (interval : String) : Except PyException RevenueTimeseries := do
  let r ← resolveRange dateFrom dateTo now
  let rows ← keyedRows (ordersIn orders r) interval
  return ⟨interval, (revenueBuckets rows).items.map fun item => item.2.point item.1⟩

/-! ## Section 4: The breakdown by payment status -/

/-- `PaymentStatusBreakdownItem`. -/
structure PaymentStatusItem where
  status : String
  count : ℕ
  revenue : ℚ
  deriving DecidableEq

/-- `PaymentStatusBreakdownResponse`. -/
structure PaymentStatusBreakdown where
  paymentType : Option String
  totalCount : ℕ
  totalRevenue : ℚ
  paidCount : ℕ
  paidRevenue : ℚ
  pendingCount : ℤ
  pendingRevenue : ℚ
  items : List PaymentStatusItem
  deriving DecidableEq

/-- The count and the sum of each payment status; the database may give them in any order. -/
def statusGroups (rows : List (Instant × Order)) : Counters PaymentStatus (ℕ × ℚ) :=
  Counters.countBy (0, 0) (fun row => row.2.paymentStatus)
    (fun group row => (group.1 + 1, group.2 + row.2.totalAmount)) rows

/-- The condition on `payment_type`, if there is one. -/
def hasType (paymentType : Option PaymentType) (order : Order) : Bool :=
  match paymentType with
  | some paymentType => order.paymentType = paymentType
  | none => true

/-- `get_payment_status_breakdown`. -/
def getPaymentStatusBreakdown (orders : List Order) (dateFrom dateTo : Option Instant)
    (now : Instant) (paymentType : Option PaymentType) :
    Except PyException PaymentStatusBreakdown := do
  let r ← resolveRange dateFrom dateTo now
  let rows := (ordersIn orders r).filter fun row => hasType paymentType row.2
  let items := (statusGroups rows).map fun group =>
    PaymentStatusItem.mk group.1.value group.2.1 group.2.2
  let paid := items.find? fun item => item.status = PaymentStatus.paid.value
  let paidCount := (paid.map (·.count)).getD 0
  let paidRevenue := (paid.map (·.revenue)).getD 0
  let totalCount := (items.map (·.count)).sum
  let totalRevenue := (items.map (·.revenue)).sum
  return {
    paymentType := paymentType.map PaymentType.value
    totalCount := totalCount
    totalRevenue := totalRevenue
    paidCount := paidCount
    paidRevenue := paidRevenue
    pendingCount := totalCount - paidCount
    pendingRevenue := totalRevenue - paidRevenue
    items := items }

end Analytics

end AyushOms
