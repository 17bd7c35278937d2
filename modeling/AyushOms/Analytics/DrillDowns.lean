import AyushOms.Analytics.Service
import Mathlib.Tactic.Ring

/-!
# The Drill-downs of Revenue

Four queries add up the orders of a date range: the two timeseries, the breakdown by payment
status and the summary. Three of them count every order. The revenue timeseries counts the
orders paid on delivery and those paid in advance, and leaves out the third payment type.

## Main results

- `sum_orderCount`, `sum_totalOrders`, `totalCount_eq`: what each of them counts
- `drillDowns_agree_iff`: they agree when no order of the range has the third payment type
-/

namespace AyushOms.Analytics

open AyushOms.Lib AyushOms.Orders

/-! ## Section 1: Keys -/

/-- A timestamp has a key where its date in India can be held, in every interval. -/
theorem bucketKey_returns_iff (t : Instant) (interval : String) :
    (∃ key, bucketKey t interval = .ok key) ↔ ∃ ist, toIst t = .ok ist := by
  constructor
  · intro h
    obtain ⟨key, hkey⟩ := h
    unfold bucketKey at hkey
    obtain ⟨ist, hist, -⟩ := bind_eq_ok.mp hkey
    exact ⟨ist, hist⟩
  · intro h
    obtain ⟨ist, hist⟩ := h
    obtain ⟨hrep, hshifted, rfl⟩ := toIst_eq_ok.mp hist
    have hdate : (utcDate (t + istOffset)).Representable := by
      rw [utcDate_add_istOffset]
      exact (toIst_returns_iff hrep).mp hist
    have hbounds := (Date.representable_iff _).mp hdate
    unfold bucketKey
    rw [hist]
    show ∃ key, (if interval = "hour" then _ else _) = _
    by_cases hhour : interval = "hour"
    · rw [if_pos hhour]
      exact ⟨_, rfl⟩
    rw [if_neg hhour]
    by_cases hweek : interval = "week"
    · rw [if_pos hweek]
      have hweekday : (utcDate (t + istOffset)).weekday =
        ((utcDate (t + istOffset)).ordinal + 6) % 7 := rfl
      obtain ⟨monday, hmonday, -, -⟩ := exists_addDays
        (show 1 ≤ (utcDate (t + istOffset)).ordinal + -(utcDate (t + istOffset)).weekday by
          omega) (by omega)
      rw [hmonday]
      exact ⟨_, rfl⟩
    rw [if_neg hweek]
    by_cases hmonth : interval = "month"
    · rw [if_pos hmonth]
      obtain ⟨first, hfirst, -, -⟩ := exists_firstOfMonth hdate
      rw [hfirst]
      exact ⟨_, rfl⟩
    rw [if_neg hmonth]
    exact ⟨_, rfl⟩

variable {rows : List (Instant × Order)} {interval : String}

/-- Every order of the rows has a date in India. -/
def Dated (rows : List (Instant × Order)) : Prop := ∀ row ∈ rows, ∃ ist, toIst row.1 = .ok ist

variable (interval) in
theorem keyedRows_returns_iff : (∃ keyed, keyedRows rows interval = .ok keyed) ↔ Dated rows := by
  constructor
  · intro h row hmem
    obtain ⟨keyed, hkeyed⟩ := h
    unfold keyedRows at hkeyed
    have hall := forall₂_of_mapM_eq_ok hkeyed
    obtain ⟨i, hi, rfl⟩ := List.getElem_of_mem hmem
    have hread := List.Forall₂.get hall hi (by rw [← hall.length_eq]; exact hi)
    obtain ⟨key, hkey, -⟩ := bind_eq_ok.mp hread
    exact (bucketKey_returns_iff _ interval).mp ⟨key, hkey⟩
  · intro h
    refine exists_mapM_eq_ok fun row hmem => ?_
    obtain ⟨key, hkey⟩ := (bucketKey_returns_iff row.1 interval).mpr (h row hmem)
    exact ⟨(key, row.2), by rw [hkey]; rfl⟩

/-- The keys are put beside the orders, and change none. -/
theorem orders_of_keyedRows {keyed : List (String × Order)}
    (h : keyedRows rows interval = .ok keyed) : keyed.map Prod.snd = rows.map Prod.snd := by
  unfold keyedRows at h
  have hall := forall₂_of_mapM_eq_ok h
  clear h
  induction hall with
  | nil => rfl
  | cons hread _ ih =>
    obtain ⟨key, -, hpair⟩ := bind_eq_ok.mp hread
    rw [List.map_cons, List.map_cons, ih, ← pure_eq_ok.mp hpair]

/-! ## Section 2: What each query adds up -/

/-- The orders of one payment type. -/
def OfType (paymentType : PaymentType) (order : Order) : Bool := order.paymentType = paymentType

/-- The amounts of the rows of one payment type. -/
def amountOf (paymentType : PaymentType) (orders : List Order) : ℚ :=
  ((orders.filter (OfType paymentType)).map (·.totalAmount)).sum

/-- The orders timeseries counts every order. -/
theorem sum_orderCount (keyed : List (String × Order)) :
    ((amountBuckets keyed).map fun item => item.2.length).sum = keyed.length := by
  unfold amountBuckets
  rw [Counters.sum_countBy (f := List.length) (g := fun _ => 1) rfl (by simp)]
  simp

theorem sum_revenue (keyed : List (String × Order)) :
    ((amountBuckets keyed).map fun item => item.2.sum).sum =
      ((keyed.map Prod.snd).map (·.totalAmount)).sum := by
  unfold amountBuckets
  rw [Counters.sum_countBy (f := List.sum) (g := fun row => row.2.totalAmount) rfl (by simp),
    List.map_map]
  rfl

/-- The breakdown counts every order. -/
theorem sum_count (rows : List (Instant × Order)) :
    ((statusGroups rows).map fun group => group.2.1).sum = rows.length := by
  unfold statusGroups
  rw [Counters.sum_countBy (f := Prod.fst) (g := fun _ => 1) rfl (fun _ _ => rfl)]
  simp

theorem sum_groupRevenue (rows : List (Instant × Order)) :
    ((statusGroups rows).map fun group => group.2.2).sum =
      ((rows.map Prod.snd).map (·.totalAmount)).sum := by
  unfold statusGroups
  rw [Counters.sum_countBy (f := Prod.snd) (g := fun row => row.2.totalAmount) rfl
    (fun _ _ => rfl), List.map_map]
  rfl

/-- The revenue timeseries counts the orders of two payment types. -/
theorem sum_totalOrders (keyed : List (String × Order)) :
    ((revenueBuckets keyed).map fun item => item.2.codOrders + item.2.prepaidOrders).sum =
      (keyed.map Prod.snd).countP (OfType .cod) +
        (keyed.map Prod.snd).countP (OfType .prepaid) := by
  unfold revenueBuckets
  rw [Counters.sum_countBy (f := fun b : RevenueBucket => b.codOrders + b.prepaidOrders)
    (g := fun row => (if OfType .cod row.2 then 1 else 0) + if OfType .prepaid row.2 then 1 else 0)
    rfl ?_]
  · induction keyed with
    | nil => rfl
    | cons row keyed ih =>
      rw [List.map_cons, List.sum_cons, ih, List.map_cons, List.countP_cons, List.countP_cons]
      omega
  · intro b row
    cases htype : row.2.paymentType with
    | cod => simp [RevenueBucket.add, OfType, htype]; omega
    | prepaid => simp [RevenueBucket.add, OfType, htype]; omega
    | other => simp [RevenueBucket.add, OfType, htype]

theorem sum_totalRevenue (keyed : List (String × Order)) :
    ((revenueBuckets keyed).map fun item => item.2.codRevenue + item.2.prepaidRevenue).sum =
      amountOf .cod (keyed.map Prod.snd) + amountOf .prepaid (keyed.map Prod.snd) := by
  unfold revenueBuckets
  rw [Counters.sum_countBy (f := fun b : RevenueBucket => b.codRevenue + b.prepaidRevenue)
    (g := fun row => (if OfType .cod row.2 then row.2.totalAmount else 0) +
      if OfType .prepaid row.2 then row.2.totalAmount else 0) (add_zero 0) ?_]
  · induction keyed with
    | nil => simp [amountOf]
    | cons row keyed ih =>
      rw [List.map_cons, List.sum_cons, ih]
      cases htype : row.2.paymentType with
      | cod => simp [amountOf, OfType, htype]; ring
      | prepaid => simp [amountOf, OfType, htype]; ring
      | other => simp [amountOf, OfType, htype]
  · intro b row
    cases htype : row.2.paymentType with
    | cod => simp [RevenueBucket.add, OfType, htype]; ring
    | prepaid => simp [RevenueBucket.add, OfType, htype]; ring
    | other => simp [RevenueBucket.add, OfType, htype]

/-- Each order has exactly one of the three payment types. -/
theorem length_eq_ofTypes (orders : List Order) : orders.length =
    orders.countP (OfType .cod) + orders.countP (OfType .prepaid) +
      orders.countP (OfType .other) := by
  induction orders with
  | nil => rfl
  | cons order orders ih =>
    rw [List.length_cons, List.countP_cons, List.countP_cons, List.countP_cons]
    cases htype : order.paymentType <;> simp [OfType, htype] <;> omega

theorem sum_eq_ofTypes (orders : List Order) : (orders.map (·.totalAmount)).sum =
    amountOf .cod orders + amountOf .prepaid orders + amountOf .other orders := by
  induction orders with
  | nil => simp [amountOf]
  | cons order orders ih =>
    rw [List.map_cons, List.sum_cons, ih]
    cases htype : order.paymentType <;> simp [amountOf, OfType, htype] <;> ring

theorem amountOf_other_of_none {orders : List Order} (h : orders.countP (OfType .other) = 0) :
    amountOf .other orders = 0 := by
  have hnone : orders.filter (OfType .other) = [] := by
    rw [List.filter_eq_nil_iff]
    exact List.countP_eq_zero.mp h
  unfold amountOf
  rw [hnone]
  rfl

/-! ## Section 3: The four queries over one range -/

section Queries

variable {orders : List Order} {r : DateRange} (now : Instant) (interval : String)

theorem getOrdersTimeseries_returns (h : Dated (ordersIn orders r)) :
    ∃ series, getOrdersTimeseries orders (some r.dateFrom) (some r.dateTo) now interval =
        .ok series ∧
      (series.points.map (·.orderCount)).sum = (selected orders r).length ∧
      (series.points.map (·.revenue)).sum = ((selected orders r).map (·.totalAmount)).sum := by
  obtain ⟨keyed, hkeyed⟩ := (keyedRows_returns_iff interval).mpr h
  have horders : keyed.map Prod.snd = selected orders r := orders_of_keyedRows hkeyed
  refine ⟨_, bind_eq_ok.mpr ⟨r, rfl, bind_eq_ok.mpr ⟨keyed, hkeyed, rfl⟩⟩, ?_, ?_⟩
  · rw [List.map_map, Counters.sum_items, ← horders, List.length_map]
    exact sum_orderCount keyed
  · rw [List.map_map, Counters.sum_items, ← horders]
    exact sum_revenue keyed

theorem getRevenueTimeseries_returns (h : Dated (ordersIn orders r)) :
    ∃ revenue, getRevenueTimeseries orders (some r.dateFrom) (some r.dateTo) now interval =
        .ok revenue ∧
      (revenue.points.map (·.totalOrders)).sum =
        (selected orders r).countP (OfType .cod) + (selected orders r).countP (OfType .prepaid) ∧
      (revenue.points.map (·.totalRevenue)).sum =
        amountOf .cod (selected orders r) + amountOf .prepaid (selected orders r) ∧
      ∀ p ∈ revenue.points, p.codOrders + p.prepaidOrders = p.totalOrders ∧
        p.codRevenue + p.prepaidRevenue = p.totalRevenue := by
  obtain ⟨keyed, hkeyed⟩ := (keyedRows_returns_iff interval).mpr h
  have horders : keyed.map Prod.snd = selected orders r := orders_of_keyedRows hkeyed
  refine ⟨_, bind_eq_ok.mpr ⟨r, rfl, bind_eq_ok.mpr ⟨keyed, hkeyed, rfl⟩⟩, ?_, ?_, ?_⟩
  · rw [List.map_map, Counters.sum_items, ← horders]
    exact sum_totalOrders keyed
  · rw [List.map_map, Counters.sum_items, ← horders]
    exact sum_totalRevenue keyed
  · intro p hp
    obtain ⟨item, -, rfl⟩ := List.mem_map.mp hp
    exact ⟨rfl, rfl⟩

theorem dated_of_getOrdersTimeseries {series : OrdersTimeseries}
    (h : getOrdersTimeseries orders (some r.dateFrom) (some r.dateTo) now interval =
      .ok series) : Dated (ordersIn orders r) := by
  obtain ⟨r', hr, hrest⟩ := bind_eq_ok.mp h
  cases Except.ok.inj hr
  obtain ⟨keyed, hkeyed, -⟩ := bind_eq_ok.mp hrest
  exact (keyedRows_returns_iff interval).mp ⟨keyed, hkeyed⟩

variable (orders r) in
/-- The breakdown counts the orders of its payment type, or all of them. -/
theorem getPaymentStatusBreakdown_returns (paymentType : Option PaymentType) :
    ∃ breakdown, getPaymentStatusBreakdown orders (some r.dateFrom) (some r.dateTo) now
        paymentType = .ok breakdown ∧
      breakdown.totalCount = ((selected orders r).filter (hasType paymentType)).length ∧
      breakdown.totalRevenue =
        (((selected orders r).filter (hasType paymentType)).map (·.totalAmount)).sum := by
  have hrows : ((ordersIn orders r).filter fun row => hasType paymentType row.2).map Prod.snd =
      (selected orders r).filter (hasType paymentType) := by
    unfold selected
    rw [List.filter_map]
    rfl
  refine ⟨_, bind_eq_ok.mpr ⟨r, rfl, rfl⟩, ?_, ?_⟩
  · show (List.map PaymentStatusItem.count (List.map _ (statusGroups _))).sum = _
    rw [List.map_map, ← hrows, List.length_map]
    exact sum_count _
  · show (List.map PaymentStatusItem.revenue (List.map _ (statusGroups _))).sum = _
    rw [List.map_map, ← hrows]
    exact sum_groupRevenue _

variable {now} in
theorem getSummary_eq_ok {summary : AnalyticsSummary} :
    getSummary orders (some r.dateFrom) (some r.dateTo) now = .ok summary →
      summary.totalOrders.current = (selected orders r).length ∧
      summary.totalRevenue.current = ((selected orders r).map (·.totalAmount)).sum ∧
      summary.codOrders.current = (selected orders r).countP (OfType .cod) ∧
      summary.prepaidOrders.current = (selected orders r).countP (OfType .prepaid) ∧
      summary.codValue.current = amountOf .cod (selected orders r) ∧
      summary.prepaidValue.current = amountOf .prepaid (selected orders r) := by
  intro h
  obtain ⟨current, hcurrent, hrest⟩ := bind_eq_ok.mp h
  have hr : r = current := Except.ok.inj hcurrent
  subst hr
  obtain ⟨previous, -, hsummary⟩ := bind_eq_ok.mp hrest
  rw [← Except.ok.inj hsummary]
  refine ⟨?_, ?_, ?_, ?_, ?_, ?_⟩
  · simp [kpi, summaryCounts, selected]
  · simp [kpi, summaryCounts, selected]
    rfl
  · simp [kpi, summaryCounts, selected, countIf, List.countP_map]
    rfl
  · simp [kpi, summaryCounts, selected, countIf, List.countP_map]
    rfl
  · simp [kpi, summaryCounts, selected, sumIf, amountOf, List.filter_map]
    rfl
  · simp [kpi, summaryCounts, selected, sumIf, amountOf, List.filter_map]
    rfl

variable {now} in
theorem getSummary_returns_iff :
    (∃ summary, getSummary orders (some r.dateFrom) (some r.dateTo) now = .ok summary) ↔
      ∃ previous, previousRange r = .ok previous := by
  constructor
  · intro h
    obtain ⟨summary, hsummary⟩ := h
    obtain ⟨current, hcurrent, hrest⟩ := bind_eq_ok.mp hsummary
    have hr : r = current := Except.ok.inj hcurrent
    subst hr
    obtain ⟨previous, hprevious, -⟩ := bind_eq_ok.mp hrest
    exact ⟨previous, hprevious⟩
  · intro h
    obtain ⟨previous, hprevious⟩ := h
    exact ⟨_, bind_eq_ok.mpr ⟨r, rfl, bind_eq_ok.mpr ⟨previous, hprevious, rfl⟩⟩⟩

end Queries

/-! ## Section 4: Agreement -/

/-- The answers of the four queries agree, and the two payment types make up every total. The
breakdown is asked for all orders, for those paid on delivery and for those paid in advance. -/
structure Agree (series : OrdersTimeseries) (revenue : RevenueTimeseries)
    (breakdown cod prepaid : PaymentStatusBreakdown) (summary : AnalyticsSummary) : Prop where
  seriesOrders : (((series.points.map (·.orderCount)).sum : ℕ) : ℚ) =
    summary.totalOrders.current
  seriesRevenue : (series.points.map (·.revenue)).sum = summary.totalRevenue.current
  revenueOrders : (((revenue.points.map (·.totalOrders)).sum : ℕ) : ℚ) =
    summary.totalOrders.current
  revenueRevenue : (revenue.points.map (·.totalRevenue)).sum = summary.totalRevenue.current
  breakdownOrders : (breakdown.totalCount : ℚ) = summary.totalOrders.current
  breakdownRevenue : breakdown.totalRevenue = summary.totalRevenue.current
  splitPoints : ∀ p ∈ revenue.points, p.codOrders + p.prepaidOrders = p.totalOrders ∧
    p.codRevenue + p.prepaidRevenue = p.totalRevenue
  splitSummary : summary.codOrders.current + summary.prepaidOrders.current =
    summary.totalOrders.current
  splitValue : summary.codValue.current + summary.prepaidValue.current =
    summary.totalRevenue.current
  splitBreakdown : cod.totalCount + prepaid.totalCount = breakdown.totalCount
  splitBreakdownRevenue : cod.totalRevenue + prepaid.totalRevenue = breakdown.totalRevenue

/-- All queries answer, and their answers agree. -/
def DrillDownsAgree (orders : List Order) (r : DateRange) (now : Instant) (interval : String) :
    Prop :=
  ∃ series revenue breakdown cod prepaid summary,
    getOrdersTimeseries orders (some r.dateFrom) (some r.dateTo) now interval = .ok series ∧
    getRevenueTimeseries orders (some r.dateFrom) (some r.dateTo) now interval = .ok revenue ∧
    getPaymentStatusBreakdown orders (some r.dateFrom) (some r.dateTo) now none =
      .ok breakdown ∧
    getPaymentStatusBreakdown orders (some r.dateFrom) (some r.dateTo) now (some .cod) =
      .ok cod ∧
    getPaymentStatusBreakdown orders (some r.dateFrom) (some r.dateTo) now (some .prepaid) =
      .ok prepaid ∧
    getSummary orders (some r.dateFrom) (some r.dateTo) now = .ok summary ∧
    Agree series revenue breakdown cod prepaid summary

theorem dated_iff (rows : List (Instant × Order)) : Dated rows ↔
    ∀ row ∈ rows, Representable row.1 ∧ Representable (row.1 + istOffset) := by
  refine forall₂_congr fun row _ => ?_
  constructor
  · intro h
    obtain ⟨ist, hist⟩ := h
    obtain ⟨hrep, hshifted, -⟩ := toIst_eq_ok.mp hist
    exact ⟨hrep, hshifted⟩
  · intro h
    exact ⟨_, toIst_eq_ok.mpr ⟨h.1, h.2, rfl⟩⟩

/-- The orders of the third payment type are those neither split has. -/
theorem countP_other_eq_zero_iff (orders : List Order) (r : DateRange) :
    (selected orders r).countP (OfType .other) = 0 ↔
      ∀ row ∈ ordersIn orders r, row.2.paymentType ≠ .other := by
  rw [List.countP_eq_zero]
  unfold selected
  simp only [OfType, List.mem_map, decide_eq_true_eq, ne_eq]
  constructor
  · intro h row hmem
    exact h row.2 ⟨row, hmem, rfl⟩
  · intro h order hmem
    obtain ⟨row, hrow, rfl⟩ := hmem
    exact h row hrow

/-- With every order paid on delivery or in advance, and every reading defined, the drill-downs
agree. -/
theorem drillDownsAgree_of_split {orders : List Order} {r : DateRange} (now : Instant)
    (interval : String) (hzero : (selected orders r).countP (OfType .other) = 0)
    (hdated : Dated (ordersIn orders r)) (hprevious : ∃ previous, previousRange r = .ok previous) :
    DrillDownsAgree orders r now interval := by
  have hlength := length_eq_ofTypes (selected orders r)
  have htotal := sum_eq_ofTypes (selected orders r)
  have hamount := amountOf_other_of_none hzero
  obtain ⟨series, hseries, hseriesOrders, hseriesRevenue⟩ :=
    getOrdersTimeseries_returns now interval hdated
  obtain ⟨revenue, hrevenue, hrevenueOrders, hrevenueRevenue, hpoints⟩ :=
    getRevenueTimeseries_returns now interval hdated
  obtain ⟨breakdown, hbreakdown, hcount, hsum⟩ :=
    getPaymentStatusBreakdown_returns orders r now none
  obtain ⟨cod, hcod, hcodCount, hcodSum⟩ :=
    getPaymentStatusBreakdown_returns orders r now (some .cod)
  obtain ⟨prepaid, hprepaid, hprepaidCount, hprepaidSum⟩ :=
    getPaymentStatusBreakdown_returns orders r now (some .prepaid)
  obtain ⟨summary, hsummary⟩ := getSummary_returns_iff.mpr hprevious
  obtain ⟨hn, htotalRevenue, hcodOrders, hprepaidOrders, hcodValue, hprepaidValue⟩ :=
    getSummary_eq_ok hsummary
  refine ⟨series, revenue, breakdown, cod, prepaid, summary, hseries, hrevenue, hbreakdown,
    hcod, hprepaid, hsummary, ?_⟩
  have hofType : ∀ paymentType, hasType (some paymentType) = OfType paymentType :=
    fun _ => rfl
  have hall : (selected orders r).filter (hasType none) = selected orders r := by
    simp [hasType]
  rw [hofType, ← List.countP_eq_length_filter] at hcodCount hprepaidCount
  rw [hofType] at hcodSum hprepaidSum
  rw [hall] at hcount hsum
  constructor
  case seriesOrders => rw [hseriesOrders, hn]
  case seriesRevenue => rw [hseriesRevenue, htotalRevenue]
  case revenueOrders =>
    rw [hrevenueOrders, hn]
    congr 1
    omega
  case revenueRevenue => rw [hrevenueRevenue, htotalRevenue, htotal, hamount, add_zero]
  case breakdownOrders => rw [hcount, hn]
  case breakdownRevenue => rw [hsum, htotalRevenue]
  case splitPoints => exact hpoints
  case splitSummary =>
    rw [hcodOrders, hprepaidOrders, hn, ← Nat.cast_add]
    congr 1
    omega
  case splitValue =>
    rw [hcodValue, hprepaidValue, htotalRevenue, htotal, hamount, add_zero]
  case splitBreakdown =>
    rw [hcodCount, hprepaidCount, hcount]
    omega
  case splitBreakdownRevenue =>
    rw [hcodSum, hprepaidSum, hsum, htotal, hamount, add_zero]
    rfl

/-- The drill-downs agree exactly when no order of the range has the third payment type, and
neither a date in India nor the window before the range leaves the range of timestamps. -/
theorem drillDowns_agree_iff (orders : List Order) (r : DateRange) (now : Instant)
    (interval : String) :
    DrillDownsAgree orders r now interval ↔
      (∀ row ∈ ordersIn orders r, row.2.paymentType ≠ .other) ∧
      (∀ row ∈ ordersIn orders r, Representable row.1 ∧ Representable (row.1 + istOffset)) ∧
      Representable (r.dateFrom - (r.dateTo - r.dateFrom)) := by
  rw [← dated_iff, ← previousRange_returns_iff, ← countP_other_eq_zero_iff]
  have hlength := length_eq_ofTypes (selected orders r)
  constructor
  · intro h
    obtain ⟨series, revenue, breakdown, cod, prepaid, summary, hseries, hrevenue, -, -, -,
      hsummary, hagree⟩ := h
    obtain ⟨hn, -, -, -, -, -⟩ := getSummary_eq_ok hsummary
    have hdated := dated_of_getOrdersTimeseries now interval hseries
    refine ⟨?_, hdated, getSummary_returns_iff.mp ⟨summary, hsummary⟩⟩
    obtain ⟨revenue', hrevenue', hcount, -, -⟩ :=
      getRevenueTimeseries_returns now interval hdated
    rw [hrevenue] at hrevenue'
    cases Except.ok.inj hrevenue'
    have hsame := hagree.revenueOrders
    rw [hcount, hn] at hsame
    have hsame := Nat.cast_injective hsame
    omega
  · intro h
    exact drillDownsAgree_of_split now interval h.1 h.2.1 h.2.2

/-- An order that is paid neither on delivery nor in advance. -/
def otherOrder : Order where
  id := 1
  orderNumber := "OMS-1"
  orderDatetime := some 0
  totalAmount := 100
  paymentType := .other

/-- The revenue timeseries leaves such an order out, and the summary counts it. -/
theorem other_order_left_out :
    ¬ DrillDownsAgree [otherOrder] ⟨-1000000, 1000000⟩ 0 "day" := by
  intro h
  obtain ⟨series, revenue, breakdown, cod, prepaid, summary, hseries, hrevenue, -, -, -,
    hsummary, hagree⟩ := h
  have hdated := dated_of_getOrdersTimeseries 0 "day" hseries
  obtain ⟨revenue', hrevenue', hcount, -⟩ := getRevenueTimeseries_returns 0 "day" hdated
  cases Except.ok.inj (hrevenue.symm.trans hrevenue')
  have hzero : (revenue.points.map (·.totalOrders)).sum = 0 := hcount
  have hone : summary.totalOrders.current = (1 : ℕ) := (getSummary_eq_ok hsummary).1
  have hsame := hagree.revenueOrders
  rw [hzero, hone] at hsame
  exact absurd (Nat.cast_injective hsame) (by decide)

end AyushOms.Analytics
