import AyushOms.Analytics.Service

/-!
# The Window Before

The summary compares a date range with the window before it. Both ends belong to a range, and
the window before ends where the range starts: an order of that very instant is counted in both.
The chat assistant's `previous_period` ends one microsecond earlier.

## Main results

- `ordersIn_split`: apart from that instant, every order of the two windows is counted once
- `comparison_adjacent_iff`: the two windows fit together when no order was placed at the start
-/

namespace AyushOms.Analytics

open AyushOms.Orders

variable {orders : List Order} {current previous : DateRange}

/-- The window before has the length of the current one, no order is counted in both, and no
instant from the start of the one to the end of the other belongs to neither. So the orders of
both are those of the two together. -/
structure Adjacent (orders : List Order) (current previous : DateRange) : Prop where
  sameLength : previous.dateTo - previous.dateFrom = current.dateTo - current.dateFrom
  countedOnce : ∀ order, ¬ (order ∈ selected orders previous ∧ order ∈ selected orders current)
  noGap : ∀ t, previous.dateFrom ≤ t → t ≤ current.dateTo → previous.Holds t ∨ current.Holds t
  totals : (summaryCounts orders previous).totalOrders +
    (summaryCounts orders current).totalOrders =
      (summaryCounts orders ⟨previous.dateFrom, current.dateTo⟩).totalOrders

theorem mem_selected_iff {order : Order} {r : DateRange} : order ∈ selected orders r ↔
    order ∈ orders ∧ ∃ t, order.orderDatetime = some t ∧ r.Holds t := by
  unfold selected ordersIn
  simp only [List.mem_map, List.mem_filterMap]
  constructor
  · intro h
    obtain ⟨row, ⟨order', hmem, hrow⟩, rfl⟩ := h
    cases htime : order'.orderDatetime with
    | none =>
      rw [htime] at hrow
      cases hrow
    | some t =>
      rw [htime] at hrow
      dsimp only at hrow
      by_cases hholds : r.Holds t
      · rw [if_pos hholds] at hrow
        cases hrow
        exact ⟨hmem, t, htime, hholds⟩
      · rw [if_neg hholds] at hrow
        cases hrow
  · intro h
    obtain ⟨hmem, t, htime, hholds⟩ := h
    refine ⟨(t, order), ⟨order, hmem, ?_⟩, rfl⟩
    rw [htime]
    exact if_pos hholds

/-- How often a range counts an order. -/
theorem length_ordersIn_cons (order : Order) (orders : List Order) (r : DateRange) :
    (ordersIn (order :: orders) r).length =
      (if ∃ t, order.orderDatetime = some t ∧ r.Holds t then 1 else 0) +
        (ordersIn orders r).length := by
  unfold ordersIn
  rw [List.filterMap_cons]
  cases htime : order.orderDatetime with
  | none => simp
  | some t =>
    by_cases hholds : r.Holds t
    · simp [hholds]
      omega
    · simp [hholds]

/-- Apart from the start of the current range, an instant lies in one of the two windows when it
lies between their outer ends, and never in both. -/
theorem holds_split {t : ℤ} (hbefore : previousRange current = .ok previous)
    (h : current.dateFrom ≤ current.dateTo → t ≠ current.dateFrom) :
    (DateRange.Holds ⟨previous.dateFrom, current.dateTo⟩ t ↔
      previous.Holds t ∨ current.Holds t) ∧ ¬ (previous.Holds t ∧ current.Holds t) := by
  obtain ⟨start, hstart, hprevious⟩ := bind_eq_ok.mp hbefore
  obtain ⟨-, rfl⟩ := checkedInstant_eq_ok.mp hstart
  rw [← Except.ok.inj hprevious]
  simp only [DateRange.Holds]
  omega

theorem ordersIn_split (hbefore : previousRange current = .ok previous)
    (h : current.dateFrom ≤ current.dateTo →
      ∀ order ∈ orders, order.orderDatetime ≠ some current.dateFrom) :
    (ordersIn orders previous).length + (ordersIn orders current).length =
      (ordersIn orders ⟨previous.dateFrom, current.dateTo⟩).length := by
  induction orders with
  | nil => rfl
  | cons order orders ih =>
    have hrest := ih fun hle other hmem => h hle other (List.mem_cons_of_mem order hmem)
    rw [length_ordersIn_cons, length_ordersIn_cons, length_ordersIn_cons]
    cases htime : order.orderDatetime with
    | none => simpa using hrest
    | some t =>
      have hne : current.dateFrom ≤ current.dateTo → t ≠ current.dateFrom := by
        intro hle heq
        exact h hle order List.mem_cons_self (heq ▸ htime)
      obtain ⟨hunion, hboth⟩ := holds_split hbefore hne
      simp only [Option.some.injEq, exists_eq_left', hunion]
      by_cases hp : previous.Holds t
      · have hc : ¬ current.Holds t := fun hc => hboth ⟨hp, hc⟩
        simp only [hp, hc, if_true, if_false, true_or]
        omega
      · by_cases hc : current.Holds t
        · simp only [hp, hc, if_true, if_false, or_true]
          omega
        · simp only [hp, hc, if_false, or_self]
          omega

/-- The comparison window fits before the current one exactly when a timestamp can hold its
start and no order was placed at the very start of the current range. -/
theorem comparison_adjacent_iff (orders : List Order) (current : DateRange) :
    (∃ previous, previousRange current = .ok previous ∧ Adjacent orders current previous) ↔
      Representable (current.dateFrom - (current.dateTo - current.dateFrom)) ∧
      (current.dateFrom ≤ current.dateTo →
        ∀ order ∈ orders, order.orderDatetime ≠ some current.dateFrom) := by
  rw [← previousRange_returns_iff]
  constructor
  · intro h
    obtain ⟨previous, hbefore, hadjacent⟩ := h
    refine ⟨⟨previous, hbefore⟩, ?_⟩
    intro hle order hmem htime
    obtain ⟨start, hstart, hprevious⟩ := bind_eq_ok.mp hbefore
    obtain ⟨-, rfl⟩ := checkedInstant_eq_ok.mp hstart
    -- the order lies at the end of the one window and at the start of the other
    refine hadjacent.countedOnce order ⟨mem_selected_iff.mpr ⟨hmem, _, htime, ?_⟩,
      mem_selected_iff.mpr ⟨hmem, _, htime, ?_⟩⟩
    · rw [← Except.ok.inj hprevious]
      show current.dateFrom - (current.dateTo - current.dateFrom) ≤ current.dateFrom ∧
        current.dateFrom ≤ current.dateFrom
      omega
    · exact ⟨le_refl _, hle⟩
  · intro h
    obtain ⟨⟨previous, hbefore⟩, hne⟩ := h
    refine ⟨previous, hbefore, ?_⟩
    have hlength := ordersIn_split hbefore hne
    obtain ⟨start, hstart, hprevious⟩ := bind_eq_ok.mp hbefore
    obtain ⟨-, rfl⟩ := checkedInstant_eq_ok.mp hstart
    have hprevious := (Except.ok.inj hprevious).symm
    constructor
    case sameLength =>
      rw [hprevious]
      show current.dateFrom - (current.dateFrom - (current.dateTo - current.dateFrom)) = _
      omega
    case countedOnce =>
      intro order hboth
      obtain ⟨hmem, t, htime, hp⟩ := mem_selected_iff.mp hboth.1
      obtain ⟨-, t', htime', hc⟩ := mem_selected_iff.mp hboth.2
      cases Option.some.inj (htime.symm.trans htime')
      have hnot : current.dateFrom ≤ current.dateTo → t ≠ current.dateFrom := by
        intro hle heq
        exact hne hle order hmem (heq ▸ htime)
      exact (holds_split hbefore hnot).2 ⟨hp, hc⟩
    case noGap =>
      intro t hfrom hto
      rw [hprevious] at hfrom ⊢
      simp only [DateRange.Holds] at hfrom ⊢
      omega
    case totals =>
      show (((ordersIn orders previous).length : ℕ) : ℚ) + (ordersIn orders current).length = _
      rw [← Nat.cast_add, hlength]
      rfl

/-- An order of the instant at which the range starts. -/
def orderAtStart : Order where
  id := 1
  orderNumber := "OMS-1"
  orderDatetime := some 0

/-- It is counted in the range and in the window before. -/
theorem order_at_start_counted_twice : ¬ ∃ previous,
    previousRange ⟨0, 86400000000⟩ = .ok previous ∧
      Adjacent [orderAtStart] ⟨0, 86400000000⟩ previous := by
  intro h
  obtain ⟨previous, hbefore, hadjacent⟩ := h
  cases Except.ok.inj hbefore
  refine hadjacent.countedOnce orderAtStart ⟨?_, ?_⟩
  · exact mem_selected_iff.mpr ⟨List.mem_cons_self, 0, rfl, by decide⟩
  · exact mem_selected_iff.mpr ⟨List.mem_cons_self, 0, rfl, by decide⟩

end AyushOms.Analytics
