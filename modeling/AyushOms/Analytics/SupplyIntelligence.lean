import AyushOms.Analytics.Service

/-!
# Orders by State

`app.services.supply_intelligence_service`, as far as it reads orders. The states are free text.
The summary groups the orders of a range by that text and normalizes each text in Python; the
detail view of one state selects its orders in SQL, by the lowercased text, from the list of all
spellings of the state. The text is stripped in Python and not in SQL, and the two lower cases
agree on ASCII texts.

Left out are the figures of shipments, the growth and the rates, and the products of a state,
which are selected by the same condition as its cities.

## Main results

- `mem_rawVariantsFor`: the spellings of a state are those that normalize to it
- `orders_stateOrderMetrics`, `unmapped_stateOrderMetrics`: what the loop over the groups counts
- `adds_up_iff`: the summary and the detail views agree when no known state has white space
  around it and the two lower cases read the remaining texts alike
-/

namespace AyushOms.Analytics

open AyushOms.Lib AyushOms.Orders

/-! ## Section 1: State names -/

/-- `CANONICAL_STATES`. -/
def canonicalStates : List String :=
  ["Andhra Pradesh", "Arunachal Pradesh", "Assam", "Bihar", "Chhattisgarh", "Goa", "Gujarat",
    "Haryana", "Himachal Pradesh", "Jharkhand", "Karnataka", "Kerala", "Madhya Pradesh",
    "Maharashtra", "Manipur", "Meghalaya", "Mizoram", "Nagaland", "Odisha", "Punjab", "Rajasthan",
    "Sikkim", "Tamil Nadu", "Telangana", "Tripura", "Uttar Pradesh", "Uttarakhand", "West Bengal",
    "Andaman and Nicobar Islands", "Chandigarh", "Dadra and Nagar Haveli and Daman and Diu",
    "Delhi", "Jammu and Kashmir", "Ladakh", "Lakshadweep", "Puducherry"]

/-- `_STATE_ALIASES`. -/
def stateAliases : List (String × String) :=
  [("orissa", "Odisha"), ("pondicherry", "Puducherry"), ("nct of delhi", "Delhi"),
    ("new delhi", "Delhi"), ("delhi ncr", "Delhi"), ("uttaranchal", "Uttarakhand"),
    ("jammu & kashmir", "Jammu and Kashmir"), ("j&k", "Jammu and Kashmir"),
    ("dadra and nagar haveli", "Dadra and Nagar Haveli and Daman and Diu"),
    ("daman and diu", "Dadra and Nagar Haveli and Daman and Diu")]

section Names

variable [PyText]

/-- `_CANONICAL_LOOKUP`. -/
def canonicalLookup : List (String × String) :=
  canonicalStates.map fun name => (PyText.lower name, name)

/-- `normalize_state`. -/
def normalizeState (raw : Option String) : Option String :=
  match raw with
  | none => none
  | some raw =>
    if pyFalsy raw then none
    else
      let cleaned := PyText.lower (pyStrip raw)
      if pyFalsy cleaned then none
      else
        match stateAliases.lookup cleaned with
        | some canonical => some canonical
        | none => canonicalLookup.lookup cleaned

/-- `_raw_variants_for`. -/
def rawVariantsFor (canonical : String) : List String :=
  PyText.lower canonical :: (stateAliases.filter fun entry => entry.2 = canonical).map Prod.fst

end Names

/-! ## Section 2: The summary and the detail view -/

/-- `Order.shipping_address["state"].as_string()`. -/
def stateRaw (order : Order) : Option String := order.shippingAddress.bind (·.state)

/-- `Order.shipping_address["city"].as_string()`. -/
def cityRaw (order : Order) : Option String := order.shippingAddress.bind (·.city)

/-- `GROUP BY`. -/
def groupBy {κ : Type} [DecidableEq κ] (key : Order → κ) (orders : List Order) :
    Counters κ (List Order) :=
  Counters.countBy [] key (fun group order => group ++ [order]) orders

/-- A row of the query of `_state_order_metrics`. -/
structure StateRow where
  stateRaw : Option String
  orders : ℕ
  revenue : ℚ
  customers : ℕ

/-- The query of `_state_order_metrics`. -/
def stateRows (orders : List Order) (r : DateRange) : List StateRow :=
  (groupBy stateRaw (selected orders r)).map fun item =>
    { stateRaw := item.1
      orders := item.2.length
      revenue := (item.2.map fun order => order.totalAmount).sum
      customers := (item.2.filterMap fun order => order.customerId).dedup.length }

/-- A bucket of `by_state`. -/
structure StateBucket where
  orders : ℕ := 0
  revenue : ℚ := 0
  customers : ℕ := 0

def StateBucket.add (bucket : StateBucket) (row : StateRow) : StateBucket where
  orders := bucket.orders + row.orders
  revenue := bucket.revenue + row.revenue
  customers := bucket.customers + row.customers

section Service

variable [PyText]

/-- One row of the loop. -/
def addStateRow (found : Counters String StateBucket × ℕ) (row : StateRow) :
    Counters String StateBucket × ℕ :=
  match normalizeState row.stateRaw with
  | none => (found.1, found.2 + row.orders)
  | some canonical => (found.1.update {} canonical fun bucket => bucket.add row, found.2)

/-- `_state_order_metrics`. -/
def stateOrderMetrics (orders : List Order) (r : DateRange) : Counters String StateBucket × ℕ :=
  (stateRows orders r).foldl addStateRow ([], 0)

/-- The figures of orders in a `StateMetric`. -/
structure StateMetric where
  state : String
  orders : ℕ
  revenue : ℚ
  customers : ℕ

/-- `states.sort(key=lambda s: s.orders, reverse=True)`. -/
def mostOrdersFirst (states : List StateMetric) : List StateMetric :=
  states.insertionSort fun a b => b.orders ≤ a.orders

/-- `CityMetric`. -/
structure CityMetric where
  city : String
  orders : ℕ
  revenue : ℚ

/-- `func.lower(state_expr).in_(variants)`. NULL is in no list. -/
def InDetail (sqlLower : String → String) (state : String) (order : Order) : Prop :=
  ∃ raw ∈ stateRaw order, sqlLower raw ∈ rawVariantsFor state

instance (sqlLower : String → String) (state : String) (order : Order) :
    Decidable (InDetail sqlLower state order) :=
  inferInstanceAs (Decidable (∃ raw ∈ stateRaw order, sqlLower raw ∈ rawVariantsFor state))

/-- The orders that the two queries of `_state_detail` read. -/
def detailOrders (sqlLower : String → String) (orders : List Order) (r : DateRange)
    (state : String) : List Order :=
  (selected orders r).filter fun order => InDetail sqlLower state order

/-- The cities of `_state_detail`. -/
def detailCities (sqlLower : String → String) (orders : List Order) (r : DateRange)
    (state : String) : List CityMetric :=
  (((groupBy cityRaw (detailOrders sqlLower orders r state)).map fun item =>
    { city := (pyOr item.1 none).getD "Unknown"
      orders := item.2.length
      revenue := (item.2.map fun order => order.totalAmount).sum }).insertionSort
        fun a b : CityMetric => b.orders ≤ a.orders).take 10

/-- `StateDetail`, without the figures of shipments and the products. -/
structure StateDetail where
  metric : StateMetric
  cities : List CityMetric

/-- `SupplyIntelligenceResponse`: the states, the selected one and the unmapped orders. -/
structure SupplyIntelligence where
  states : List StateMetric
  selectedState : Option StateDetail
  unmappedOrderCount : ℕ

/-- The metric of one state. -/
def stateMetric (ordersByState : Counters String StateBucket) (state : String) : StateMetric :=
  let bucket := ordersByState.get {} state
  { state := state, orders := bucket.orders, revenue := bucket.revenue
    customers := bucket.customers }

/-- `get_supply_intelligence`. -/
def getSupplyIntelligence (sqlLower : String → String) (orders : List Order) (r : DateRange)
    (selectedState : Option String) : SupplyIntelligence :=
  let found := stateOrderMetrics orders r
  let states := mostOrdersFirst (canonicalStates.map (stateMetric found.1))
  { states := states
    selectedState := (pyOr selectedState none).bind fun text =>
      let canonical := (normalizeState (some text)).getD text
      (states.find? fun metric => metric.state = canonical).map fun metric =>
        { metric := metric, cities := detailCities sqlLower orders r canonical }
    unmappedOrderCount := found.2 }

end Service

/-! ## Section 3: What the loop counts -/

/-- The groups whose text has some property have the orders whose text has it. -/
theorem sum_stateRows (p : Option String → Bool) (orders : List Order) (r : DateRange) :
    ((stateRows orders r).map fun row => if p row.stateRaw then row.orders else 0).sum =
      (selected orders r).countP fun order => p (stateRaw order) := by
  have hgroups := Counters.sum_countBy_key [] (fun group order => group ++ [order]) stateRaw
    (f := fun raw group => if p raw then group.length else 0)
    (g := fun order => if p (stateRaw order) then 1 else 0) (by simp)
    (fun group order => by by_cases hp : p (stateRaw order) <;> simp [hp]) (selected orders r)
  unfold stateRows groupBy
  rw [List.map_map]
  exact hgroups.trans (Counters.sum_ite_eq_countP _ _)

section Counts

variable [PyText]

/-- The loop adds the group of this order to the bucket of the state. -/
def CountedIn (state : String) (order : Order) : Prop :=
  normalizeState (stateRaw order) = some state

instance (state : String) (order : Order) : Decidable (CountedIn state order) :=
  inferInstanceAs (Decidable (_ = _))

theorem orders_addStateRow (found : Counters String StateBucket × ℕ) (row : StateRow)
    (state : String) :
    ((addStateRow found row).1.get {} state).orders = (found.1.get {} state).orders +
      if normalizeState row.stateRaw = some state then row.orders else 0 := by
  unfold addStateRow
  cases hstate : normalizeState row.stateRaw with
  | none => simp
  | some canonical =>
    show ((found.1.update {} canonical fun bucket => bucket.add row).get {} state).orders = _
    rw [Counters.get_update]
    by_cases heq : canonical = state
    · subst heq
      simp [StateBucket.add]
    · simp [heq]

theorem unmapped_addStateRow (found : Counters String StateBucket × ℕ) (row : StateRow) :
    (addStateRow found row).2 =
      found.2 + if normalizeState row.stateRaw = none then row.orders else 0 := by
  unfold addStateRow
  cases hstate : normalizeState row.stateRaw with
  | none => simp
  | some canonical => simp

/-- The bucket of a state has the orders whose text normalizes to it. -/
theorem orders_stateOrderMetrics (orders : List Order) (r : DateRange) (state : String) :
    ((stateOrderMetrics orders r).1.get {} state).orders =
      (selected orders r).countP fun order => CountedIn state order := by
  have hloop : ∀ (rows : List StateRow) (found : Counters String StateBucket × ℕ),
      ((rows.foldl addStateRow found).1.get {} state).orders = (found.1.get {} state).orders +
        (rows.map fun row =>
          if normalizeState row.stateRaw = some state then row.orders else 0).sum := by
    intro rows
    induction rows with
    | nil => simp
    | cons row rows ih =>
      intro found
      rw [List.foldl_cons, ih, orders_addStateRow, List.map_cons, List.sum_cons, Nat.add_assoc]
  have hrows := sum_stateRows (fun raw => normalizeState raw = some state) orders r
  simp only [decide_eq_true_eq] at hrows
  unfold stateOrderMetrics
  rw [hloop, hrows]
  exact Nat.zero_add _

/-- The orders whose text normalizes to no state are counted as unmapped. -/
theorem unmapped_stateOrderMetrics (orders : List Order) (r : DateRange) :
    (stateOrderMetrics orders r).2 =
      (selected orders r).countP fun order => normalizeState (stateRaw order) = none := by
  have hloop : ∀ (rows : List StateRow) (found : Counters String StateBucket × ℕ),
      (rows.foldl addStateRow found).2 = found.2 +
        (rows.map fun row => if normalizeState row.stateRaw = none then row.orders else 0).sum := by
    intro rows
    induction rows with
    | nil => simp
    | cons row rows ih =>
      intro found
      rw [List.foldl_cons, ih, unmapped_addStateRow, List.map_cons, List.sum_cons, Nat.add_assoc]
  have hrows := sum_stateRows (fun raw => normalizeState raw = none) orders r
  simp only [decide_eq_true_eq] at hrows
  unfold stateOrderMetrics
  rw [hloop, hrows]
  exact Nat.zero_add _

end Counts

/-! ## Section 4: Spellings -/

/-- A text's ASCII letters in lower case. -/
def asciiLower (text : String) : String := String.ofList (text.toList.map Char.toLower)

/-- A text of ASCII characters. -/
def IsAscii (text : String) : Prop := ∀ c ∈ text.toList, c.toNat < 128

instance (text : String) : Decidable (IsAscii text) :=
  decidable_of_iff (text.toList.all (fun c => decide (c.toNat < 128)) = true)
    (by simp only [List.all_eq_true, decide_eq_true_eq, IsAscii])

/-- What Python and the database promise of their lower cases. -/
def LowersAscii (lower : String → String) : Prop :=
  ∀ text, IsAscii text → lower text = asciiLower text

/-- All names, in lower case, with their states. -/
def stateNames : List (String × String) :=
  stateAliases ++ canonicalStates.map fun name => (asciiLower name, name)

/-- The state that a cleaned text names. -/
def stateNamed (cleaned : String) : Option String := stateNames.lookup cleaned

theorem nodup_stateNames : (stateNames.map Prod.fst).Nodup := by decide +kernel

theorem isAscii_canonicalStates : ∀ name ∈ canonicalStates, IsAscii name := by decide +kernel

theorem state_mem_stateNames : ∀ entry ∈ stateNames, entry.2 ∈ canonicalStates := by
  decide +kernel

theorem stateNamed_eq_some {cleaned state : String} :
    stateNamed cleaned = some state ↔ (cleaned, state) ∈ stateNames := by
  unfold stateNamed
  rw [List.lookup_eq_some_iff]
  constructor
  · intro h
    obtain ⟨before, after, hnames, -⟩ := h
    exact hnames ▸ List.mem_append_right _ List.mem_cons_self
  · intro h
    obtain ⟨before, after, hnames⟩ := List.append_of_mem h
    refine ⟨before, after, hnames, fun entry hentry => ?_⟩
    -- no name comes twice
    have hnodup := nodup_stateNames
    rw [hnames, List.map_append, List.map_cons, List.nodup_append] at hnodup
    have hne := hnodup.2.2 entry.1 (List.mem_map_of_mem hentry) cleaned List.mem_cons_self
    simpa using Ne.symm hne

theorem stateNamed_mem {cleaned state : String} (h : stateNamed cleaned = some state) :
    state ∈ canonicalStates :=
  state_mem_stateNames _ (stateNamed_eq_some.mp h)

theorem not_pyIsSpace {c : Char} (hge : 65 ≤ c.toNat) (hle : c.toNat ≤ 122) :
    pyIsSpace c = false := by
  unfold pyIsSpace
  simp only [Bool.or_eq_false_iff, Bool.and_eq_false_iff, decide_eq_false_iff_not,
    beq_eq_false_iff_ne]
  omega

theorem pyIsSpace_toLower (c : Char) : pyIsSpace c.toLower = pyIsSpace c := by
  by_cases h : c.val ≥ 'A'.val ∧ c.val ≤ 'Z'.val
  · have hge : 65 ≤ c.toNat := h.1
    have hle : c.toNat ≤ 90 := h.2
    have hlower : c.toLower.toNat = c.toNat + 32 := by
      have hlowered : c.toLower.val = c.val + 32 := congrArg Char.val (dif_pos h)
      show c.toLower.val.toNat = c.val.toNat + 32
      have hval : c.val.toNat ≤ 90 := hle
      rw [hlowered, UInt32.toNat_add]
      show (c.val.toNat + 32) % 2 ^ 32 = c.val.toNat + 32
      omega
    rw [not_pyIsSpace (by omega) (by omega), not_pyIsSpace hge (by omega)]
  · have hsame : c.toLower = c := dif_neg h
    rw [hsame]

/-- Lower case leaves white space where it is. -/
theorem pyStrip_asciiLower (text : String) :
    pyStrip (asciiLower text) = asciiLower (pyStrip text) := by
  have hspace : pyIsSpace ∘ Char.toLower = pyIsSpace := funext pyIsSpace_toLower
  unfold pyStrip asciiLower
  simp only [String.toList_ofList, List.dropWhile_map, ← List.map_reverse, hspace]

/-- A text without white space at its ends is what stripping leaves of it. -/
theorem pyStrip_of_ends {text : String} (hfirst : text.toList.head?.any pyIsSpace = false)
    (hlast : text.toList.getLast?.any pyIsSpace = false) : pyStrip text = text := by
  have hdrop : ∀ cs : List Char, cs.head?.any pyIsSpace = false →
      cs.dropWhile pyIsSpace = cs := by
    intro cs hcs
    cases cs with
    | nil => rfl
    | cons c cs => rw [List.dropWhile_cons_of_neg (by simpa using hcs)]
  rw [← List.head?_reverse] at hlast
  unfold pyStrip
  -- nothing is dropped on the left, and then nothing on the right
  rw [hdrop _ hfirst, hdrop _ hlast, List.reverse_reverse, String.ofList_toList]

theorem strip_stateNames : ∀ entry ∈ stateNames, pyStrip entry.1 = entry.1 := by
  have haliases : ∀ entry ∈ stateAliases, entry.1.toList.head?.any pyIsSpace = false ∧
      entry.1.toList.getLast?.any pyIsSpace = false := by decide +kernel
  have hnames : ∀ name ∈ canonicalStates, name.toList.head?.any pyIsSpace = false ∧
      name.toList.getLast?.any pyIsSpace = false := by decide +kernel
  intro entry hentry
  -- an alias as it stands, a canonical name in lower case
  rcases List.mem_append.mp hentry with hmem | hmem
  · exact pyStrip_of_ends (haliases entry hmem).1 (haliases entry hmem).2
  · obtain ⟨name, hname, rfl⟩ := List.mem_map.mp hmem
    rw [pyStrip_asciiLower, pyStrip_of_ends (hnames name hname).1 (hnames name hname).2]

/-- A text with white space around it names no state. -/
theorem stateNamed_of_strip {cleaned : String} (h : pyStrip cleaned ≠ cleaned) :
    stateNamed cleaned = none := by
  cases hstate : stateNamed cleaned with
  | none => rfl
  | some state => exact absurd (strip_stateNames _ (stateNamed_eq_some.mp hstate)) h

theorem length_asciiLower (text : String) :
    (asciiLower text).toList.length = text.toList.length := by
  rw [asciiLower, String.toList_ofList, List.length_map]

theorem toList_pyStrip (text : String) : (pyStrip text).toList <:+: text.toList := by
  rw [pyStrip, String.toList_ofList]
  have hleft := List.dropWhile_suffix (l := text.toList) pyIsSpace
  have hright := List.dropWhile_suffix (l := (text.toList.dropWhile pyIsSpace).reverse) pyIsSpace
  rw [← List.reverse_prefix, List.reverse_reverse] at hright
  exact hright.isInfix.trans hleft.isInfix

theorem isAscii_pyStrip {text : String} (h : IsAscii text) : IsAscii (pyStrip text) :=
  fun c hc => h c ((toList_pyStrip text).subset hc)

/-- A text with white space around it has it in lower case too. -/
theorem pyStrip_asciiLower_ne {text : String} (h : pyStrip text ≠ text) :
    pyStrip (asciiLower text) ≠ asciiLower text := by
  rw [pyStrip_asciiLower]
  intro heq
  have hlength := congrArg (fun lowered : String => lowered.toList.length) heq
  simp only [length_asciiLower] at hlength
  exact h (String.toList_inj.mp ((toList_pyStrip text).eq_of_length hlength))

section Spellings

variable [PyText] (hpy : LowersAscii PyText.lower)

include hpy

theorem canonicalLookup_eq :
    canonicalLookup = canonicalStates.map fun name => (asciiLower name, name) := by
  unfold canonicalLookup
  refine List.map_congr_left fun name hname => ?_
  rw [hpy name (isAscii_canonicalStates name hname)]

/-- Normalizing reads the stripped text in lower case. -/
theorem normalizeState_eq (raw : String) :
    normalizeState (some raw) = stateNamed (PyText.lower (pyStrip raw)) := by
  have hempty : stateNamed "" = none := by decide +kernel
  unfold normalizeState
  by_cases hraw : raw = ""
  · subst hraw
    have hlower : PyText.lower (pyStrip "") = "" := hpy _ (by decide)
    rw [hlower, hempty]
    rfl
  · simp only [pyFalsy, beq_iff_eq, hraw, if_false]
    by_cases hcleaned : PyText.lower (pyStrip raw) = ""
    · rw [if_pos hcleaned, hcleaned, hempty]
    · rw [if_neg hcleaned, canonicalLookup_eq hpy, stateNamed, stateNames, List.lookup_append]
      cases stateAliases.lookup (PyText.lower (pyStrip raw)) <;> rfl

/-- The spellings of a state are the texts that name it. -/
theorem mem_rawVariantsFor {state : String} (hstate : state ∈ canonicalStates) (cleaned : String) :
    cleaned ∈ rawVariantsFor state ↔ stateNamed cleaned = some state := by
  rw [stateNamed_eq_some]
  unfold rawVariantsFor stateNames
  rw [hpy state (isAscii_canonicalStates state hstate)]
  simp only [List.mem_cons, List.mem_map, List.mem_filter, List.mem_append, decide_eq_true_eq,
    Prod.mk.injEq]
  constructor
  · intro h
    rcases h with rfl | ⟨⟨name, target⟩, ⟨hmem, rfl⟩, rfl⟩
    · exact .inr ⟨state, hstate, rfl, rfl⟩
    · exact .inl hmem
  · intro h
    rcases h with hmem | ⟨name, -, rfl, rfl⟩
    · exact .inr ⟨(cleaned, state), ⟨hmem, rfl⟩, rfl⟩
    · exact .inl rfl

end Spellings

/-! ## Section 5: Adding up -/

theorem nodup_canonicalStates : canonicalStates.Nodup := by decide +kernel

theorem mostOrdersFirst_perm (states : List StateMetric) : (mostOrdersFirst states).Perm states :=
  List.perm_insertionSort _ _

section AddsUp

variable [PyText]

/-- A text is read alike in Python and in SQL. An ASCII text is, unless it has white space around
the name of a state. In other texts the two lower cases have to name the same state, or none. -/
def ReadAlike (sqlLower : String → String) (raw : String) : Prop :=
  if IsAscii raw then stateNamed (asciiLower (pyStrip raw)) ≠ none → pyStrip raw = raw
  else stateNamed (PyText.lower (pyStrip raw)) = stateNamed (sqlLower raw)

/-- The metrics and the detail views have the same orders, and with the unmapped orders all. -/
structure AddsUp (sqlLower : String → String) (orders : List Order) (r : DateRange) : Prop where
  /-- An order is counted where the detail view includes it. -/
  agree : ∀ state ∈ canonicalStates, ∀ order ∈ selected orders r,
    CountedIn state order ↔ InDetail sqlLower state order
  /-- The metric of a state has the orders counted in it. -/
  metric : ∀ state ∈ canonicalStates, ∀ metric ∈ (getSupplyIntelligence sqlLower orders r
    (some state)).states, metric.state = state →
      metric.orders = (selected orders r).countP fun order => CountedIn state order
  total : ∀ selectedState, (((getSupplyIntelligence sqlLower orders r selectedState).states.map
    fun metric => metric.orders).sum + (getSupplyIntelligence sqlLower orders r
      selectedState).unmappedOrderCount) = (selected orders r).length

theorem readAlike_iff (hpy : LowersAscii PyText.lower) {sqlLower : String → String}
    (hsql : LowersAscii sqlLower) (raw : String) :
    stateNamed (PyText.lower (pyStrip raw)) = stateNamed (sqlLower raw) ↔
      ReadAlike sqlLower raw := by
  unfold ReadAlike
  by_cases hascii : IsAscii raw
  · rw [if_pos hascii, hpy _ (isAscii_pyStrip hascii), hsql raw hascii]
    by_cases hstrip : pyStrip raw = raw
    · simp [hstrip]
    · rw [stateNamed_of_strip (pyStrip_asciiLower_ne hstrip)]
      simp [hstrip]
  · rw [if_neg hascii]

/-- The states of the response, in any order. -/
theorem states_perm (sqlLower : String → String) (orders : List Order) (r : DateRange)
    (selectedState : Option String) :
    (getSupplyIntelligence sqlLower orders r selectedState).states.Perm
      (canonicalStates.map (stateMetric (stateOrderMetrics orders r).1)) := by
  unfold getSupplyIntelligence
  dsimp only
  exact mostOrdersFirst_perm _

/-- An order is counted in one state, or as unmapped. -/
theorem countP_states (hpy : LowersAscii PyText.lower) (order : Order) :
    (canonicalStates.countP fun state => CountedIn state order) +
      (if normalizeState (stateRaw order) = none then 1 else 0) = 1 := by
  by_cases hnone : normalizeState (stateRaw order) = none
  · simp [CountedIn, hnone]
  · obtain ⟨canonical, hstate⟩ := Option.ne_none_iff_exists'.mp hnone
    have hmem : canonical ∈ canonicalStates := by
      cases hraw : stateRaw order with
      | none =>
        rw [hraw] at hstate
        cases hstate
      | some raw =>
        rw [hraw, normalizeState_eq hpy] at hstate
        exact stateNamed_mem hstate
    have hcount := List.count_eq_one_of_mem nodup_canonicalStates hmem
    have hsame : (fun state => decide (CountedIn state order)) =
        fun state => state == canonical := by
      funext state
      rw [Bool.eq_iff_iff, decide_eq_true_eq, beq_iff_eq, CountedIn, hstate, Option.some_inj,
        eq_comm]
    rw [hsame, if_neg hnone]
    exact hcount

/-- The orders counted in the states and the unmapped ones are all orders. -/
theorem sum_countP_states (hpy : LowersAscii PyText.lower) (orders : List Order) :
    (canonicalStates.map fun state => orders.countP fun order => CountedIn state order).sum +
      orders.countP (fun order => normalizeState (stateRaw order) = none) = orders.length := by
  induction orders with
  | nil => simp
  | cons order orders ih =>
    have hone := countP_states hpy order
    rw [← Counters.sum_ite_eq_countP] at hone
    simp only [List.countP_cons, decide_eq_true_eq, List.length_cons, List.sum_map_add] at hone ⊢
    omega

/-- The summary and the detail views add up exactly when the state of every order in the range is
read alike in Python and in SQL. -/
theorem adds_up_iff (hpy : LowersAscii PyText.lower) (sqlLower : String → String)
    (hsql : LowersAscii sqlLower) (orders : List Order) (r : DateRange) :
    AddsUp sqlLower orders r ↔
      ∀ order ∈ selected orders r, ∀ raw, stateRaw order = some raw → ReadAlike sqlLower raw := by
  have hcounted : ∀ order raw, stateRaw order = some raw → ∀ state, CountedIn state order ↔
      stateNamed (PyText.lower (pyStrip raw)) = some state := by
    intro order raw hraw state
    rw [CountedIn, hraw, normalizeState_eq hpy]
  have hdetail : ∀ order raw, stateRaw order = some raw → ∀ state ∈ canonicalStates,
      InDetail sqlLower state order ↔ stateNamed (sqlLower raw) = some state := by
    intro order raw hraw state hstate
    rw [← mem_rawVariantsFor hpy hstate]
    simp [InDetail, hraw]
  constructor
  · intro h order horder raw hraw
    rw [← readAlike_iff hpy hsql]
    -- each names a state when the other does
    refine Option.ext fun state => ?_
    have hagree : state ∈ canonicalStates →
        (stateNamed (PyText.lower (pyStrip raw)) = some state ↔
          stateNamed (sqlLower raw) = some state) := by
      intro hstate
      rw [← hcounted order raw hraw, ← hdetail order raw hraw state hstate]
      exact h.agree state hstate order horder
    constructor
    · intro hstate
      exact (hagree (stateNamed_mem hstate)).mp hstate
    · intro hstate
      exact (hagree (stateNamed_mem hstate)).mpr hstate
  · intro h
    refine ⟨?_, ?_, ?_⟩
    · intro state hstate order horder
      cases hraw : stateRaw order with
      | none => simp [CountedIn, InDetail, normalizeState, hraw]
      | some raw =>
        rw [hcounted order raw hraw, hdetail order raw hraw state hstate,
          (readAlike_iff hpy hsql raw).mpr (h order horder raw hraw)]
    · intro state _ metric hmetric hname
      obtain ⟨name, -, rfl⟩ := List.mem_map.mp ((states_perm _ _ _ _).mem_iff.mp hmetric)
      have hname : name = state := hname
      subst hname
      exact orders_stateOrderMetrics orders r name
    · intro selectedState
      have hstates := ((states_perm sqlLower orders r selectedState).map
        fun metric => metric.orders).sum_eq
      rw [hstates, List.map_map]
      show (canonicalStates.map fun state =>
        ((stateOrderMetrics orders r).1.get {} state).orders).sum +
          (stateOrderMetrics orders r).2 = _
      rw [unmapped_stateOrderMetrics, List.map_congr_left fun state _ =>
        orders_stateOrderMetrics orders r state]
      exact sum_countP_states hpy _

end AddsUp

/-- An order of one day with this state. -/
def orderFrom (state : String) : Order where
  id := 1
  orderNumber := "1001"
  orderDatetime := some 0
  shippingAddress := some { state := some state }

/-- Upper case does no harm. -/
theorem adds_up_odisha : AddsUp asciiLower [orderFrom "ORISSA"] ⟨0, 1⟩ := by
  refine (adds_up_iff (fun _ _ => rfl) asciiLower (fun _ _ => rfl) _ _).mpr ?_
  intro order horder raw hraw
  have hselected : selected [orderFrom "ORISSA"] ⟨0, 1⟩ = [orderFrom "ORISSA"] := rfl
  rw [hselected, List.mem_singleton] at horder
  subst horder
  obtain rfl : "ORISSA" = raw := Option.some.inj hraw
  unfold ReadAlike
  rw [if_pos (by decide +kernel)]
  intro _
  decide +kernel

/-- An order from Maharashtra with a space after the name is counted there, and the detail view
of Maharashtra has it not. -/
theorem trailing_space_left_out :
    ¬ AddsUp asciiLower [orderFrom "Maharashtra "] ⟨0, 1⟩ := by
  intro h
  have hagree := h.agree "Maharashtra" (by decide +kernel) (orderFrom "Maharashtra ")
    (by simp [selected, ordersIn, orderFrom, DateRange.Holds])
  have hcounted : CountedIn "Maharashtra" (orderFrom "Maharashtra ") := by decide +kernel
  have hdetail : ¬ InDetail asciiLower "Maharashtra" (orderFrom "Maharashtra ") := by
    decide +kernel
  exact hdetail (hagree.mp hcounted)

end AyushOms.Analytics
