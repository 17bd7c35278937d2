import AyushOms.Payments.Checkout

/-!
# Merchant Order Ids

`create_or_reuse_checkout` stores a session under the id that `build_cashfree_order_id` makes
of the order number and of the number of earlier attempts. The id is what tells two sessions
apart: Cashfree keeps one order under it, and `upsert_by_external_id` one payment.

Characters are dropped, the rest is cut to leave room for the attempt, and the attempt is
written in characters that order numbers use too. What is left of the pair is `keptBase` and
`suffix`; two pairs share an id exactly when they `Clash`.

## Main results

- `attemptId_ne_iff`: two ids differ unless their pairs clash
- `clash_iff_of_plain`: short order numbers without hyphens clash with themselves only
- `cashfree_order_ids_distinct_iff`: ids, and the payments that a checkout overwrites
-/

namespace AyushOms.Payments

open AyushOms.Lib AyushOms.Orders AyushOms.Orders.OrdersDB

/-! ## Section 1: What an id keeps -/

/-- The attempt as `create_or_reuse_checkout` passes it: none for the first one. -/
def disambiguator (attempt : ℕ) : Option String :=
  if attempt = 0 then none else some (String.ofList (Nat.toDigits 10 attempt))

/-- The id of the attempt with the given number of earlier ones. -/
def attemptId (orderNumber : String) (attempt : ℕ) : String :=
  buildCashfreeOrderId orderNumber (disambiguator attempt)

theorem nextCashfreeOrderId_eq (db : OrdersDB) (order : Order) :
    nextCashfreeOrderId db order =
      attemptId order.orderNumber (cashfreeAttempts db order.id).length := by
  simp only [nextCashfreeOrderId, attemptId, disambiguator, List.isEmpty_iff,
    List.length_eq_zero_iff]

/-- The allowed characters of an order number, or `AWLORDER`. -/
def base (orderNumber : String) : List Char :=
  let kept := orderNumber.toList.filter isOrderIdChar
  if kept.isEmpty then "AWLORDER".toList else kept

/-- What the attempt adds to the id. -/
def suffix (attempt : ℕ) : List Char :=
  if attempt = 0 then [] else '-' :: Nat.toDigits 10 attempt

/-- The part of the base that fits in front of the suffix. -/
def keptBase (orderNumber : String) (attempt : ℕ) : List Char :=
  pySlice (base orderNumber) (orderIdMaxLength - (suffix attempt).length)

@[simp] theorem suffix_zero : suffix 0 = [] := rfl

theorem suffix_pos {attempt : ℕ} (h : 0 < attempt) :
    suffix attempt = '-' :: Nat.toDigits 10 attempt := if_neg h.ne'

theorem toList_attemptId (orderNumber : String) (attempt : ℕ) :
    (attemptId orderNumber attempt).toList = keptBase orderNumber attempt ++ suffix attempt := by
  rcases Nat.eq_zero_or_pos attempt with rfl | hpos
  · have hfirst : attemptId orderNumber 0 =
        String.ofList (pySlice (base orderNumber) orderIdMaxLength) := rfl
    rw [hfirst, String.toList_ofList, suffix_zero, List.append_nil, keptBase, suffix_zero,
      List.length_nil, Int.natCast_zero, sub_zero]
  · have hdigits : pyFalsy (String.ofList (Nat.toDigits 10 attempt)) = false := by
      rw [pyFalsy, beq_eq_false_iff_ne, Ne, String.ofList_eq_empty_iff]
      exact Nat.toDigits_ne_nil
    have hretry : pyOr (disambiguator attempt) none =
        some (String.ofList (Nat.toDigits 10 attempt)) := by
      rw [disambiguator, if_neg hpos.ne', pyOr, hdigits, if_neg Bool.false_ne_true]
    simp only [attemptId, buildCashfreeOrderId, hretry, String.toList_ofList, keptBase, base,
      suffix_pos hpos]

/-! ## Section 2: Clashes -/

theorem takeWhile_isDigit_reverse (n : ℕ) (rest : List Char) :
    ((Nat.toDigits 10 n).reverse ++ '-' :: rest).takeWhile Char.isDigit =
      (Nat.toDigits 10 n).reverse := by
  rw [List.takeWhile_append_of_pos, List.takeWhile_cons_of_neg (by decide), List.append_nil]
  intro c hc
  exact Nat.isDigit_of_mem_toDigits (by decide) (by decide) (List.mem_reverse.mp hc)

/-- The digits after the last hyphen are the attempt. -/
theorem attempt_eq_of_append_eq {xs ys : List Char} {j k : ℕ}
    (h : xs ++ '-' :: Nat.toDigits 10 j = ys ++ '-' :: Nat.toDigits 10 k) : j = k := by
  have hrev := congrArg (fun text => text.reverse.takeWhile Char.isDigit) h
  simp only [List.reverse_append, List.reverse_cons, List.append_assoc,
    List.singleton_append, takeWhile_isDigit_reverse] at hrev
  have hdigits : Nat.toDigits 10 j = Nat.toDigits 10 k := List.reverse_injective hrev
  have hparsed := congrArg (fun digits => Nat.ofDigitChars 10 digits 0) hdigits
  simpa only [Nat.ofDigitChars_ten_toDigits] using hparsed

/-- The pairs of an order number and an attempt share their id: the same attempt, of order
numbers that agree as far as they are kept; or a retry, and a first attempt of an order number
whose kept part reads like the other's with the retry appended. -/
def Clash (n : String) (j : ℕ) (m : String) (k : ℕ) : Prop :=
  (j = k ∧ keptBase n j = keptBase m k) ∨
  (j = 0 ∧ 0 < k ∧ keptBase n 0 = keptBase m k ++ suffix k) ∨
  (k = 0 ∧ 0 < j ∧ keptBase m 0 = keptBase n j ++ suffix j)

instance (n : String) (j : ℕ) (m : String) (k : ℕ) : Decidable (Clash n j m k) :=
  inferInstanceAs (Decidable (_ ∨ _))

theorem attemptId_eq_iff (n : String) (j : ℕ) (m : String) (k : ℕ) :
    attemptId n j = attemptId m k ↔ Clash n j m k := by
  rw [← String.toList_inj, toList_attemptId, toList_attemptId]
  rcases Nat.eq_zero_or_pos j with rfl | hj <;> rcases Nat.eq_zero_or_pos k with rfl | hk
  · simp [Clash]
  · simp [Clash, hk, hk.ne, hk.ne']
  · simp [Clash, hj, hj.ne', eq_comm]
  · -- two retries are told apart by their suffixes
    have hretries : Clash n j m k ↔ j = k ∧ keptBase n j = keptBase m k := by
      simp [Clash, hj.ne', hk.ne']
    rw [hretries]
    constructor
    · intro h
      have hjk : j = k := attempt_eq_of_append_eq (by rwa [suffix_pos hj, suffix_pos hk] at h)
      subst hjk
      exact ⟨rfl, List.append_cancel_right h⟩
    · rintro ⟨rfl, h⟩
      rw [h]

/-- Two retries, of whichever orders, have different ids. -/
theorem not_clash_retries (n m : String) {j k : ℕ} (hj : 0 < j) (hk : 0 < k) (hjk : j ≠ k) :
    ¬ Clash n j m k := by
  simp [Clash, hjk, hj.ne', hk.ne']

/-- The id keeps all of an order number: only allowed characters, and room for the attempt. -/
structure Plain (orderNumber : String) (attempt : ℕ) : Prop where
  nonempty : orderNumber.toList ≠ []
  allowed : ∀ c ∈ orderNumber.toList, c.isAlphanum ∨ c = '_'
  room : orderNumber.toList.length + (suffix attempt).length ≤ 45

theorem Plain.keptBase_eq {n : String} {j : ℕ} (h : Plain n j) :
    keptBase n j = n.toList := by
  have hkept : n.toList.filter isOrderIdChar = n.toList := by
    rw [List.filter_eq_self]
    intro c hc
    rcases h.allowed c hc with hc | rfl
    · simp [isOrderIdChar, hc]
    · rfl
  have hbase : base n = n.toList := by
    rw [base, hkept, if_neg (by simpa using h.nonempty)]
  have hroom := h.room
  rw [keptBase, hbase, pySlice, orderIdMaxLength, if_pos (by omega)]
  exact List.take_of_length_le (by omega)

theorem Plain.keptBase_zero_ne {n m : String} {j k : ℕ} (h : Plain n j) (hj : j = 0)
    (hk : 0 < k) : keptBase n 0 ≠ keptBase m k ++ suffix k := by
  subst hj
  intro heq
  have hhyphen : '-' ∈ n.toList := by
    rw [← h.keptBase_eq, heq, suffix_pos hk]
    exact List.mem_append_right _ List.mem_cons_self
  rcases h.allowed '-' hhyphen with hc | hc <;> cases hc

/-- Order numbers of allowed characters without hyphens, short enough to be kept whole, share
an id only when both the number and the attempt are the same. -/
theorem clash_iff_of_plain {n m : String} {j k : ℕ} (hn : Plain n j) (hm : Plain m k) :
    Clash n j m k ↔ n = m ∧ j = k := by
  constructor
  · rintro (⟨rfl, h⟩ | ⟨hj, hk, h⟩ | ⟨hk, hj, h⟩)
    · rw [hn.keptBase_eq, hm.keptBase_eq] at h
      exact ⟨String.toList_inj.mp h, rfl⟩
    · exact absurd h (hn.keptBase_zero_ne hj hk)
    · exact absurd h (hm.keptBase_zero_ne hk hj)
  · rintro ⟨rfl, rfl⟩
    exact .inl ⟨rfl, rfl⟩

/-! ## Section 3: Payments that a checkout overwrites -/

/-- The payment was stored under the id of an attempt. -/
def OpenedAs (p : Payment) (orderNumber : String) (attempt : ℕ) : Prop :=
  p.sourceSystem = some .cashfree ∧ p.externalId = some (attemptId orderNumber attempt)

/-- The call got a new session and stored it in the row of an earlier payment. -/
def Overwrites (call : CheckoutCall) (p : Payment) : Prop :=
  call.request.isSome ∧ ∃ p', call.outcome = .ok (p', false) ∧ p'.id = p.id

/-- The upsert writes an existing row when that row has the external id. -/
theorem upsertPayment_overwrites_iff (db : OrdersDB) {source : SourceSystem} {externalId : String}
    {fields : PaymentFields} {horder : ∃ o ∈ db.orders.rows, o.id = fields.orderId} {p : Payment}
    (hp : p ∈ db.payments.rows) :
    ((db.upsertPayment source externalId fields horder).2.1 = false ∧
      (db.upsertPayment source externalId fields horder).1.id = p.id) ↔
        p.sourceSystem = some source ∧ p.externalId = some externalId := by
  have hkey : p.sourceSystem = some source ∧ p.externalId = some externalId ↔
      db.getPaymentByExternalId source externalId = some p := by
    rw [getPaymentByExternalId_eq_some]
    exact (and_iff_right hp).symm
  rw [hkey]
  unfold upsertPayment
  split
  · rename_i existing hfind
    have hexisting := (getPaymentByExternalId_eq_some.mp hfind).1
    constructor
    · rintro ⟨-, hid⟩
      rw [hfind, payment_eq_of_id_eq hp hexisting hid]
    · intro hfound
      have hid : existing.id = p.id :=
        congrArg Payment.id (Option.some.inj (hfind.symm.trans hfound))
      exact ⟨rfl, hid⟩
  · rename_i hfind
    refine iff_of_false (fun h => Bool.noConfusion h.1) fun hfound => ?_
    cases hfind.symm.trans hfound

/-- A session's payment names the order it is for. -/
theorem exists_order_checkoutFields (db : OrdersDB) {order : Order}
    (horder : order ∈ db.orders.rows) (response : CheckoutResponse) :
    ∃ o ∈ db.orders.rows,
      o.id = (checkoutFields order (nextCashfreeOrderId db order) response).orderId :=
  ⟨order, horder, rfl⟩

/-- The upsert of a session's payment. -/
def storeSession (db : OrdersDB) {order : Order} (horder : order ∈ db.orders.rows)
    (response : CheckoutResponse) : Payment × Bool × OrdersDB :=
  db.upsertPayment .cashfree (nextCashfreeOrderId db order)
    (checkoutFields order (nextCashfreeOrderId db order) response)
    (exists_order_checkoutFields db horder response)

section Call

variable {db : OrdersDB} {orderId : UUID} {configured : Bool}
  {gateway : CheckoutRequest → Except OMSError CheckoutResponse} {request : CheckoutRequest}
  {response : CheckoutResponse} {order : Order}

/-- A fresh checkout writes nothing, or the payment of the session it got. -/
theorem openCheckout_written (db : OrdersDB) {order : Order} (horder : order ∈ db.orders.rows)
    (configured : Bool) (gateway : CheckoutRequest → Except OMSError CheckoutResponse) :
    ((openCheckout db order horder configured gateway).db = db ∧
      (∃ e, (openCheckout db order horder configured gateway).outcome = .error e) ∧
      ∀ request response, (openCheckout db order horder configured gateway).request =
        some request → gateway request ≠ .ok response) ∨
    ∃ request response, openCheckout db order horder configured gateway =
      ⟨some request, .ok ((storeSession db horder response).1,
        (storeSession db horder response).2.1), (storeSession db horder response).2.2⟩ := by
  unfold openCheckout
  split
  · exact .inl ⟨rfl, ⟨_, rfl⟩, fun _ _ h => by cases h⟩
  · cases customerPhone db order with
    | none => exact .inl ⟨rfl, ⟨_, rfl⟩, fun _ _ h => by cases h⟩
    | some phone =>
      dsimp only
      split
      · rename_i e hrefused
        refine .inl ⟨rfl, ⟨_, rfl⟩, fun request response h => ?_⟩
        cases h
        rw [hrefused]
        exact fun h => by cases h
      · exact .inr ⟨_, _, rfl⟩

/-- A checkout writes nothing and gets no session, or stores the session it gets. -/
theorem createOrReuseCheckout_written (db : OrdersDB) (orderId : UUID) (configured : Bool)
    (gateway : CheckoutRequest → Except OMSError CheckoutResponse) :
    ((createOrReuseCheckout db orderId configured gateway).db = db ∧
      ((createOrReuseCheckout db orderId configured gateway).request = none ∨
        (∃ e, (createOrReuseCheckout db orderId configured gateway).outcome = .error e) ∧
        ∀ request response, (createOrReuseCheckout db orderId configured gateway).request =
          some request → gateway request ≠ .ok response)) ∨
    ∃ order, ∃ horder : order ∈ db.orders.rows, db.getOrder orderId = some order ∧
      ∃ request response, createOrReuseCheckout db orderId configured gateway =
        ⟨some request, .ok ((storeSession db horder response).1,
          (storeSession db horder response).2.1), (storeSession db horder response).2.2⟩ := by
  unfold createOrReuseCheckout
  split
  · exact .inl ⟨rfl, .inl rfl⟩
  · rename_i order horder
    split
    · exact .inl ⟨rfl, .inl rfl⟩
    · split
      · exact .inl ⟨rfl, .inl rfl⟩
      · split
        · exact .inl ⟨rfl, .inl rfl⟩
        · have hmem := (getOrder_eq_some.mp horder).1
          rcases openCheckout_written db hmem configured gateway with
            ⟨hsame, hrefused⟩ | ⟨request, response, hcall⟩
          · exact .inl ⟨hsame, .inr hrefused⟩
          · exact .inr ⟨order, hmem, horder, request, response, hcall⟩

/-- The payment that a checkout overwrites is the one with the id of its attempt. -/
theorem overwrites_iff (horder : db.getOrder orderId = some order)
    (hrequest : (createOrReuseCheckout db orderId configured gateway).request = some request)
    (hresponse : gateway request = .ok response) {p : Payment} (hp : p ∈ db.payments.rows) :
    Overwrites (createOrReuseCheckout db orderId configured gateway) p ↔
      OpenedAs p order.orderNumber (cashfreeAttempts db orderId).length := by
  obtain ⟨-, rfl⟩ := getOrder_eq_some.mp horder
  rcases createOrReuseCheckout_written db order.id configured gateway with
    ⟨-, hnone | ⟨-, hrefused⟩⟩ | ⟨order', hmem, horder', request', response', hcall⟩
  · cases hnone.symm.trans hrequest
  · exact absurd hresponse (hrefused request response hrequest)
  · obtain rfl : order = order' := Option.some.inj (horder.symm.trans horder')
    rw [Overwrites, hcall, OpenedAs, ← nextCashfreeOrderId_eq, ← upsertPayment_overwrites_iff db hp]
    constructor
    · rintro ⟨-, p', hreturned, hid⟩
      have hpair := Except.ok.inj hreturned
      exact ⟨congrArg Prod.snd hpair, (congrArg (fun pair => pair.1.id) hpair).trans hid⟩
    · rintro ⟨hcreated, hid⟩
      exact ⟨rfl, _, by rw [storeSession, hcreated], hid⟩

/-- Two attempts have different ids exactly when they do not clash, and a checkout overwrites
a payment opened as some attempt exactly when the two attempts clash. -/
theorem cashfree_order_ids_distinct_iff (n : String) (j : ℕ) :
    (∀ m k, attemptId n j ≠ attemptId m k ↔ ¬ Clash n j m k) ∧
    ∀ (db : OrdersDB) orderId configured gateway order request response,
      db.getOrder orderId = some order →
      (createOrReuseCheckout db orderId configured gateway).request = some request →
      gateway request = .ok response →
      ∀ p ∈ db.payments.rows, OpenedAs p n j →
        (Overwrites (createOrReuseCheckout db orderId configured gateway) p ↔
          Clash n j order.orderNumber (cashfreeAttempts db orderId).length) := by
  refine ⟨fun m k => not_congr (attemptId_eq_iff n j m k), ?_⟩
  intro db orderId configured gateway order request response horder hrequest hresponse p hp hopened
  rw [overwrites_iff horder hrequest hresponse hp, ← attemptId_eq_iff, OpenedAs, hopened.1,
    hopened.2, and_iff_right rfl, Option.some_inj]

end Call

/-- A shop with two order numbers that differ in a hash, and one payment. -/
def twoOrders (paymentStatus : PaymentStatus) : OrdersDB where
  orders := Table.ofList [
    { id := 1, orderNumber := "#AWL7", totalAmount := 500,
      shippingAddress := some { contactPhone := some "9876543210" } },
    { id := 2, orderNumber := "AWL7", totalAmount := 900,
      shippingAddress := some { contactPhone := some "9000000000" } }] (by decide)
  payments := Table.ofList [{
    id := 4, orderId := 1, sourceSystem := some .cashfree, externalId := some "AWL7",
    paymentType := .prepaid, provider := some "cashfree", amount := 500,
    status := paymentStatus }] (by simp [Payment.keys, externalKey])
  payment_order := by simp

/-- A retry after a failed attempt gets an id and a payment of its own. -/
theorem cashfree_order_ids_distinct_retry :
    attemptId "#AWL7" 1 ≠ attemptId "#AWL7" 0 ∧
    ∀ p ∈ (twoOrders .failed).payments.rows,
      ¬ Overwrites (createOrReuseCheckout (twoOrders .failed) 1 true accepting) p := by
  refine ⟨((cashfree_order_ids_distinct_iff "#AWL7" 1).1 "#AWL7" 0).mpr (by decide), ?_⟩
  intro p hp
  obtain rfl := List.mem_singleton.mp hp
  rw [(cashfree_order_ids_distinct_iff "#AWL7" 0).2 (twoOrders .failed) 1 true accepting _ _ _
    rfl rfl rfl _ hp ⟨rfl, by decide⟩]
  decide

/-- The hash is dropped, a hyphen reads like a retry, and the cut meets the attempt: two
orders, an order and another's retry, and a retry and its own first attempt share an id. The
checkout of the second order takes the paid payment of the first one. -/
theorem cashfree_order_ids_collide :
    attemptId "#AWL7" 0 = attemptId "AWL7" 0 ∧
    attemptId "AWL7" 1 = attemptId "AWL7-1" 0 ∧
    attemptId "AYUSHWELLNESS-WHOLESALE-MUMBAI-2024-INVOICE-1" 1 =
      attemptId "AYUSHWELLNESS-WHOLESALE-MUMBAI-2024-INVOICE-1" 0 ∧
    (twoOrders .paid).payments.rows.map (fun p => (p.id, p.orderId, p.status)) =
      [(4, 1, .paid)] ∧
    (createOrReuseCheckout (twoOrders .paid) 2 true accepting).db.payments.rows.map
      (fun p => (p.id, p.orderId, p.status)) = [(4, 2, .pending)] := by
  decide

end AyushOms.Payments
