import AyushOms.Shopify.WebhookShapes

/-!
# The Webhook Form and the Pulled Form Agree

An order reaches the normalizer in two forms: a REST payload that is translated first, and the
node a pull fetches. The REST form carries a line's discount and the node its total; each is
derived from the other, in decimal arithmetic of 28 significant digits. While the amounts of a
line fit these digits nothing is rounded, and both forms give the same line and the same tags.

## Main results

- `normalizeTags_joined`: the two encodings of tags
- `lineAmounts_agree`: the two forms of a line
- `webhook_agrees_with_pull`: whole orders
-/

namespace AyushOms.Shopify

open AyushOms.Lib

/-! ## Section 1: Tags -/

section Tags

/-- A list joined with comma and blank, split at the commas: all parts but the first get a
blank. -/
theorem splitOnP_joined (first : List Char) (rest : List (List Char))
    (h : ∀ part ∈ first :: rest, ',' ∉ part) :
    ([',', ' '].intercalate (first :: rest)).splitOnP (· = ',') =
      first :: rest.map (' ' :: ·) := by
  have hletters : ∀ part : List Char, ',' ∉ part → ∀ c ∈ part, decide (c = ',') = false := by
    intro part hpart c hc
    simp only [decide_eq_false_iff_not]
    intro heq
    exact hpart (heq ▸ hc)
  have hfirst := hletters first (h first List.mem_cons_self)
  induction rest generalizing first with
  | nil =>
    rw [List.intercalate_singleton]
    exact List.splitOnP_eq_singleton hfirst
  | cons second rest ih =>
    -- after the comma the join goes on with a blank before the second part
    have hsplit : [',', ' '].intercalate (first :: second :: rest) =
        first ++ ',' :: [',', ' '].intercalate ((' ' :: second) :: rest) := by
      rw [List.intercalate_cons_cons, List.intercalate_cons_cons_left]
      simp
    have hblank : ',' ∉ ' ' :: second := by
      have hsecond := h second (by simp)
      simpa using hsecond
    have hrest := ih (' ' :: second) (by
      intro part hpart
      rcases List.mem_cons.mp hpart with rfl | hpart
      · exact hblank
      · exact h part (by simp [hpart])) (hletters _ hblank)
    rw [hsplit, List.splitOnP_append_cons_of_forall_mem hfirst ',' (by simp), hrest]
    rfl

theorem pyStrip_blank (text : String) :
    pyStrip (String.ofList (' ' :: text.toList)) = pyStrip text := by
  have hblank : pyIsSpace ' ' = true := by decide
  simp only [pyStrip, String.toList_ofList, List.dropWhile_cons, hblank, if_true]

/-- A tag without a comma and without white space around it. -/
def PlainTag (tag : String) : Prop := pyStrip tag = tag ∧ ',' ∉ tag.toList

instance (tag : String) : Decidable (PlainTag tag) := inferInstanceAs (Decidable (_ ∧ _))

/-- Joined or in a list, plain tags are the same tags. -/
theorem normalizeTags_joined [PyRepr] {tags : List String} (h : ∀ tag ∈ tags, PlainTag tag) :
    normalizeTags (.str (", ".intercalate tags)) = normalizeTags (.arr (tags.map .str)) := by
  simp only [normalizeTags, List.filterMap_map]
  cases tags with
  | nil =>
    have hstrip : pyStrip (String.ofList []) = "" := by decide
    simp [List.splitOnP_nil, hstrip, cleanText, pyStr, removeNul, truncate, pyOr, pyFalsy]
  | cons first rest =>
    have hparts : ((", ".intercalate (first :: rest)).toList.splitOnP (· = ',')) =
        first.toList :: (rest.map String.toList).map (' ' :: ·) := by
      rw [String.toList_intercalate, List.map_cons]
      refine splitOnP_joined _ _ fun part hpart => ?_
      rw [← List.map_cons] at hpart
      obtain ⟨tag, htag, rfl⟩ := List.mem_map.mp hpart
      exact (h tag htag).2
    have hfirst : pyStrip (String.ofList first.toList) = first := by
      rw [String.ofList_toList]
      exact (h first List.mem_cons_self).1
    rw [hparts, List.map_map, List.filterMap_cons, List.filterMap_cons, hfirst,
      List.filterMap_map]
    have hrest : ∀ tag ∈ rest, pyStrip (String.ofList (' ' :: tag.toList)) = tag := by
      intro tag htag
      rw [pyStrip_blank]
      exact (h tag (List.mem_cons_of_mem _ htag)).1
    have htail := List.filterMap_congr (l := rest)
      (f := (fun tag => pyOr (cleanText (some 255) (.str (pyStrip (String.ofList tag)))) none) ∘
        ((' ' :: ·) ∘ String.toList))
      (g := (fun tag => pyOr (cleanText (some 255) tag) none) ∘ .str) fun tag htag => by
        simp only [Function.comp_apply, hrest tag htag]
    rw [htail]
    simp only [Function.comp_apply]

end Tags

/-! ## Section 2: The amounts of a line -/

/-- The number has at most the 28 significant digits of the decimal context. -/
def FitsDecimal (x : ℚ) : Prop := ∃ k exponent : ℤ, x = k * 10 ^ exponent ∧ |k| < 10 ^ 28

theorem pyDecimal_of_fits {x : ℚ} (h : FitsDecimal x) : pyDecimal x = x := by
  obtain ⟨k, exponent, hx, hk⟩ := h
  exact Decimal.roundDigits_of_lt hx hk

/-- A line of an order: the discount is at most the price of all units. -/
structure OrderLine where
  price : ℚ
  discount : ℚ
  quantity : ℕ
  price_nonneg : 0 ≤ price
  discount_nonneg : 0 ≤ discount
  discount_le : discount ≤ price * quantity

namespace OrderLine

/-- What the customer pays. -/
def net (line : OrderLine) : ℚ := line.price * line.quantity - line.discount

/-- The price of all units, the discount and the total fit the decimal context. -/
structure Fits (line : OrderLine) : Prop where
  gross : FitsDecimal (line.price * line.quantity)
  discount : FitsDecimal line.discount
  net : FitsDecimal line.net

/-- The quantity, the unit price and the discount, tax and total of a line. -/
def amounts (line : OrderLine) : Int × ℚ × ℚ × ℚ × ℚ :=
  (line.quantity, line.price, line.discount, 0, line.net)

end OrderLine

/-- The same of a normalized line. -/
def lineAmounts (i : NormalizedLineItem) : Int × ℚ × ℚ × ℚ × ℚ :=
  (i.quantity, i.unitPrice, i.discountAmount, i.taxAmount, i.totalAmount)

/-- The amounts the normalizer derives from a quantity, a unit price and a total. -/
def derivedAmounts (quantity : Int) (unitPrice total : ℚ) : Int × ℚ × ℚ × ℚ × ℚ :=
  (quantity, unitPrice, max 0 (pyDecimal (pyDecimal (unitPrice * quantity) - total)), 0,
    pyDecimal (total + 0))

/-- What the translation and the normalizer make of a line. -/
def OrderLine.webhookAmounts (line : OrderLine) : Int × ℚ × ℚ × ℚ × ℚ :=
  derivedAmounts line.quantity line.price
    (afterDiscountTotal line.price line.discount line.quantity)

/-- What the normalizer makes of its node. -/
def OrderLine.pulledAmounts (line : OrderLine) : Int × ℚ × ℚ × ℚ × ℚ :=
  derivedAmounts line.quantity line.price line.net

section Line

variable {line : OrderLine}

/-- A node that fits is normalized to the line's own amounts. -/
theorem pulledAmounts_of_fits (h : line.Fits) : line.pulledAmounts = line.amounts := by
  have hgross : pyDecimal (line.price * ((line.quantity : ℤ) : ℚ)) =
      line.price * line.quantity := by
    rw [Int.cast_natCast]
    exact pyDecimal_of_fits h.gross
  have hdiscount : line.price * line.quantity - line.net = line.discount := by
    unfold OrderLine.net
    ring
  unfold OrderLine.pulledAmounts derivedAmounts
  rw [hgross, hdiscount, pyDecimal_of_fits h.discount, max_eq_right line.discount_nonneg,
    add_zero, pyDecimal_of_fits h.net]
  rfl

/-- The total the translation computes is that of the line. -/
theorem afterDiscountTotal_of_fits (h : line.Fits) :
    afterDiscountTotal line.price line.discount line.quantity = line.net := by
  have hgross : pyDecimal (line.price * ((line.quantity : ℤ) : ℚ)) =
      line.price * line.quantity := by
    rw [Int.cast_natCast]
    exact pyDecimal_of_fits h.gross
  have hnet : pyDecimal (line.price * line.quantity - line.discount) = line.net :=
    pyDecimal_of_fits h.net
  unfold afterDiscountTotal
  rw [hgross, hnet]
  exact max_eq_right (sub_nonneg.mpr line.discount_le)

theorem webhookAmounts_of_fits (h : line.Fits) : line.webhookAmounts = line.amounts := by
  rw [← pulledAmounts_of_fits h, OrderLine.webhookAmounts, afterDiscountTotal_of_fits h]
  rfl

end Line

theorem quantityOf_orElse (value : Json) :
    quantityOf (value.orElse (.int 0)) = quantityOf value := by
  unfold Json.orElse
  by_cases h : value.truthy
  · rw [if_pos h]
  · have hzero : quantityOf value = .ok 0 := if_neg h
    rw [if_neg h, hzero]
    rfl

/-! ## Section 3: The two forms of a line -/

section Lines

variable [PyRepr] [DecimalText] {line : OrderLine}

/-- The line in its REST form. -/
structure RestLine (raw : Dict) (line : OrderLine) : Prop where
  quantity : quantityOf (raw.get "quantity") = .ok line.quantity
  price : decimalOf (raw.get "price") = line.price
  discount : decimalOf (raw.get "total_discount") = line.discount

/-- The line as a node: it carries the total after the discount. -/
structure NodeLine (node : Dict) (line : OrderLine) : Prop where
  quantity : quantityOf (node.get "quantity") = .ok line.quantity
  price : money (node.get "originalUnitPriceSet") = .ok line.price
  total : money (node.get "discountedTotalSet") = .ok line.net

/-- What `_money` reads from what `_amount` builds. -/
theorem money_amount (value : Json) : money (amount value) = .ok (decimalOf value) := by
  cases value <;> rfl

/-- The amounts of a normalized line follow from what is read of it. -/
theorem lineAmounts_of_normalizeLineItem {raw : Dict} {i : NormalizedLineItem}
    {quantity : Int} {unitPrice total : ℚ} (h : normalizeLineItem raw = .ok i)
    (hquantity : quantityOf (raw.get "quantity") = .ok quantity)
    (hprice : money (raw.get "originalUnitPriceSet") = .ok unitPrice)
    (htotal : money (raw.get "discountedTotalSet") = .ok total) :
    lineAmounts i = derivedAmounts quantity unitPrice total := by
  simp only [normalizeLineItem, bind_eq_ok, pure_eq_ok, hquantity, hprice, htotal,
    Except.ok.injEq] at h
  obtain ⟨_, rfl, _, rfl, _, rfl, variant, -, rfl⟩ := h
  rfl

/-- A translated line. -/
theorem lineAmounts_of_webhook {raw shape : Dict} {i : NormalizedLineItem} {quantity : Int}
    (hquantity : quantityOf (raw.get "quantity") = .ok quantity)
    (hshape : orderLineItemToGraphqlShape raw = .ok shape) (h : normalizeLineItem shape = .ok i) :
    lineAmounts i = derivedAmounts quantity (decimalOf (raw.get "price"))
      (afterDiscountTotal (decimalOf (raw.get "price")) (decimalOf (raw.get "total_discount"))
        quantity) := by
  simp only [orderLineItemToGraphqlShape, bind_eq_ok, pure_eq_ok, hquantity,
    Except.ok.injEq] at hshape
  obtain ⟨_, rfl, rfl⟩ := hshape
  refine lineAmounts_of_normalizeLineItem h ?_ ?_ ?_
  · exact (quantityOf_orElse _).trans hquantity
  · exact money_amount (raw.get "price")
  · exact money_amount (.decimal (afterDiscountTotal (decimalOf (raw.get "price"))
      (decimalOf (raw.get "total_discount")) quantity))

theorem RestLine.lineAmounts_eq {raw shape : Dict} {i : NormalizedLineItem}
    (h : RestLine raw line) (hshape : orderLineItemToGraphqlShape raw = .ok shape)
    (hi : normalizeLineItem shape = .ok i) : lineAmounts i = line.webhookAmounts := by
  rw [lineAmounts_of_webhook h.quantity hshape hi, h.price, h.discount]
  rfl

theorem NodeLine.lineAmounts_eq {node : Dict} {i : NormalizedLineItem} (h : NodeLine node line)
    (hi : normalizeLineItem node = .ok i) : lineAmounts i = line.pulledAmounts :=
  lineAmounts_of_normalizeLineItem hi h.quantity h.price h.total

end Lines

/-! ## Section 4: The two forms of an order -/

/-- An order of the store, as far as both forms carry it for each line. -/
structure StoreOrder where
  lines : List OrderLine
  tags : List String
  plain : ∀ tag ∈ tags, PlainTag tag

theorem listOr_arr (values : List Json) : (Json.arr values).listOr = .ok values := by
  cases values <;> rfl

/-- The nodes of a connection that has been built are read back. -/
theorem mapM_edges (nodes : List Dict) :
    (nodes.map fun node => Json.obj [("node", .obj node)]).mapM (fun edge => do
      (← Dict.item (← edge.dict) "node").dict) = (.ok nodes : Except PyException (List Dict)) := by
  induction nodes with
  | nil => rfl
  | cons node nodes ih =>
    rw [List.map_cons, List.mapM_cons, ih]
    rfl

/-- Items that are read from forms of the lines have the amounts these forms give. -/
theorem map_lineAmounts {α : Type} {R : α → OrderLine → Prop}
    {read : α → NormalizedLineItem → Prop} {f : OrderLine → Int × ℚ × ℚ × ℚ × ℚ} {as : List α}
    {lines : List OrderLine} {items : List NormalizedLineItem}
    (hlines : List.Forall₂ R as lines) (hitems : List.Forall₂ read as items)
    (h : ∀ a line i, R a line → read a i → lineAmounts i = f line) :
    items.map lineAmounts = lines.map f := by
  induction hlines generalizing items with
  | nil =>
    cases hitems
    rfl
  | cons hline _ ih =>
    cases hitems with
    | cons hitem hrest => rw [List.map_cons, List.map_cons, h _ _ _ hline hitem, ih hrest]

section Orders

variable [PyText] [PyRepr] [DecimalText]

/-- The webhook's payload of the order. -/
def RestForm (raw : Dict) (o : StoreOrder) : Prop :=
  (∃ items, (raw.get "line_items").listOr = .ok (items.map .obj) ∧
    List.Forall₂ RestLine items o.lines) ∧
  raw.get "tags" = .str (", ".intercalate o.tags)

/-- The node of the order. -/
def NodeForm (node : Dict) (o : StoreOrder) : Prop :=
  (∃ nodes, nodesOf node "lineItems" = .ok nodes ∧ List.Forall₂ NodeLine nodes o.lines) ∧
  node.get "tags" = .arr (o.tags.map .str)

/-- The translation keeps the tags, and has one node for each line item. -/
theorem orderWebhookToGraphqlShape_spec {raw shape : Dict} {items : List Dict}
    (h : orderWebhookToGraphqlShape raw = .ok shape)
    (hitems : (raw.get "line_items").listOr = .ok (items.map .obj)) :
    shape.get "tags" = raw.get "tags" ∧ ∃ nodes, nodesOf shape "lineItems" = .ok nodes ∧
      List.Forall₂ (fun item node => orderLineItemToGraphqlShape item = .ok node) items nodes := by
  simp only [orderWebhookToGraphqlShape, bind_eq_ok, pure_eq_ok, hitems, Except.ok.injEq] at h
  obtain ⟨_, -, _, rfl, _, -, _, -, _, -, _, -, _, -, _, -, nodes, hnodes, _, -, _, -, rfl⟩ := h
  refine ⟨rfl, nodes, ?_, ?_⟩
  · show (do
      (← (Json.arr (nodes.map fun node => Json.obj [("node", .obj node)])).listOr).mapM
        fun edge => do (← Dict.item (← edge.dict) "node").dict) = Except.ok nodes
    rw [listOr_arr]
    exact mapM_edges nodes
  · exact List.forall₂_map_left_iff.mp (forall₂_of_mapM_eq_ok hnodes)

/-- The tags and the items of a normalized order. -/
theorem normalizeOrder_spec [IsoFormat] {raw : Dict} {a : NormalizedOrder} {nodes : List Dict}
    (h : normalizeOrder raw = .ok a) (hnodes : nodesOf raw "lineItems" = .ok nodes) :
    a.shopifyTags = normalizeTags (raw.get "tags") ∧
      List.Forall₂ (fun node i => normalizeLineItem node = .ok i) nodes a.items := by
  simp only [normalizeOrder, bind_eq_ok, pure_eq_ok, hnodes, Except.ok.injEq] at h
  obtain ⟨_, -, _, rfl, items, hitems, h⟩ := h
  obtain ⟨_, -, _, -, _, -, _, -, _, -, _, -, _, -, _, -, _, -, _, -, _, -, _, -, _, -, _, -,
    rfl⟩ := h
  exact ⟨rfl, forall₂_of_mapM_eq_ok hitems⟩

/-- What the webhook's form of an order is normalized to. -/
theorem normalizeOrder_webhook [IsoFormat] {o : StoreOrder} {raw shape : Dict}
    {a : NormalizedOrder} (hrest : RestForm raw o)
    (hshape : orderWebhookToGraphqlShape raw = .ok shape) (ha : normalizeOrder shape = .ok a) :
    a.shopifyTags = normalizeTags (.arr (o.tags.map .str)) ∧
      a.items.map lineAmounts = o.lines.map OrderLine.webhookAmounts := by
  obtain ⟨⟨items, hitems, hlines⟩, htags⟩ := hrest
  obtain ⟨hshapeTags, shapes, hshapes, htranslated⟩ :=
    orderWebhookToGraphqlShape_spec hshape hitems
  obtain ⟨hatags, haitems⟩ := normalizeOrder_spec ha hshapes
  refine ⟨by rw [hatags, hshapeTags, htags, normalizeTags_joined o.plain], ?_⟩
  refine map_lineAmounts hlines (forall₂_trans htranslated haitems)
    fun item line i hline hread => ?_
  obtain ⟨translated, htranslate, hi⟩ := hread
  exact hline.lineAmounts_eq htranslate hi

/-- What the pulled form is normalized to. -/
theorem normalizeOrder_pulled [IsoFormat] {o : StoreOrder} {node : Dict} {b : NormalizedOrder}
    (hnode : NodeForm node o) (hb : normalizeOrder node = .ok b) :
    b.shopifyTags = normalizeTags (.arr (o.tags.map .str)) ∧
      b.items.map lineAmounts = o.lines.map OrderLine.pulledAmounts := by
  obtain ⟨⟨nodes, hnodes, hlines⟩, htags⟩ := hnode
  obtain ⟨hbtags, hbitems⟩ := normalizeOrder_spec hb hnodes
  refine ⟨by rw [hbtags, htags], ?_⟩
  exact map_lineAmounts hlines hbitems fun _ _ _ hline hi => hline.lineAmounts_eq hi

/-- The webhook's form of an order and the pulled one are normalized to the same tags and the same
line amounts, as long as every line fits the decimal context: what the customer pays and the
discount make up the price of all units, and the discount is between nothing and that price. -/
theorem webhook_agrees_with_pull [IsoFormat] (o : StoreOrder) (hfits : ∀ line ∈ o.lines, line.Fits)
    {raw node shape : Dict} (hrest : RestForm raw o) (hnode : NodeForm node o)
    (hshape : orderWebhookToGraphqlShape raw = .ok shape) {a b : NormalizedOrder}
    (ha : normalizeOrder shape = .ok a) (hb : normalizeOrder node = .ok b) :
    a.shopifyTags = b.shopifyTags ∧ a.items.map lineAmounts = b.items.map lineAmounts ∧
      ∀ i ∈ a.items, i.discountAmount + i.totalAmount = i.unitPrice * i.quantity ∧
        0 ≤ i.discountAmount ∧ i.discountAmount ≤ i.unitPrice * i.quantity := by
  obtain ⟨hatags, haitems⟩ := normalizeOrder_webhook hrest hshape ha
  obtain ⟨hbtags, hbitems⟩ := normalizeOrder_pulled hnode hb
  have hwebhook : a.items.map lineAmounts = o.lines.map OrderLine.amounts :=
    haitems.trans (List.map_congr_left fun line hline => webhookAmounts_of_fits (hfits line hline))
  have hpull : b.items.map lineAmounts = o.lines.map OrderLine.amounts :=
    hbitems.trans (List.map_congr_left fun line hline => pulledAmounts_of_fits (hfits line hline))
  refine ⟨hatags.trans hbtags.symm, hwebhook.trans hpull.symm, fun i hi => ?_⟩
  have hmem : lineAmounts i ∈ o.lines.map OrderLine.amounts := by
    rw [← hwebhook]
    exact List.mem_map_of_mem hi
  obtain ⟨line, -, hline⟩ := List.mem_map.mp hmem
  simp only [lineAmounts, OrderLine.amounts, Prod.mk.injEq] at hline
  obtain ⟨hquantity, hprice, hdiscount, -, htotal⟩ := hline
  rw [← hquantity, ← hprice, ← hdiscount, ← htotal, Int.cast_natCast]
  refine ⟨?_, line.discount_nonneg, line.discount_le⟩
  unfold OrderLine.net
  ring

end Orders

/-! ## Section 5: Two orders -/

/-- The webhook's payload of an order with one line and two tags. -/
def restPayload (price discount : String) (quantity : ℕ) : Dict :=
  [("line_items", .arr [.obj [("price", .str price), ("quantity", .int quantity),
      ("total_discount", .str discount)]]),
    ("tags", .str (", ".intercalate ["VIP", "COD"]))]

/-- Its node. -/
def pulledNode (price total : String) (quantity : ℕ) : Dict :=
  [("lineItems", .obj [("edges", .arr [.obj [("node", .obj [("quantity", .int quantity),
      ("originalUnitPriceSet", amount (.str price)),
      ("discountedTotalSet", amount (.str total))])]])]),
    ("tags", .arr (["VIP", "COD"].map .str))]

theorem plainTags : ∀ tag ∈ ["VIP", "COD"], PlainTag tag := by
  decide

/-- The order both describe. -/
def oneLine (line : OrderLine) : StoreOrder where
  lines := [line]
  tags := ["VIP", "COD"]
  plain := plainTags

/-- Both are forms of the order when they carry its numbers. -/
theorem forms_of_oneLine {line : OrderLine} {price discount total : String}
    (hprice : DecimalText.parse price = some line.price)
    (hdiscount : DecimalText.parse discount = some line.discount)
    (htotal : DecimalText.parse total = some line.net) :
    RestForm (restPayload price discount line.quantity) (oneLine line) ∧
      NodeForm (pulledNode price total line.quantity) (oneLine line) := by
  have hread : ∀ {text : String} {x : ℚ}, DecimalText.parse text = some x →
      decimalOf (.str text) = x := by
    intro text x h
    show (DecimalText.parse text).getD 0 = x
    rw [h]
    rfl
  have hquantity : quantityOf (.int line.quantity) = .ok line.quantity := by
    unfold quantityOf
    by_cases h : (Json.int line.quantity).truthy
    · rw [if_pos h]
    · have hzero : (line.quantity : Int) = 0 := by simpa [Json.truthy] using h
      rw [if_neg h, hzero]
  refine ⟨⟨⟨[_], rfl, .cons ⟨hquantity, hread hprice, hread hdiscount⟩ .nil⟩, rfl⟩,
    ⟨⟨[_], rfl, .cons ⟨hquantity, ?_, ?_⟩ .nil⟩, rfl⟩⟩
  · exact (money_amount _).trans (congrArg _ (hread hprice))
  · exact (money_amount _).trans (congrArg _ (hread htotal))

theorem hundred_le : (100 : ℚ) ≤ 500 * (2 : ℕ) := by norm_num

/-- Two pieces at 500, with a discount of 100. -/
def ordinaryLine : OrderLine where
  price := 500
  discount := 100
  quantity := 2
  price_nonneg := Nat.cast_nonneg 500
  discount_nonneg := Nat.cast_nonneg 100
  discount_le := hundred_le

/-- Its forms agree. -/
theorem webhook_agrees_with_pull_ordinary :
    ∃ shape a b, orderWebhookToGraphqlShape (restPayload "500" "100" 2) = .ok shape ∧
      normalizeOrder shape = .ok a ∧ normalizeOrder (pulledNode "500" "900" 2) = .ok b ∧
      a.shopifyTags = b.shopifyTags ∧ a.items.map lineAmounts = b.items.map lineAmounts := by
  have hparse : ∀ {text : String} {n : ℕ}, DecimalText.parse text =
      some (1 * (n : ℚ) / 10 ^ 0) → DecimalText.parse text = some (n : ℚ) := by
    intro text n h
    rw [h]
    norm_num
  have hnet : ordinaryLine.net = ((900 : ℕ) : ℚ) := by
    unfold OrderLine.net ordinaryLine
    norm_num
  have htotal : DecimalText.parse "900" = some ordinaryLine.net := by
    rw [hnet]
    exact hparse rfl
  have hprice : DecimalText.parse "500" = some ordinaryLine.price := hparse rfl
  have hdiscount : DecimalText.parse "100" = some ordinaryLine.discount := hparse rfl
  obtain ⟨hrest, hnode⟩ := forms_of_oneLine hprice hdiscount htotal
  have hfits : ordinaryLine.Fits := by
    refine ⟨⟨1000, 0, ?_, by norm_num⟩, ⟨100, 0, ?_, by norm_num⟩, ⟨900, 0, ?_, by norm_num⟩⟩
    · unfold ordinaryLine
      norm_num
    · unfold ordinaryLine
      norm_num
    · rw [hnet]
      norm_num
  have hlines : ∀ line ∈ (oneLine ordinaryLine).lines, line.Fits := by
    intro line hline
    rw [List.mem_singleton.mp hline]
    exact hfits
  obtain ⟨htags, hitems, -⟩ := webhook_agrees_with_pull (oneLine ordinaryLine) hlines hrest hnode
    rfl rfl rfl
  exact ⟨_, _, _, rfl, rfl, rfl, htags, hitems⟩

/-- A price of 29 significant digits. -/
def longPrice : ℚ := 10 ^ 28 + 9

theorem log_longPrice : Int.log 10 |longPrice| = 28 := by
  have hpos : (0 : ℚ) < longPrice := by
    unfold longPrice
    norm_num
  rw [abs_of_pos hpos]
  refine le_antisymm ?_ ?_
  · refine Int.lt_add_one_iff.mp ((Int.lt_zpow_iff_log_lt (by norm_num) hpos).mp ?_)
    unfold longPrice
    norm_num
  · refine (Int.zpow_le_iff_le_log (by norm_num) hpos).mp ?_
    unfold longPrice
    norm_num

/-- It is rounded to 28 digits. -/
theorem pyDecimal_longPrice : pyDecimal longPrice = longPrice + 1 := by
  have hexponent : Int.log 10 |longPrice| + 1 - (28 : ℕ) = 1 := by
    rw [log_longPrice]
    norm_num
  have hfloor : ⌊longPrice / 10 ^ (1 : ℤ)⌋ = 10 ^ 27 := by
    rw [Int.floor_eq_iff]
    unfold longPrice
    norm_num
  have hround : Decimal.roundHalfEven (longPrice / 10 ^ (1 : ℤ)) = 10 ^ 27 + 1 := by
    unfold Decimal.roundHalfEven
    have hfract : Int.fract (longPrice / 10 ^ (1 : ℤ)) = 9 / 10 := by
      rw [Int.fract, hfloor]
      unfold longPrice
      norm_num
    rw [hfract, hfloor]
    norm_num
  rw [pyDecimal, Decimal.roundDigits, hexponent, Decimal.roundTo, hround]
  unfold longPrice
  norm_num

theorem longPrice_nonneg : 0 ≤ longPrice := by
  unfold longPrice
  norm_num

theorem longPrice_le : 0 ≤ longPrice * (1 : ℕ) := by
  rw [Nat.cast_one, mul_one]
  exact longPrice_nonneg

/-- One piece at that price. -/
def longLine : OrderLine where
  price := longPrice
  discount := 0
  quantity := 1
  price_nonneg := longPrice_nonneg
  discount_nonneg := le_refl 0
  discount_le := longPrice_le

/-- The rounded price has 28 digits. -/
theorem fits_longPrice : FitsDecimal (longPrice + 1) := by
  refine ⟨10 ^ 27 + 1, 1, ?_, by norm_num⟩
  unfold longPrice
  norm_num

theorem net_longLine : longLine.net = longPrice := by
  unfold OrderLine.net longLine
  norm_num

/-- The price of all units is rounded once more than the total the node carries. -/
theorem discount_pulled_long : longLine.pulledAmounts.2.2.1 = 1 := by
  have hone : FitsDecimal 1 := ⟨1, 0, by norm_num, by norm_num⟩
  have hgross : longLine.price * ((longLine.quantity : ℤ) : ℚ) = longPrice := by
    unfold longLine
    norm_num
  have hdifference : longPrice + 1 - longPrice = 1 := by ring
  show max 0 (pyDecimal (pyDecimal (longLine.price * ((longLine.quantity : ℤ) : ℚ)) -
    longLine.net)) = 1
  rw [hgross, net_longLine, pyDecimal_longPrice, hdifference, pyDecimal_of_fits hone]
  exact max_eq_right zero_le_one

/-- The total the translation computes is rounded as the price is. -/
theorem discount_webhook_long : longLine.webhookAmounts.2.2.1 = 0 := by
  have hzero : FitsDecimal 0 := ⟨0, 0, by norm_num, by norm_num⟩
  have hgross : longLine.price * ((longLine.quantity : ℤ) : ℚ) = longPrice := by
    unfold longLine
    norm_num
  have htotal : afterDiscountTotal longLine.price longLine.discount longLine.quantity =
      longPrice + 1 := by
    have hnonneg : 0 ≤ longPrice + 1 := add_nonneg longPrice_nonneg zero_le_one
    have hdiscount : longPrice + 1 - longLine.discount = longPrice + 1 := sub_zero _
    unfold afterDiscountTotal
    rw [hgross, pyDecimal_longPrice, hdiscount, pyDecimal_of_fits fits_longPrice]
    exact max_eq_right hnonneg
  show max 0 (pyDecimal (pyDecimal (longLine.price * ((longLine.quantity : ℤ) : ℚ)) -
    afterDiscountTotal longLine.price longLine.discount longLine.quantity)) = 0
  rw [hgross, htotal, pyDecimal_longPrice, sub_self, pyDecimal_of_fits hzero, max_self]

/-- Its forms do not: the pulled one shows a discount. -/
theorem long_price_disagrees :
    ∃ raw node shape a b, RestForm raw (oneLine longLine) ∧ NodeForm node (oneLine longLine) ∧
      orderWebhookToGraphqlShape raw = .ok shape ∧ normalizeOrder shape = .ok a ∧
      normalizeOrder node = .ok b ∧ a.items.map lineAmounts ≠ b.items.map lineAmounts := by
  have hprice : DecimalText.parse "10000000000000000000000000009" = some longLine.price := by
    have h : DecimalText.parse "10000000000000000000000000009" =
      some (1 * ((10000000000000000000000000009 : ℕ) : ℚ) / 10 ^ 0) := rfl
    rw [h]
    unfold longLine longPrice
    norm_num
  have hdiscount : DecimalText.parse "0" = some longLine.discount := by
    have h : DecimalText.parse "0" = some (1 * ((0 : ℕ) : ℚ) / 10 ^ 0) := rfl
    rw [h]
    unfold longLine
    norm_num
  have hnet : longLine.net = longLine.price := net_longLine
  obtain ⟨hrest, hnode⟩ := forms_of_oneLine hprice hdiscount (hnet ▸ hprice)
  refine ⟨_, _, _, _, _, hrest, hnode, rfl, rfl, rfl, ?_⟩
  rw [(normalizeOrder_webhook hrest rfl rfl).2, (normalizeOrder_pulled hnode rfl).2]
  intro hsame
  have hamounts : longLine.webhookAmounts = longLine.pulledAmounts := (List.cons.inj hsame).1
  have hdiscounts := congrArg (fun amounts => amounts.2.2.1) hamounts
  rw [discount_webhook_long, discount_pulled_long] at hdiscounts
  exact zero_ne_one hdiscounts

end AyushOms.Shopify
