import AyushOms.Lib.Labels
import AyushOms.Lib.Run
import AyushOms.Shopify.Outcomes

/-!
# The Tags of an Order at Shopify

What the requests of `sync_call_tags` make of the tags an order has at Shopify, when Shopify
adds by union and removes by difference and a request that fails may have arrived in part. A
call names every outcome and channel label: the labels it wants in the half that adds, all
others in the half that removes. So a call whose halves both succeed settles all of them,
whatever the calls before it have left.

## Main results

- `tagRequests_syncCallTags`: the two requests of a call
- `call_tags_follow_latest`: the tags after a call whose halves both succeed
-/

namespace AyushOms.Shopify

open AyushOms.Lib AyushOms.Orders AyushOms.Telecalling

/-! ## Section 1: What Shopify makes of a request -/

/-- The answer to a request about tags. -/
def tagAnswer (registry : Registry) (request : ShopifyRequest) : Except PyException Unit :=
  match registry, request with
  | some adapter, .addTags gid tags => adapter.addOrderTags gid tags
  | some adapter, .removeTags gid tags => adapter.removeOrderTags gid tags
  | _, _ => .ok ()

/-- The tags of a request that arrive: all of them, or when it fails those that got through. -/
def arriving (answer : Except PyException Unit) (through : String → Bool) (tags : List String) :
    Finset String :=
  (tags.filter fun tag => answer.isOk || through tag).toFinset

/-- The tags of one order after a request. -/
def receiveTags (gid : String) (answer : Except PyException Unit) (through : String → Bool)
    (tags : Finset String) : ShopifyRequest → Finset String
  | .addTags g new => if g = gid then tags ∪ arriving answer through new else tags
  | .removeTags g old => if g = gid then tags \ arriving answer through old else tags
  | _ => tags

/-- The tags of one order after the requests of a push. -/
def receiveAll (registry : Registry) (through : ShopifyRequest → String → Bool) (gid : String)
    (tags : Finset String) (requests : List ShopifyRequest) : Finset String :=
  requests.foldl (fun tags r => receiveTags gid (tagAnswer registry r) (through r) tags r) tags

/-- The requests a procedure sends. -/
def requestsOf {ρ : Type} (p : Staged Oms ρ) (w : Oms) : List ShopifyRequest :=
  (p.final w).sent.drop w.sent.length

theorem mem_arriving {answer : Except PyException Unit} {through : String → Bool}
    {tags : List String} {tag : String} :
    tag ∈ arriving answer through tags ↔
      tag ∈ tags ∧ (answer.isOk = true ∨ through tag = true) := by
  simp [arriving]

theorem arriving_of_ok {answer : Except PyException Unit} (h : answer = .ok ())
    (through : String → Bool) (tags : List String) :
    arriving answer through tags = tags.toFinset := by
  simp [arriving, h, Except.isOk, Except.toBool]

/-- A tag the request does not name stays as it is. -/
theorem mem_receiveTags_of_not_mem {gid tag : String} {answer : Except PyException Unit}
    {through : String → Bool} {tags : Finset String} {request : ShopifyRequest}
    (h : ∀ g names, request = .addTags g names ∨ request = .removeTags g names → tag ∉ names) :
    tag ∈ receiveTags gid answer through tags request ↔ tag ∈ tags := by
  cases request with
  | addTags g names =>
    have hnot : tag ∉ names := h g names (.inl rfl)
    by_cases hg : g = gid
    · simp [receiveTags, hg, mem_arriving, hnot]
    · simp [receiveTags, hg]
  | removeTags g names =>
    have hnot : tag ∉ names := h g names (.inr rfl)
    by_cases hg : g = gid
    · simp [receiveTags, hg, mem_arriving, hnot]
    · simp [receiveTags, hg]
  | _ => exact Iff.rfl

/-! ## Section 2: The requests of a call -/

/-- A push of tags: who makes it, how the adapter behaves during it, and which tags of a failed
request get through. -/
structure TagPush where
  registry : Registry
  actor : Option UUID
  session : RequestSession
  through : ShopifyRequest → String → Bool

/-- A call of `sync_call_tags`. -/
structure TagCall extends TagPush where
  outcome : TelecallingStatus

/-- The requests a call sends from the store it finds. -/
def TagCall.requests [PyText] (c : TagCall) (orderId : UUID) (w : Oms) : List ShopifyRequest :=
  requestsOf (syncCallTags c.registry orderId c.outcome c.actor c.session w) w

/-- One call, from the store it finds. -/
def callStep [PyText] (orderId : UUID) (gid : String) (tags : Finset String)
    (e : Oms × TagCall) : Finset String :=
  receiveAll e.2.registry e.2.through gid tags (e.2.requests orderId e.1)

/-- Both halves of the call are sent, and Shopify accepts them. -/
def TagCall.Succeeds [PyText] (c : TagCall) (orderId : UUID) (w : Oms) : Prop :=
  (∃ adapter, c.registry = some adapter) ∧
    ∀ request ∈ c.requests orderId w, tagAnswer c.registry request = .ok ()

section Requests

variable {ρ : Type} {w : Oms}

theorem requestsOf_done (r : ρ) : requestsOf (.done r) w = [] := by
  simp [requestsOf]

/-- A record in the audit log sends nothing. -/
theorem final_auditOnly (actor : Option UUID) (k : RequestSession) (w : Oms) :
    (auditOnly actor k w).final w = w := by
  unfold auditOnly transaction
  by_cases hk : k.CanRead actor
  · simp [hk]
  · simp [hk]

variable [PyText] {orderId : UUID} {outcome : TelecallingStatus} {actor : Option UUID}
  {k : RequestSession}

/-- For an order Shopify knows a call sends its two halves, whatever the first is answered. -/
theorem tagRequests_syncCallTags {adapter : ShopifyAdapter} {o : Order} {id : String}
    (h : shopifyOrder (w.db.orders.getOrder orderId) = some (o, id)) :
    requestsOf (syncCallTags (some adapter) orderId outcome actor k w) w =
      [.addTags (orderGid id) (callTags o outcome).1,
        .removeTags (orderGid id) (callTags o outcome).2] := by
  unfold syncCallTags
  rw [Proc.bind_run, findOrder_run, Staged.andThen_done, Proc.resume_ok, h]
  dsimp only
  rw [getAdapter_run_some, Proc.bind_run, bestEffort_run, Staged.andThen_commit,
    Staged.andThen_done, Proc.resume_ok, Proc.bind_run, bestEffort_run, Staged.andThen_commit,
    Staged.andThen_done, Proc.resume_ok]
  -- whether the audit record is written or not, the store is the one after the second request
  split
  · simp [requestsOf, final_auditOnly]
  · simp [requestsOf, Proc.pure_run]

/-- Any other call sends nothing. -/
theorem tagRequests_syncCallTags_of_not {registry : Registry}
    (h : registry = none ∨ shopifyOrder (w.db.orders.getOrder orderId) = none) :
    requestsOf (syncCallTags registry orderId outcome actor k w) w = [] := by
  unfold syncCallTags
  rw [Proc.bind_run, findOrder_run, Staged.andThen_done, Proc.resume_ok]
  cases ho : shopifyOrder (w.db.orders.getOrder orderId) with
  | none => exact requestsOf_done _
  | some o =>
    obtain rfl : registry = none := h.resolve_right (by simp [ho])
    exact requestsOf_done _

end Requests

/-! ## Section 3: The labels a call names -/

/-- An outcome tag or the label of a channel. -/
def IsCallTag (tag : String) : Prop :=
  tag ∈ outcomeTags.map (·.2) ∨ tag ∈ channelLabels.map (·.2)

theorem nodup_outcomes : (outcomeTags.map (·.1)).Nodup := by decide

theorem nodup_channels : (channelLabels.map (·.1)).Nodup := by decide

theorem nodup_callTags : (channelLabels.map (·.2) ++ outcomeTags.map (·.2)).Nodup := by decide

/-- Every channel has a label. -/
theorem ownLabel_channelLabels (channel : OrderChannel) :
    ownLabel channelLabels channel = [channelTag channel] := by
  cases channel <;> rfl

section CallTags

variable [PyText] (o : Order) (outcome : TelecallingStatus)

/-- A call adds the labels of the channel and the outcome. -/
theorem callTags_fst : (callTags o outcome).1 =
    ownLabel channelLabels (resolveOrderChannel o) ++ ownLabel outcomeTags outcome := by
  rw [ownLabel_channelLabels]
  rfl

/-- It removes the labels of all others. -/
theorem callTags_snd : (callTags o outcome).2 =
    otherLabels channelLabels (resolveOrderChannel o) ++ otherLabels outcomeTags outcome := rfl

/-- What a call names is outcome tags and labels. -/
theorem isCallTag_of_mem_callTags {tag : String}
    (h : tag ∈ (callTags o outcome).1 ∨ tag ∈ (callTags o outcome).2) : IsCallTag tag := by
  rw [callTags_fst, callTags_snd, List.mem_append, List.mem_append] at h
  rcases h with (hlabel | htag) | hlabel | htag
  · exact .inr (List.mem_map_of_mem (f := (·.2)) (mem_of_mem_ownLabel hlabel))
  · exact .inl (List.mem_map_of_mem (f := (·.2)) (mem_of_mem_ownLabel htag))
  · exact .inr (mem_map_of_mem_otherLabels hlabel)
  · exact .inl (mem_map_of_mem_otherLabels htag)

end CallTags

/-! ## Section 4: Runs of calls -/

section Runs

variable [PyText] {orderId : UUID} {gid : String}

/-- The tags a call leaves to others. -/
theorem mem_callStep_of_not_callTag {tag : String} (htag : ¬ IsCallTag tag)
    (tags : Finset String) (e : Oms × TagCall) :
    tag ∈ callStep orderId gid tags e ↔ tag ∈ tags := by
  obtain ⟨w, c⟩ := e
  show tag ∈ receiveAll c.registry c.through gid tags (c.requests orderId w) ↔ tag ∈ tags
  unfold TagCall.requests
  cases ho : shopifyOrder (w.db.orders.getOrder orderId) with
  | none => rw [tagRequests_syncCallTags_of_not (.inr ho)]; rfl
  | some o =>
    obtain ⟨o, id⟩ := o
    cases hregistry : c.registry with
    | none => rw [tagRequests_syncCallTags_of_not (.inl rfl)]; rfl
    | some adapter =>
      rw [tagRequests_syncCallTags ho]
      simp only [receiveAll, List.foldl_cons, List.foldl_nil]
      -- neither half names the tag
      rw [mem_receiveTags_of_not_mem, mem_receiveTags_of_not_mem]
      · intro g names heq hmem
        rcases heq with heq | heq
        · cases heq
          exact htag (isCallTag_of_mem_callTags o c.outcome (.inl hmem))
        · cases heq
      · intro g names heq hmem
        rcases heq with heq | heq
        · cases heq
        · cases heq
          exact htag (isCallTag_of_mem_callTags o c.outcome (.inr hmem))

/-- A call whose halves both succeed settles the outcome and the channel. -/
theorem callStep_of_succeeds {w : Oms} {c : TagCall} {o : Order} {id : String}
    (ho : shopifyOrder (w.db.orders.getOrder orderId) = some (o, id))
    (hok : c.Succeeds orderId w) (tags : Finset String) :
    callStep orderId (orderGid id) tags (w, c) =
      relabel channelLabels (resolveOrderChannel o) outcomeTags c.outcome tags := by
  obtain ⟨⟨adapter, hadapter⟩, hanswers⟩ := hok
  have hrequests : c.requests orderId w = [.addTags (orderGid id) (callTags o c.outcome).1,
      .removeTags (orderGid id) (callTags o c.outcome).2] := by
    unfold TagCall.requests
    rw [hadapter]
    exact tagRequests_syncCallTags ho
  show receiveAll c.registry c.through (orderGid id) tags (c.requests orderId w) = _
  rw [hrequests] at hanswers ⊢
  simp only [receiveAll, List.foldl_cons, List.foldl_nil, receiveTags, if_true]
  rw [arriving_of_ok (hanswers _ (by simp)), arriving_of_ok (hanswers _ (by simp)), callTags_fst,
    callTags_snd]
  rfl

/-- After a call whose halves both succeed the order has the tag of that call's outcome and no
other outcome tag, the label of its channel and no other, and every other tag as at the start:
whatever tags it had, whatever calls came before and however their halves failed. -/
theorem call_tags_follow_latest (orderId : UUID) (tags : Finset String)
    (calls : List (Oms × TagCall)) (w : Oms) (c : TagCall) (o : Order) (id : String)
    (ho : shopifyOrder (w.db.orders.getOrder orderId) = some (o, id))
    (hok : c.Succeeds orderId w) :
    let tags' := run (callStep orderId (orderGid id)) tags (calls ++ [(w, c)])
    (∀ p ∈ outcomeTags, (p.2 ∈ tags' ↔ p.1 = c.outcome)) ∧
      (∀ label ∈ channelLabels, (label.2 ∈ tags' ↔ label.1 = resolveOrderChannel o)) ∧
      ∀ tag, ¬ IsCallTag tag → (tag ∈ tags' ↔ tag ∈ tags) := by
  intro tags'
  have hlast : tags' = relabel channelLabels (resolveOrderChannel o) outcomeTags c.outcome
      (run (callStep orderId (orderGid id)) tags calls) := by
    show run _ tags (calls ++ [(w, c)]) = _
    rw [run_append, run_cons, run_nil, callStep_of_succeeds ho hok]
  have hlabelled : Labelled channelLabels (resolveOrderChannel o) tags' ∧
      Labelled outcomeTags c.outcome tags' := by
    rw [hlast]
    exact labelled_relabel nodup_channels nodup_outcomes nodup_callTags _
  obtain ⟨hchannel, houtcome⟩ := hlabelled
  refine ⟨houtcome, hchannel, fun tag htag => ?_⟩
  -- what one call leaves to others, every run of calls does
  exact run_rel (R := fun before after => tag ∈ after ↔ tag ∈ before) _ (fun _ => Iff.rfl)
    (fun h h' => h'.trans h) (fun s e => mem_callStep_of_not_callTag htag s e) tags _

end Runs

/-- An order that an app has tagged as an Amazon order. -/
def amazonOrder : Order where
  id := 5
  orderNumber := "#1005"
  sourceSystem := some .shopify
  shopifyOrderId := some "4405"
  shopifyTags := some ["amazon"]

def taggedOrder : Oms where
  db := { orders := { orders := Table.ofList [amazonOrder] (by decide) } }

/-- An adapter that answers both halves as given. -/
def answering (answer : Except PyException Unit) : ShopifyAdapter where
  getOpenFulfillmentOrderId := fun _ => .ok none
  createFulfillment := fun _ _ _ => .error (.other "TimeoutError")
  updateFulfillmentTracking := fun _ _ _ => .error (.other "TimeoutError")
  addOrderTags := fun _ _ => answer
  removeOrderTags := fun _ _ => answer
  updateOrderShippingAddress := fun _ _ => answer

/-- A call of the third user whose tags get through, whatever it is answered. -/
def callAnswered (answer : Except PyException Unit) (outcome : TelecallingStatus) : TagCall where
  registry := some (answering answer)
  outcome := outcome
  actor := some 3
  session := .authenticated (some 3)
  through _ _ := true

/-- A call that times out leaves its tag behind; the next one settles the order. -/
theorem call_tags_follow_latest_afterTimeout :
    let tags' := run (callStep 5 (orderGid "4405")) {"amazon", "Interested"}
      ([(taggedOrder, callAnswered (.error (.other "TimeoutError")) .busy)] ++
        [(taggedOrder, callAnswered (.ok ()) .notInterested)])
    "Not Interested" ∈ tags' ∧ "Busy" ∉ tags' ∧ "Interested" ∉ tags' ∧
      "Amazon Order" ∈ tags' ∧ "amazon" ∈ tags' := by
  intro tags'
  obtain ⟨houtcome, hchannel, hother⟩ := call_tags_follow_latest 5 {"amazon", "Interested"}
    [(taggedOrder, callAnswered (.error (.other "TimeoutError")) .busy)] taggedOrder
    (callAnswered (.ok ()) .notInterested) amazonOrder "4405" rfl
    ⟨⟨_, rfl⟩, fun request _ => by cases request <;> rfl⟩
  refine ⟨(houtcome (.notInterested, "Not Interested") (by decide)).mpr rfl, ?_, ?_,
    (hchannel (.amazon, "Amazon Order") (by decide)).mpr (by decide), ?_⟩
  · exact mt (houtcome (.busy, "Busy") (by decide)).mp (by decide)
  · exact mt (houtcome (.interested, "Interested") (by decide)).mp (by decide)
  · exact (hother "amazon" (by simp [IsCallTag, outcomeTags, channelLabels])).mpr (by decide)

end AyushOms.Shopify
