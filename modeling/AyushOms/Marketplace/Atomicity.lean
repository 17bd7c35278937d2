import AyushOms.Lib.Interleaving
import AyushOms.Marketplace.Effects
import Mathlib.Data.List.Pairwise

/-!
# Both Ledgers Change Together

A call on the product ledger writes one or two movements and their adjustments, and commits
them in one batch; whatever raises on the way, it has then committed nothing and its session
is as it began. Calls that interleave keep to the same discipline, so what is committed is
always a sequence of whole batches, and the unique reversal of a movement lets at most one
of its corrections be committed.

## Main results

- `ProductCall.atomic`: every call on the product ledger is atomic
- `ledgers_change_together`: alone and in every interleaving, whole batches or nothing, and at
  most one correction of a movement
-/

namespace AyushOms.Marketplace

open AyushOms.Lib AyushOms.Inventory

/-! ## Section 1: The calls on the product ledger -/

/-- A call of `PlatformInventoryService` on the product ledger. -/
inductive ProductCall where
  | record (productId : UUID) (platform : String)
      (movementType : ProductMarketplaceMovementType) (quantityPackets : Int)
      (reason : Option String) (stockDate : Option Date) (actor : Option UUID)
      (catalogVariantId : Option UUID) (today : Date) (movementId : UUID)
  | undo (movementId : UUID) (reason : String) (actor : Option UUID) (today : Date)
      (reversalId : UUID)
  | edit (movementId : UUID) (quantityPackets : Int) (reason : String) (actor : Option UUID)
      (today : Date) (reversalId replacementId : UUID)

namespace ProductCall

/-- The method of the service. -/
def program [PyText] : ProductCall → Call ProductMarketplaceMovement
  | record productId platform movementType quantityPackets reason stockDate actor
      catalogVariantId today movementId =>
    recordProductMovement productId platform movementType quantityPackets reason stockDate actor
      catalogVariantId today movementId
  | undo movementId reason actor today reversalId =>
    undoMovement movementId reason actor today reversalId
  | edit movementId quantityPackets reason actor today reversalId replacementId =>
    editMovement movementId quantityPackets reason actor today reversalId replacementId

/-- The movement a call corrects. -/
def corrects : ProductCall → Option UUID
  | record .. => none
  | undo movementId .. | edit movementId .. => some movementId

end ProductCall

/-! ## Section 2: What a batch holds -/

/-- The rows of the product ledger among some writes. -/
def movementsOf (ws : List Row) : List ProductMarketplaceMovement :=
  ws.filterMap fun
    | .productMovement row => some row
    | _ => none

/-- The adjustments among some writes. -/
def adjustmentsOf (ws : List Row) : List CatalogVariantStockAdjustment :=
  ws.filterMap fun
    | .adjustment row => some row
    | _ => none

/-- The two ledgers move together in a batch: every sale or RTO has its adjustment, by the
same amount, and every adjustment its movement. -/
structure Together (batch : List Row) : Prop where
  adjusted : ∀ m ∈ movementsOf batch, m.movementType ≠ .reversal →
    ∃ a ∈ adjustmentsOf batch,
      a.productMarketplaceMovementId = some m.id ∧ a.quantityDelta = m.quantityDelta
  moved : ∀ a ∈ adjustmentsOf batch, ∃ m ∈ movementsOf batch,
    a.productMarketplaceMovementId = some m.id

/-- What a call that returned `m` has written. -/
structure Wrote (call : ProductCall) (m : ProductMarketplaceMovement) (batch : List Row) :
    Prop where
  mem : m ∈ movementsOf batch
  together : Together batch
  corrected : ∀ i ∈ call.corrects, ∃ r ∈ movementsOf batch, r.reversesMovementId = some i

theorem movementsOf_append (ws ws' : List Row) :
    movementsOf (ws ++ ws') = movementsOf ws ++ movementsOf ws' :=
  List.filterMap_append

theorem adjustmentsOf_append (ws ws' : List Row) :
    adjustmentsOf (ws ++ ws') = adjustmentsOf ws ++ adjustmentsOf ws' :=
  List.filterMap_append

theorem Together.append {ws ws' : List Row} (h : Together ws) (h' : Together ws') :
    Together (ws ++ ws') where
  adjusted m hm htype := by
    rw [movementsOf_append, List.mem_append] at hm
    rw [adjustmentsOf_append]
    rcases hm with hm | hm
    · obtain ⟨a, ha, hrest⟩ := h.adjusted m hm htype
      exact ⟨a, List.mem_append_left _ ha, hrest⟩
    · obtain ⟨a, ha, hrest⟩ := h'.adjusted m hm htype
      exact ⟨a, List.mem_append_right _ ha, hrest⟩
  moved a ha := by
    rw [adjustmentsOf_append, List.mem_append] at ha
    rw [movementsOf_append]
    rcases ha with ha | ha
    · obtain ⟨m, hm, hlinked⟩ := h.moved a ha
      exact ⟨m, List.mem_append_left _ hm, hlinked⟩
    · obtain ⟨m, hm, hlinked⟩ := h'.moved a ha
      exact ⟨m, List.mem_append_right _ hm, hlinked⟩

/-- A movement and the adjustment linked to it. A reversal may have any amount: it takes back
what the movement it reverses had recorded. -/
theorem together_linked {m : ProductMarketplaceMovement} {a : CatalogVariantStockAdjustment}
    (hlinked : a.productMarketplaceMovementId = some m.id)
    (hdelta : m.movementType ≠ .reversal → a.quantityDelta = m.quantityDelta)
    (action action' : String) :
    Together ([.productMovement m, .auditLog action] ++ [.adjustment a, .auditLog action']) := by
  refine ⟨fun m' hm' htype => ?_, fun a' ha' => ?_⟩
  · obtain rfl : m' = m := by simpa [movementsOf] using hm'
    exact ⟨a, by simp [adjustmentsOf], hlinked, hdelta htype⟩
  · obtain rfl : a' = a := by simpa [adjustmentsOf] using ha'
    exact ⟨m, by simp [movementsOf], hlinked⟩

/-- Accepted writes append their rows. -/
theorem rows_of_replay {ws : List Row} {db db' : MarketplaceDB}
    (h : Txn.replay Row.insert ws db = .ok db') :
    db'.productMovements.rows = db.productMovements.rows ++ movementsOf ws ∧
      db'.adjustments.rows = db.adjustments.rows ++ adjustmentsOf ws := by
  induction ws generalizing db with
  | nil =>
    cases h
    exact ⟨(List.append_nil _).symm, (List.append_nil _).symm⟩
  | cons w ws ih =>
    cases hw : w.insert db with
    | error e =>
      simp only [Txn.replay, List.foldlM_cons, hw] at h
      cases h
    | ok db₁ =>
      simp only [Txn.replay, List.foldlM_cons, hw] at h
      obtain ⟨hmovements, hadjustments⟩ := ih h
      rw [hmovements, hadjustments]
      cases w with
      | platformMovement row =>
        simp only [Row.insert] at hw
        split at hw <;> cases hw
        exact ⟨rfl, rfl⟩
      | productMovement row =>
        have happends := appends_of_insert_productMovement hw
        rw [happends.movements, happends.adjustments]
        simp [movementsOf, adjustmentsOf]
      | adjustment row =>
        have happends := appends_of_insert_adjustment hw
        rw [happends.movements, happends.adjustments]
        simp [movementsOf, adjustmentsOf]
      | auditLog action =>
        cases hw
        exact ⟨rfl, rfl⟩

/-! ## Section 3: Every call is atomic -/

theorem reads_loadCorrectable (movementId : UUID) :
    Txn.Reads (fun original => original.id = movementId) (loadCorrectable movementId) := by
  refine (Txn.reads_select _).bind fun found hfound =>
    (Txn.reads_orRaise _ _).bind fun original horiginal => (Txn.reads_raiseIf _ _).bind fun _ _ =>
    (Txn.reads_raiseIf _ _).bind fun _ _ => (Txn.reads_select _).bind fun _ _ =>
    (Txn.reads_raiseIf _ _).bind fun _ _ => ?_
  obtain ⟨db, rfl⟩ := hfound
  exact (MarketplaceDB.getMovement_eq_some.mp horiginal).2

theorem reads_latestBalance (key : MarketplaceKey) (asOf : Date) :
    Txn.Reads (fun _ => True) (latestBalance key asOf) :=
  (Txn.reads_select _).bind fun _ _ => True.intro

theorem writes_appendMovement (row : ProductMarketplaceMovement) (previous : Int) :
    Txn.Writes (fun m ws => m = { row with quantityAfter := previous + row.quantityDelta } ∧
        ∃ action, ws = [.productMovement m, .auditLog action])
      (appendMovement row previous) := by
  refine (Txn.writes_flush _).bind fun _ ws hws => (Txn.writes_flush _).bind fun _ ws' hws' => ?_
  subst hws hws'
  exact Txn.writes_ret ⟨rfl, _, rfl⟩

section Calls

variable [PyText]

theorem writes_applyMarketplaceStockEffect (productId : UUID) (quantityDelta : Int)
    (reason : String) (actor : Option UUID) (movementId : UUID)
    (catalogVariantId : Option UUID) (productLevel : Bool) :
    Txn.Writes (fun a ws => a.productMarketplaceMovementId = some movementId ∧
        a.quantityDelta = quantityDelta ∧ ∃ action, ws = [.adjustment a, .auditLog action])
      (applyMarketplaceStockEffect productId quantityDelta reason actor movementId
        catalogVariantId productLevel) := by
  refine (reads_resolveAdjustmentScope _ _ _).writes_bind fun scope _ =>
    (reads_previousTotal scope).writes_bind fun total _ => ?_
  refine (Txn.writes_flush _).bind fun _ ws hws => (Txn.writes_flush _).bind fun _ ws' hws' => ?_
  subst hws hws'
  exact Txn.writes_ret ⟨rfl, rfl, _, rfl⟩

/-- A movement and the adjustment that goes with it. -/
theorem writes_recordedPair (row : ProductMarketplaceMovement) (previous : Int)
    (reason : ProductMarketplaceMovement → String) (productId : UUID) (actor : Option UUID)
    (catalogVariantId : Option UUID) :
    Txn.Writes (fun m ws => m ∈ movementsOf ws ∧ Together ws)
      (do
        let m ← appendMovement row previous
        let _ ← applyMarketplaceStockEffect productId row.quantityDelta (reason m) actor m.id
          catalogVariantId false
        pure m) := by
  refine (writes_appendMovement row previous).bind fun m ws hws => ?_
  refine (writes_applyMarketplaceStockEffect _ _ _ _ _ _ _).bind fun a ws' hws' => ?_
  obtain ⟨hm, action, rfl⟩ := hws
  obtain ⟨hlinked, hdelta, action', rfl⟩ := hws'
  -- the effect is recorded with the amount the movement was given
  have hsame : a.quantityDelta = m.quantityDelta := by rw [hdelta, hm]
  exact Txn.writes_ret ⟨by simp [movementsOf],
    together_linked hlinked (fun _ => hsame) action action'⟩

theorem writes_appendReversal (original : ProductMarketplaceMovement) (reason : String)
    (actor : Option UUID) (stockDate : Date) (previous : Int) (reversalId : UUID) :
    Txn.Writes (fun m ws => m ∈ movementsOf ws ∧ Together ws ∧
        m.reversesMovementId = some original.id)
      (appendReversal original reason actor stockDate previous reversalId) := by
  refine (writes_appendMovement _ previous).bind fun m ws hws =>
    (Txn.reads_select _).writes_bind fun found _ => ?_
  obtain ⟨hm, action, rfl⟩ := hws
  have hkind : m.movementType = .reversal := by rw [hm]
  have hreverses : m.reversesMovementId = some original.id := by rw [hm]
  cases found with
  | none =>
    -- a movement without an effect is reversed without one
    refine Txn.writes_ret ⟨by simp [movementsOf], ⟨?_, ?_⟩, hreverses⟩
    · intro m' hm' htype
      obtain rfl : m' = m := by simpa [movementsOf] using hm'
      exact absurd hkind htype
    · intro a ha
      simp [adjustmentsOf] at ha
  | some effect =>
    refine (writes_applyMarketplaceStockEffect _ _ _ _ _ _ _).bind fun a ws' hws' => ?_
    obtain ⟨hlinked, _, action', rfl⟩ := hws'
    exact Txn.writes_ret ⟨by simp [movementsOf],
      together_linked hlinked (fun htype => absurd hkind htype) action action', hreverses⟩

/-- Every call on the product ledger is atomic: one batch with both ledgers in it, or
nothing. -/
theorem ProductCall.atomic (call : ProductCall) : Txn.Atomic (Wrote call) call.program := by
  cases call with
  | record productId platform movementType quantityPackets reason stockDate actor
      catalogVariantId today movementId =>
    refine (Txn.reads_raiseIf _ _).atomic_bind fun _ _ =>
      (Txn.reads_raiseIf _ _).atomic_bind fun _ _ =>
      (Txn.reads_raiseIf _ _).atomic_bind fun _ _ =>
      (reads_resolveMarketplaceScope _ _).atomic_bind fun scope _ =>
      (Txn.reads_ofExcept _).atomic_bind fun factor _ =>
      (reads_latestBalance _ _).atomic_bind fun previous _ => ?_
    refine Txn.Writes.atomically ?_ id
    exact (writes_recordedPair _ _ _ _ _ _).mono fun m ws hws => ⟨hws.1, hws.2, nofun⟩
  | undo movementId reason actor today reversalId =>
    refine (Txn.reads_raiseIf _ _).atomic_bind fun _ _ =>
      (reads_loadCorrectable movementId).atomic_bind fun original horiginal => ?_
    refine Txn.Writes.atomically ?_ correctionFailure
    refine (reads_latestBalance _ _).writes_bind fun previous _ => ?_
    refine (writes_appendReversal _ _ _ _ _ _).mono fun m ws hws => ?_
    obtain ⟨hmem, htogether, hreverses⟩ := hws
    refine ⟨hmem, htogether, fun i hi => ⟨m, hmem, ?_⟩⟩
    obtain rfl : movementId = i := Option.some.inj hi
    rw [hreverses, horiginal]
  | edit movementId quantityPackets reason actor today reversalId replacementId =>
    refine (Txn.reads_raiseIf _ _).atomic_bind fun _ _ =>
      (Txn.reads_raiseIf _ _).atomic_bind fun _ _ =>
      (reads_loadCorrectable movementId).atomic_bind fun original horiginal =>
      (Txn.reads_raiseIf _ _).atomic_bind fun _ _ =>
      (reads_listVariantsForProduct _).atomic_bind fun variants _ =>
      (Txn.reads_ofExcept _).atomic_bind fun factor _ => ?_
    refine Txn.Writes.atomically ?_ correctionFailure
    refine (reads_latestBalance _ _).writes_bind fun previous _ => ?_
    -- the reversal and the replacement are written before the one commit
    refine (writes_appendReversal _ _ _ _ _ _).bind fun reversal ws hws => ?_
    refine (writes_recordedPair _ _ _ _ _ _).mono fun m ws' hws' => ?_
    obtain ⟨hmem, htogether, hreverses⟩ := hws
    obtain ⟨hmem', htogether'⟩ := hws'
    have hleft : reversal ∈ movementsOf (ws ++ ws') := by
      rw [movementsOf_append]
      exact List.mem_append_left _ hmem
    refine ⟨?_, htogether.append htogether', fun i hi => ⟨reversal, hleft, ?_⟩⟩
    · rw [movementsOf_append]
      exact List.mem_append_right _ hmem'
    · obtain rfl : movementId = i := Option.some.inj hi
      rw [hreverses, horiginal]

/-! ## Section 4: Alone and among other calls -/

/-- The server of the product ledger: calls of the service, one statement of one call at a
time. -/
abbrev MarketplaceServer :=
  Txn.Server ProductCall MarketplaceDB Row Failure ProductMarketplaceMovement

/-- The server after some events, from a database with no call in progress. -/
def serve (db : MarketplaceDB) (events : List (Txn.Event ProductCall Failure)) :
    MarketplaceServer :=
  run (Txn.Server.step Row.insert ProductCall.program) { committed := db } events

/-- Every call of an interleaving keeps to its tree. -/
theorem coherent_serve (db : MarketplaceDB) (events : List (Txn.Event ProductCall Failure)) :
    (serve db events).Coherent Row.insert
      (fun call => Txn.AllOrNothing (Wrote call)) db :=
  Txn.Server.coherent_run (fun call => (ProductCall.atomic call).ensures) db events

/-- Served with nothing in between, a call commits what it commits alone. -/
theorem serve_alone (db : MarketplaceDB) (call : ProductCall) (faults : ℕ → Option Failure) :
    ∃ events, (serve db (.start call :: events)).committed =
      (Txn.run Row.insert call.program (.fresh db faults)).2.committed := by
  obtain ⟨served, _, hcommitted, _⟩ :=
    Txn.Server.undisturbed call.program (serve db [.start call]) 0
      { call := call, program := call.program } (.fresh db faults) rfl rfl rfl rfl
  exact ⟨served.map (.step 0), hcommitted⟩

/-- The committed rows are those of the batches in the log, after those there were. -/
theorem rows_serve (db : MarketplaceDB) (events : List (Txn.Event ProductCall Failure)) :
    (serve db events).committed.productMovements.rows =
        db.productMovements.rows ++ movementsOf ((serve db events).log.flatMap (·.2)) ∧
      (serve db events).committed.adjustments.rows =
        db.adjustments.rows ++ adjustmentsOf ((serve db events).log.flatMap (·.2)) :=
  rows_of_replay (coherent_serve db events).replayed

/-- Two entries of the log never hold reversals of the same movement. -/
theorem eq_of_reverses {db : MarketplaceDB} {events : List (Txn.Event ProductCall Failure)}
    {entry entry' : ℕ × List Row} (hentry : entry ∈ (serve db events).log)
    (hentry' : entry' ∈ (serve db events).log) {r r' : ProductMarketplaceMovement} {i : UUID}
    (hr : r ∈ movementsOf entry.2) (hr' : r' ∈ movementsOf entry'.2)
    (hi : r.reversesMovementId = some i) (hi' : r'.reversesMovementId = some i) :
    entry = entry' := by
  by_contra hne
  -- the keys of the committed rows are distinct, so those of two batches are disjoint
  have hunique := (serve db events).committed.productMovements.unique
  rw [(rows_serve db events).1, List.flatMap_append] at hunique
  have hlog : ((serve db events).log.flatMap fun entry =>
      (movementsOf entry.2).flatMap ProductMarketplaceMovement.keys).Nodup := by
    have hkeys := (List.nodup_append'.mp hunique).2.1
    rwa [movementsOf, List.filterMap_flatMap, List.flatMap_assoc] at hkeys
  have hsymm : Std.Symm (Function.onFun List.Disjoint fun entry : ℕ × List Row =>
      (movementsOf entry.2).flatMap ProductMarketplaceMovement.keys) :=
    ⟨fun _ _ h => List.disjoint_comm.mp h⟩
  have hdisjoint := (List.nodup_flatMap.mp hlog).2.forall hentry hentry' hne
  exact hdisjoint
    (List.mem_flatMap.mpr ⟨r, hr, ProductMarketplaceMovement.mem_keys_reverses.mpr hi⟩)
    (List.mem_flatMap.mpr ⟨r', hr', ProductMarketplaceMovement.mem_keys_reverses.mpr hi'⟩)

/-- Of the calls that correct a movement at most one returns. -/
theorem eq_of_corrects {db : MarketplaceDB} {events : List (Txn.Event ProductCall Failure)}
    {n n' : ℕ} {call call' : ProductCall} {m m' : ProductMarketplaceMovement} {i : UUID}
    (h : (serve db events).Returned n call m) (h' : (serve db events).Returned n' call' m')
    (hi : call.corrects = some i) (hi' : call'.corrects = some i) : n = n' := by
  obtain ⟨batch, hbatch, hwrote⟩ := (coherent_serve db events).returned h
  obtain ⟨batch', hbatch', hwrote'⟩ := (coherent_serve db events).returned h'
  obtain ⟨r, hr, hreverses⟩ := hwrote.corrected i hi
  obtain ⟨r', hr', hreverses'⟩ := hwrote'.corrected i hi'
  have hentry : (n, batch) ∈ (serve db events).log :=
    Txn.Server.mem_log_of_mem_batchesOf (hbatch ▸ List.mem_singleton_self batch)
  have hentry' : (n', batch') ∈ (serve db events).log :=
    Txn.Server.mem_log_of_mem_batchesOf (hbatch' ▸ List.mem_singleton_self batch')
  exact congrArg Prod.fst (eq_of_reverses hentry hentry' hr hr' hreverses hreverses')

/-- Alone, a call on the product ledger that raises at any statement leaves both ledgers as
they were, and one that returns has appended to both what belongs together. Among any other
calls, in any interleaving and with any statements raising, what is committed is what the
calls that returned have written, a call that raised has committed nothing, a movement has at
most one reversal, and of the calls that correct it at most one has returned. -/
theorem ledgers_change_together (db : MarketplaceDB) :
    (∀ (call : ProductCall) (faults : ℕ → Option Failure),
      (∀ e, (Txn.run Row.insert call.program (.fresh db faults)).1 = .error e →
        (Txn.run Row.insert call.program (.fresh db faults)).2.committed = db ∧
        (Txn.run Row.insert call.program (.fresh db faults)).2.working = db) ∧
      (∀ m, (Txn.run Row.insert call.program (.fresh db faults)).1 = .ok m →
        ∃ batch, Wrote call m batch ∧ Txn.replay Row.insert batch db =
          .ok (Txn.run Row.insert call.program (.fresh db faults)).2.committed)) ∧
    (∀ events : List (Txn.Event ProductCall Failure),
      Txn.replay Row.insert ((serve db events).log.flatMap (·.2)) db =
        .ok (serve db events).committed ∧
      (∀ n call e, (serve db events).Raised n call e → (serve db events).batchesOf n = []) ∧
      (∀ n call m, (serve db events).Returned n call m →
        ∃ batch, (serve db events).batchesOf n = [batch] ∧ Wrote call m batch) ∧
      (∀ i, ((serve db events).committed.productMovements.rows.filter fun r =>
        r.reversesMovementId = some i).length ≤ 1) ∧
      (∀ n n' call call' m m' i, (serve db events).Returned n call m →
        (serve db events).Returned n' call' m' → call.corrects = some i →
        call'.corrects = some i → n = n')) := by
  refine ⟨fun call faults => ?_, fun events => ?_⟩
  · rcases (ProductCall.atomic call).run db faults with
      ⟨e, hraised, hcommitted, hworking⟩ | ⟨m, batch, hreturned, hwrote, hreplay, _⟩
    · refine ⟨fun _ _ => ⟨hcommitted, hworking⟩, fun m hm => ?_⟩
      rw [hraised] at hm
      cases hm
    · refine ⟨fun e he => ?_, fun m' hm' => ?_⟩
      · rw [hreturned] at he
        cases he
      · rw [hreturned] at hm'
        cases hm'
        exact ⟨batch, hwrote, hreplay⟩
  · have hcoherent := coherent_serve db events
    refine ⟨hcoherent.replayed, fun n call e h => hcoherent.raised h,
      fun n call m h => hcoherent.returned h, fun i => ?_,
      fun n n' call call' m m' i h h' hi hi' => eq_of_corrects h h' hi hi'⟩
    -- `reverses_movement_id` is unique, whatever interleaves
    exact Table.length_filter_le_one (k := .reverses i) _ fun r hr =>
      ProductMarketplaceMovement.mem_keys_reverses.mpr (of_decide_eq_true hr)

end Calls

end AyushOms.Marketplace
