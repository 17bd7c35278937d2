import AyushOms.Sync.Service
import Mathlib.Data.List.Sort
import Mathlib.Data.Prod.Lex

/-!
# Paging in Update Order

What a provider's pages promise to the loop of `_run_entity_sync`. The Shopify queries ask
for `sortKey: UPDATED_AT`, so a cursor stands for a position in update order and a page
followed by its cursor leaves out no record that lies ahead.

## Main results

- `shopifyAdapter_pagesChanges`: the Shopify adapter keeps the promise when the connection it
  queries answers in update order.
- `serve_answersInUpdateOrder`: a server that sorts, filters and cuts its records does.
-/

namespace AyushOms.Sync

/-! ## Section 1: What a page covers -/

section Position

variable {κ : Type*} (position : κ → Int ×ₗ ℕ)

/-- The version lies beyond the cursor, when there is one. -/
def Ahead (cursor : Option κ) (v : RecordVersion) : Prop :=
  ∀ c, cursor = some c → position c < v.key

@[simp] theorem ahead_none (v : RecordVersion) : Ahead position none v :=
  fun _ h => absurd h (by simp)

/-- The page is not the last one, and the version lies beyond its cursor. -/
def FetchPage.LeavesAhead (page : FetchPage κ) (v : RecordVersion) : Prop :=
  page.hasMore = true ∧ ∃ c, page.nextCursor = some c ∧ position c < v.key

/-- The page holds the version or leaves it to the pages after it. -/
def FetchPage.Covers (page : FetchPage κ) (v : RecordVersion) : Prop :=
  v ∈ page.nodes ∨ page.LeavesAhead position v

variable {position} in
/-- What lies beyond a page that has a successor lies beyond the cursor it hands on. -/
theorem FetchPage.LeavesAhead.ahead {page : FetchPage κ} {v : RecordVersion}
    (h : page.LeavesAhead position v) : Ahead position page.nextCursor v := by
  obtain ⟨_, c, hc, hlt⟩ := h
  intro c' hc'
  rw [hc, Option.some.injEq] at hc'
  exact hc' ▸ hlt

/-- The promise of `IntegrationAdapter`: a page covers every record beyond its cursor, an
incremental page those of them that changed since. -/
structure PagesChanges (adapter : IntegrationAdapter κ) : Prop where
  fetch_covers : ∀ {records cursor limit v}, 0 < limit →
    (records.map RecordVersion.id).Nodup → v ∈ records → Ahead position cursor v →
    (adapter.fetch records cursor limit).Covers position v
  fetchIncremental_covers : ∀ {records since cursor limit v}, 0 < limit →
    (records.map RecordVersion.id).Nodup → v ∈ records → Ahead position cursor v →
    since < v.updatedAt →
    (adapter.fetchIncremental records since cursor limit).Covers position v

/-! ## Section 2: The Shopify adapter -/

/-- `sortKey: UPDATED_AT`: an answer holds every matching record beyond `after`, up to the
cursor it ends with. -/
def AnswersInUpdateOrder (execute : List RecordVersion → Variables κ → Connection κ) : Prop :=
  ∀ records vars, 0 < vars.first → (records.map RecordVersion.id).Nodup →
    ∀ v ∈ records, Ahead position vars.after v →
    (∀ since, vars.updatedAfter = some since → since < v.updatedAt) →
    v ∈ (execute records vars).nodes ∨ ((execute records vars).hasNextPage = true ∧
      ∃ c, (execute records vars).endCursor = some c ∧ position c < v.key)

variable {position} in
/-- `_fetch_page` passes on what the connection covers: it drops the cursor of the last page
only. -/
theorem shopifyFetchPage_covers {execute : List RecordVersion → Variables κ → Connection κ}
    (hexec : AnswersInUpdateOrder position execute) {records : List RecordVersion}
    {cursor : Option κ} {limit : ℕ} {queryFilter : Option Instant} {v : RecordVersion}
    (hlimit : 0 < limit) (hids : (records.map RecordVersion.id).Nodup) (hv : v ∈ records)
    (hahead : Ahead position cursor v)
    (hfilter : ∀ since, queryFilter = some since → since < v.updatedAt) :
    (shopifyFetchPage execute records cursor limit queryFilter).Covers position v := by
  rcases hexec records ⟨limit, cursor, queryFilter⟩ hlimit hids v hv hahead hfilter with
    hnode | ⟨hmore, c, hc, hlt⟩
  · exact Or.inl hnode
  · exact Or.inr ⟨hmore, c, by simp only [shopifyFetchPage, hmore, if_true, hc], hlt⟩

/-- The Shopify adapter keeps the promise of its interface. -/
theorem shopifyAdapter_pagesChanges
    {execute : List RecordVersion → Variables κ → Connection κ}
    (hexec : AnswersInUpdateOrder position execute) :
    PagesChanges position (shopifyAdapter execute) where
  fetch_covers hlimit hids hv hahead :=
    shopifyFetchPage_covers hexec hlimit hids hv hahead fun _ h => absurd h (by simp)
  fetchIncremental_covers hlimit hids hv hahead hsince :=
    shopifyFetchPage_covers hexec hlimit hids hv hahead fun since h => by
      rw [Option.some.injEq] at h
      exact h ▸ hsince

end Position

/-! ## Section 3: A server -/

/-- The records that answer a query, in update order. -/
def matching (records : List RecordVersion) (vars : Variables (Int ×ₗ ℕ)) :
    List RecordVersion :=
  (records.filter fun v => vars.after.all (fun c => decide (c < v.key)) &&
    vars.updatedAfter.all fun since => decide (since < v.updatedAt)).insertionSort
    fun v v' => v.key ≤ v'.key

/-- A connection whose cursors are the keys of its records. -/
def serve (records : List RecordVersion) (vars : Variables (Int ×ₗ ℕ)) :
    Connection (Int ×ₗ ℕ) :=
  let nodes := (matching records vars).take vars.first
  { nodes := nodes
    hasNextPage := decide (vars.first < (matching records vars).length)
    endCursor := nodes.getLast?.map RecordVersion.key }

theorem mem_matching {records : List RecordVersion} {vars : Variables (Int ×ₗ ℕ)}
    {v : RecordVersion} : v ∈ matching records vars ↔ v ∈ records ∧ Ahead id vars.after v ∧
      ∀ since, vars.updatedAfter = some since → since < v.updatedAt := by
  simp [matching, Ahead, Option.all_eq_true]

/-- Records with distinct ids are answered in strictly ascending order. -/
theorem matching_pairwise {records : List RecordVersion} (vars : Variables (Int ×ₗ ℕ))
    (hids : (records.map RecordVersion.id).Nodup) :
    (matching records vars).Pairwise fun v v' => v.key < v'.key := by
  have : Std.Total fun v v' : RecordVersion => v.key ≤ v'.key := ⟨fun v v' => le_total _ _⟩
  have : IsTrans RecordVersion fun v v' => v.key ≤ v'.key := ⟨fun _ _ _ => le_trans⟩
  have hsorted : (matching records vars).Pairwise fun v v' => v.key ≤ v'.key :=
    List.pairwise_insertionSort _ _
  have hdistinct : (matching records vars).Pairwise fun v v' => v.id ≠ v'.id := by
    have hnodup : ((matching records vars).map RecordVersion.id).Nodup :=
      ((List.perm_insertionSort _ _).map _).nodup_iff.mpr
        (hids.sublist (List.filter_sublist.map _))
    exact List.pairwise_map.mp hnodup
  -- equal keys would be equal ids
  refine (hsorted.and hdistinct).imp fun ⟨hle, hne⟩ => lt_of_le_of_ne hle fun heq => hne ?_
  exact congrArg (fun k => (ofLex k).2) heq

/-- The server answers in update order. -/
theorem serve_answersInUpdateOrder : AnswersInUpdateOrder id serve := by
  intro records vars hfirst hids v hv hahead hsince
  have hmem : v ∈ matching records vars := mem_matching.mpr ⟨hv, hahead, hsince⟩
  -- a matching record is on the page, or behind it in the sorted list
  have hsplit := List.take_append_drop vars.first (matching records vars)
  rw [← hsplit, List.mem_append] at hmem
  rcases hmem with htake | hdrop
  · exact Or.inl htake
  · have hlt : vars.first < (matching records vars).length := by
      by_contra hge
      rw [List.drop_eq_nil_of_le (Nat.le_of_not_lt hge)] at hdrop
      exact List.not_mem_nil hdrop
    have hne : (matching records vars).take vars.first ≠ [] := by
      apply List.ne_nil_of_length_pos
      rw [List.length_take]
      omega
    refine Or.inr ⟨decide_eq_true hlt, (List.getLast _ hne).key, ?_, ?_⟩
    · simp only [serve, List.getLast?_eq_some_getLast hne, Option.map_some]
    · have hpair := matching_pairwise vars hids
      rw [← hsplit, List.pairwise_append] at hpair
      exact hpair.2.2 _ (List.getLast_mem hne) v hdrop

end AyushOms.Sync
