import AyushOms.Core.Values
import AyushOms.Lib.OffsetPages
import Mathlib.Data.List.Sort

/-!
# Paged Listings

`app.repositories.base.BaseRepository.list` and the parameters of `app.schemas.common`. A page is
a query of its own: the matching rows, sorted by one attribute that the caller names, from an
offset on. How rows that tie come is up to the database, at each request anew.

## Main results

- `everyPage_eq_ok`: the pages one after another
- `complete_iff`: they are complete, however the database sorts ties, when no tie crosses a page
  break, and only then
-/

namespace AyushOms.Repositories

open AyushOms.Lib OrderDual

/-! ## Section 1: Parameters -/

/-- `PageParams`. -/
structure PageParams where
  page : ℕ
  pageSize : ℕ
  one_le_page : 1 ≤ page
  one_le_pageSize : 1 ≤ pageSize
  pageSize_le : pageSize ≤ 200

/-- `PageParams.offset`. -/
def PageParams.offset (params : PageParams) : ℕ := (params.page - 1) * params.pageSize

/-- Another page of the same size. -/
def PageParams.turnTo (params : PageParams) (n : ℕ) : PageParams :=
  { params with page := n + 1, one_le_page := Nat.le_add_left 1 n }

/-- The two values of `sort_order`. -/
inductive SortOrder
  | asc
  | desc
  deriving DecidableEq, Repr

/-- `SortParams`. -/
structure SortParams where
  sortBy : Option String := none
  sortOrder : SortOrder := .desc
  deriving DecidableEq, Repr

/-- `PaginationMeta`. -/
structure PaginationMeta where
  page : ℕ
  pageSize : ℕ
  totalItems : ℕ
  totalPages : ℕ
  deriving DecidableEq, Repr

/-- `build_pagination_meta`. -/
def buildPaginationMeta (totalItems : ℕ) (params : PageParams) : PaginationMeta where
  page := params.page
  pageSize := params.pageSize
  totalItems := totalItems
  totalPages :=
    if totalItems = 0 then 0 else (totalItems + params.pageSize - 1) / params.pageSize

/-! ## Section 2: Statements and their answers -/

/-- What `getattr` finds on a model class: something rows can be sorted by, or another thing of
that name. The values `κ` are those of the database in its order, NULL among them. -/
inductive ModelAttribute (ρ κ : Type)
  | column (value : ρ → κ)
  | other

/-- `select(model).where(...).order_by(...)`. -/
structure Select (ρ κ : Type) where
  condition : ρ → Bool
  orderBy : Option ((ρ → κ) × SortOrder) := none

/-- The rows of a table differ in their ids. -/
structure StaticTable (ρ : Type) where
  rows : List ρ
  nodup : rows.Nodup

section Answers

variable {ρ κ : Type} [LinearOrder κ]

/-- A row may come before another one. -/
def Select.before (stmt : Select ρ κ) (a b : ρ) : Bool :=
  match stmt.orderBy with
  | none => true
  | some (value, .asc) => value a ≤ value b
  | some (value, .desc) => value b ≤ value a

instance (stmt : Select ρ κ) : Std.Total fun a b => stmt.before a b where
  total a b := by
    unfold Select.before
    split
    · exact .inl rfl
    · simpa using le_total _ _
    · simpa using le_total _ _

instance (stmt : Select ρ κ) : IsTrans ρ fun a b => stmt.before a b where
  trans a b c := by
    unfold Select.before
    split
    · exact fun _ _ => rfl
    · simpa using le_trans
    · simpa using fun hba hcb => le_trans hcb hba

/-- The matching rows, in the order of the statement. -/
structure Select.Answers (stmt : Select ρ κ) (table : StaticTable ρ) (rows : List ρ) : Prop where
  perm : rows.Perm (table.rows.filter stmt.condition)
  sorted : rows.Pairwise fun a b => stmt.before a b

/-- The database as one request meets it. -/
structure Database {ρ : Type} (κ : Type) [LinearOrder κ] (table : StaticTable ρ) where
  execute : Select ρ κ → List ρ
  answers : ∀ stmt : Select ρ κ, stmt.Answers table (execute stmt)

/-- A database that sorts the rows of a list, and leaves ties as the list has them. -/
def Database.stable {table : StaticTable ρ} (rows : List ρ) (hperm : rows.Perm table.rows) :
    Database κ table where
  execute stmt := (rows.filter stmt.condition).insertionSort fun a b => stmt.before a b
  answers _ :=
    ⟨(List.perm_insertionSort _ _).trans (hperm.filter _), List.pairwise_insertionSort _ _⟩

/-! ## Section 3: The listing -/

variable {table : StaticTable ρ}

/-- What `list` is called with, the page apart. -/
structure ListArgs (ρ κ : Type) where
  model : String → Option (ModelAttribute ρ κ)
  sortParams : Option SortParams := none
  query : Option (ρ → Bool) := none
  defaultSortColumn : String := "created_at"

/-- `sort_column_name`. -/
def ListArgs.sortColumnName (args : ListArgs ρ κ) : String :=
  (pyOr (args.sortParams.bind (·.sortBy)) none).getD args.defaultSortColumn

/-- `not sort_params or sort_params.sort_order == "desc"`. -/
def ListArgs.sortOrder (args : ListArgs ρ κ) : SortOrder :=
  match args.sortParams with
  | none => .desc
  | some params => params.sortOrder

/-- The statement before it is ordered. -/
def ListArgs.baseStatement (args : ListArgs ρ κ) : Select ρ κ where
  condition := args.query.getD fun _ => true

/-- The statement before its offset and limit. -/
def ListArgs.statement (args : ListArgs ρ κ) : Except PyException (Select ρ κ) :=
  match args.model args.sortColumnName with
  | none => return args.baseStatement
  | some (.column value) =>
    return { args.baseStatement with orderBy := some (value, args.sortOrder) }
  | some .other => throw (.other "AttributeError")

/-- `BaseRepository.list`. -/
def list (db : Database κ table) (args : ListArgs ρ κ) (pageParams : PageParams) :
    Except PyException (List ρ × ℕ) := do
  let total := (db.execute args.baseStatement).length
  let stmt ← args.statement
  return (((db.execute stmt).drop pageParams.offset).take pageParams.pageSize, total)

/-- The pages 1 to `total_pages`, each asked of the database as it is then. -/
def everyPage (db : ℕ → Database κ table) (args : ListArgs ρ κ) (params : PageParams) :
    Except PyException (List ρ) := do
  let (_, total) ← list (db 0) args (params.turnTo 0)
  let found ← (List.range (buildPaginationMeta total params).totalPages).mapM fun n =>
    list (db n) args (params.turnTo n)
  return (found.map Prod.fst).flatten

/-- The rows a listing is to show. -/
def matchingRows (args : ListArgs ρ κ) (table : StaticTable ρ) : List ρ :=
  table.rows.filter args.baseStatement.condition

/-- However the database sorts ties, at each request anew: the pages show every matching row
once. -/
def PagesComplete (args : ListArgs ρ κ) (table : StaticTable ρ) (params : PageParams) : Prop :=
  ∀ db : ℕ → Database κ table, ∃ rows, everyPage db args params = .ok rows ∧
    rows.Perm (matchingRows args table)

/-- No two rows on either side of a page break tie: in the order of the column, and in its dual
when it is to descend. Rows that nothing sorts tie all. -/
def NoTieAcrossPages (args : ListArgs ρ κ) (table : StaticTable ρ) (pageSize : ℕ) : Prop :=
  match args.model args.sortColumnName, args.sortOrder with
  | some (.column value), .asc => OffsetPages.TiesFit value pageSize (matchingRows args table)
  | some (.column value), .desc =>
    OffsetPages.TiesFit (fun row => toDual (value row)) pageSize (matchingRows args table)
  | some .other, _ => False
  | none, _ => (matchingRows args table).length ≤ pageSize

/-! ## Section 4: Completeness -/

variable {args : ListArgs ρ κ} {params : PageParams}

omit [LinearOrder κ] in
theorem condition_of_statement {stmt : Select ρ κ} (h : args.statement = .ok stmt) :
    stmt.condition = args.baseStatement.condition := by
  unfold ListArgs.statement at h
  split at h
  · rw [← Except.ok.inj h]
  · rw [← Except.ok.inj h]
  · cases h

/-- The pages are cut from the answers to one statement. -/
theorem everyPage_eq_ok (db : ℕ → Database κ table) {stmt : Select ρ κ}
    (h : args.statement = .ok stmt) :
    everyPage db args params =
      .ok (OffsetPages.collected params.pageSize (fun n => (db n).execute stmt)
        (matchingRows args table).length) := by
  have hlist : ∀ n, list (db n) args (params.turnTo n) =
      .ok (OffsetPages.slice params.pageSize ((db n).execute stmt) n,
        (matchingRows args table).length) := by
    intro n
    unfold list
    rw [h, ((db n).answers args.baseStatement).perm.length_eq]
    rfl
  have hpages : (List.range (OffsetPages.pageCount (matchingRows args table).length
      params.pageSize)).mapM (fun n => list (db n) args (params.turnTo n)) =
        .ok ((List.range (OffsetPages.pageCount (matchingRows args table).length
          params.pageSize)).map fun n =>
            (OffsetPages.slice params.pageSize ((db n).execute stmt) n,
              (matchingRows args table).length)) := by
    rw [funext hlist]
    exact List.mapM_pure
  unfold everyPage
  rw [hlist 0]
  show (do
    let found ← (List.range (OffsetPages.pageCount (matchingRows args table).length
      params.pageSize)).mapM fun n => list (db n) args (params.turnTo n)
    return (found.map Prod.fst).flatten) = _
  rw [hpages]
  show Except.ok _ = Except.ok _
  rw [List.map_map, ← List.flatMap_def]
  rfl

/-- A statement whose order is that of a key. -/
theorem complete_iff_of_key {κ' : Type} [LinearOrder κ'] (key : ρ → κ') {stmt : Select ρ κ}
    (h : args.statement = .ok stmt) (hkey : ∀ a b, stmt.before a b ↔ key a ≤ key b) :
    PagesComplete args table params ↔
      OffsetPages.TiesFit key params.pageSize (matchingRows args table) := by
  have hcondition := condition_of_statement h
  have hascends : ∀ rows : List ρ, rows.Pairwise (fun a b => stmt.before a b) ↔
      OffsetPages.Ascends key rows :=
    fun rows => List.Pairwise.iff_of_mem fun _ _ => hkey _ _
  -- one answer to start from
  have hanswers := (Database.stable (κ := κ) table.rows (List.Perm.refl _)).answers stmt
  generalize (Database.stable (κ := κ) table.rows (List.Perm.refl _)).execute stmt = xs
    at hanswers
  have hperm : xs.Perm (matchingRows args table) := by
    have hperm := hanswers.perm
    rwa [hcondition] at hperm
  have hnodup : xs.Nodup := hperm.nodup_iff.mpr (table.nodup.filter _)
  rw [← OffsetPages.tiesFit_congr hperm,
    ← OffsetPages.complete_iff_tiesFit params.one_le_pageSize ((hascends xs).mp hanswers.sorted)
      hnodup]
  constructor
  · intro hcomplete lists hlists
    -- the database that answers the pages from these lists
    have hrest : ∀ n, (lists n ++ table.rows.filter fun row => !stmt.condition row).Perm
        table.rows := by
      intro n
      refine ((hlists n).2.trans hanswers.perm).append_right _ |>.trans ?_
      exact List.filter_append_perm _ _
    obtain ⟨rows, hrows, hall⟩ := hcomplete fun n => Database.stable _ (hrest n)
    rw [everyPage_eq_ok _ h] at hrows
    have hsame : ∀ n, (Database.stable (κ := κ) _ (hrest n)).execute stmt = lists n := by
      intro n
      have hmatch : ∀ row ∈ lists n, stmt.condition row = true := by
        intro row hrow
        exact (List.mem_filter.mp (hanswers.perm.mem_iff.mp ((hlists n).2.mem_iff.mp hrow))).2
      show ((lists n ++ table.rows.filter fun row => !stmt.condition row).filter
        stmt.condition).insertionSort _ = lists n
      rw [List.filter_append, List.filter_eq_self.mpr hmatch, List.filter_filter]
      simp only [Bool.and_not_self, List.filter_false, List.append_nil]
      exact ((hascends _).mpr (hlists n).1).insertionSort_eq
    rw [hperm.length_eq]
    refine List.Perm.trans ?_ hperm.symm
    rw [← funext hsame]
    exact Except.ok.inj hrows ▸ hall
  · intro hlists db
    refine ⟨_, everyPage_eq_ok db h, ?_⟩
    have hpages := hlists (fun n => (db n).execute stmt) fun n => by
      have hdb := (db n).answers stmt
      exact ⟨(hascends _).mp hdb.sorted, hdb.perm.trans hanswers.perm.symm⟩
    rw [hperm.length_eq] at hpages
    exact hpages.trans hperm

/-- However the database sorts ties, the pages are complete exactly when none crosses a page
break. -/
theorem complete_iff (args : ListArgs ρ κ) (table : StaticTable ρ) (params : PageParams) :
    PagesComplete args table params ↔ NoTieAcrossPages args table params.pageSize := by
  unfold NoTieAcrossPages
  cases hmodel : args.model args.sortColumnName with
  | none =>
    -- nothing is sorted, so all rows tie
    have hstatement : args.statement = .ok args.baseStatement := by
      simp only [ListArgs.statement, hmodel]
      rfl
    rw [complete_iff_of_key (fun _ => ()) hstatement fun _ _ => by
      simp [Select.before, ListArgs.baseStatement]]
    exact OffsetPages.tiesFit_const params.one_le_pageSize
  | some member =>
    cases member with
    | other =>
      have hstatement : args.statement = .error (.other "AttributeError") := by
        simp only [ListArgs.statement, hmodel]
        rfl
      refine iff_of_false (fun hcomplete => ?_) id
      obtain ⟨rows, hrows, -⟩ := hcomplete fun _ =>
        Database.stable table.rows (List.Perm.refl _)
      unfold everyPage list at hrows
      rw [hstatement] at hrows
      cases hrows
    | column value =>
      have hstatement : args.statement =
          .ok { args.baseStatement with orderBy := some (value, args.sortOrder) } := by
        simp only [ListArgs.statement, hmodel]
        rfl
      cases horder : args.sortOrder with
      | asc =>
        exact complete_iff_of_key value hstatement fun _ _ => by simp [Select.before, horder]
      | desc =>
        refine complete_iff_of_key (fun row => toDual (value row)) hstatement fun _ _ => ?_
        simp [Select.before, horder]

end Answers

/-- Two rows written in one transaction. -/
def twoRows : StaticTable ℕ where
  rows := List.range 2
  nodup := List.nodup_range

/-- Both have the transaction's time. -/
def byCreatedAt : ListArgs ℕ ℤ where
  model name := if name = "created_at" then some (.column fun _ => 0) else none

/-- On pages of one row, the second request may find the rows the other way round. -/
theorem twoRows_second_lost :
    ¬ PagesComplete byCreatedAt twoRows ⟨1, 1, le_refl 1, le_refl 1, by decide⟩ := by
  intro hcomplete
  obtain ⟨rows, hrows, hperm⟩ := hcomplete fun n =>
    if n = 1 then Database.stable [1, 0] (List.Perm.swap 0 1 [])
    else Database.stable [0, 1] (List.Perm.refl _)
  have hfound : rows = [0, 0] := by
    have hpages := hrows.symm.trans (show _ = Except.ok [0, 0] by decide)
    exact Except.ok.inj hpages
  have hlost := hperm.mem_iff (a := 1)
  rw [hfound] at hlost
  exact absurd (hlost.mpr (by decide)) (by decide)

end AyushOms.Repositories
