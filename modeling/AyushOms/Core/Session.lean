import AyushOms.Core.Base

/-!
# The Session of a Request

What a request keeps of its `AsyncSession` beside the uncommitted writes: whether a
transaction is in progress, and which rows it has loaded. A commit ends the transaction and
leaves the loaded rows readable (`expire_on_commit=False`). A rollback expires every loaded row,
but only when there is a transaction to roll back; reading an attribute of an expired row
outside a query raises `MissingGreenlet`.
-/

namespace AyushOms

/-- A row a session can have loaded. -/
inductive Entity where
  | user (id : UUID)
  | order (id : UUID)
  | shipment (id : UUID)
  | courier (id : UUID)
  deriving DecidableEq, Repr

structure RequestSession where
  inTransaction : Bool := false
  loaded : List Entity := []
  deriving DecidableEq, Repr

namespace RequestSession

/-- A statement that loads no row later read by attribute; it begins a transaction. -/
def execute (k : RequestSession) : RequestSession := { k with inTransaction := true }

/-- A `SELECT` that loads a row. -/
def load (k : RequestSession) (e : Entity) : RequestSession where
  inTransaction := true
  loaded := e :: k.loaded

/-- `session.get`: a row that is loaded already is not queried again. -/
def get (k : RequestSession) (e : Entity) (found : Bool) : RequestSession :=
  if e ∈ k.loaded then k
  else if found then k.load e
  else k.execute

def commit (k : RequestSession) : RequestSession := { k with inTransaction := false }

def rollback (k : RequestSession) : RequestSession := if k.inTransaction then {} else k

/-- The attributes of the acting user, when there is one, can be read. -/
def CanRead (k : RequestSession) (actor : Option UUID) : Prop :=
  ∀ id ∈ actor, .user id ∈ k.loaded

instance (k : RequestSession) (actor : Option UUID) : Decidable (k.CanRead actor) :=
  inferInstanceAs (Decidable (∀ id ∈ actor, .user id ∈ k.loaded))

/-- The session of a request that an endpoint has authenticated. -/
def authenticated (actor : Option UUID) : RequestSession where
  inTransaction := actor.isSome
  loaded := (actor.map .user).toList

variable {k : RequestSession} {e e' : Entity} {actor : Option UUID}

@[simp] theorem loaded_execute : k.execute.loaded = k.loaded := rfl

@[simp] theorem loaded_load : (k.load e).loaded = e :: k.loaded := rfl

@[simp] theorem loaded_commit : k.commit.loaded = k.loaded := rfl

@[simp] theorem inTransaction_execute : k.execute.inTransaction = true := rfl

@[simp] theorem inTransaction_load : (k.load e).inTransaction = true := rfl

@[simp] theorem inTransaction_commit : k.commit.inTransaction = false := rfl

theorem execute_of_inTransaction (h : k.inTransaction = true) : k.execute = k := by
  obtain ⟨inTransaction, loaded⟩ := k
  obtain rfl : inTransaction = true := h
  rfl

/-- `session.get` forgets nothing. -/
theorem mem_loaded_get (h : e' ∈ k.loaded) (found : Bool) : e' ∈ (k.get e found).loaded := by
  unfold get
  split
  · exact h
  · split
    · exact List.mem_cons_of_mem _ h
    · exact h

/-- And it loads no other row. -/
theorem mem_loaded_get_iff (he : e' ≠ e) {found : Bool} :
    e' ∈ (k.get e found).loaded ↔ e' ∈ k.loaded := by
  unfold get
  by_cases h : e ∈ k.loaded
  · rw [if_pos h]
  · rw [if_neg h]
    cases found with
    | false => rfl
    | true => exact List.mem_cons.trans (or_iff_right he)

theorem mem_loaded_get_self : e ∈ (k.get e true).loaded := by
  unfold get
  split
  · assumption
  · exact List.mem_cons_self

theorem inTransaction_get {found : Bool} :
    (k.get e found).inTransaction = (k.inTransaction || !decide (e ∈ k.loaded)) := by
  unfold get
  by_cases h : e ∈ k.loaded
  · simp [h]
  · cases found <;> simp [h]

theorem get_of_mem (h : e ∈ k.loaded) (found : Bool) : k.get e found = k := if_pos h

/-- A rollback with no transaction in progress does nothing. -/
theorem rollback_of_not_inTransaction (h : k.inTransaction = false) : k.rollback = k := by
  simp [rollback, h]

theorem rollback_of_inTransaction (h : k.inTransaction = true) : k.rollback = {} := by
  simp [rollback, h]

theorem loaded_rollback_subset : ∀ e ∈ k.rollback.loaded, e ∈ k.loaded := by
  cases h : k.inTransaction with
  | false => simp [rollback_of_not_inTransaction h]
  | true => simp [rollback_of_inTransaction h]

theorem CanRead.mono {k' : RequestSession} (h : k.CanRead actor)
    (hloaded : ∀ e ∈ k.loaded, e ∈ k'.loaded) : k'.CanRead actor :=
  fun id hid => hloaded _ (h id hid)

@[simp] theorem canRead_none : k.CanRead none := by simp [CanRead]

@[simp] theorem canRead_commit : k.commit.CanRead actor ↔ k.CanRead actor := Iff.rfl

@[simp] theorem canRead_execute : k.execute.CanRead actor ↔ k.CanRead actor := Iff.rfl

/-- A rollback leaves the acting user readable when it has nothing to roll back. -/
theorem canRead_rollback :
    k.rollback.CanRead actor ↔ k.CanRead actor ∧ (k.inTransaction = false ∨ actor = none) := by
  cases h : k.inTransaction with
  | false => simp [rollback_of_not_inTransaction h]
  | true =>
    rw [rollback_of_inTransaction h]
    cases actor with
    | none => simp
    | some id => simp [CanRead]

theorem canRead_get (h : k.CanRead actor) (e : Entity) (found : Bool) :
    (k.get e found).CanRead actor :=
  h.mono fun _ he => mem_loaded_get he found

theorem canRead_load_iff (he : ∀ id, e ≠ .user id) :
    (k.load e).CanRead actor ↔ k.CanRead actor := by
  simp [CanRead, load, fun id => (he id).symm]

/-- Looking up another row neither loads nor expires the acting user. -/
theorem canRead_get_iff (he : ∀ id, e ≠ .user id) (found : Bool) :
    (k.get e found).CanRead actor ↔ k.CanRead actor := by
  unfold get
  split
  · rfl
  · split
    · exact canRead_load_iff he
    · exact canRead_execute

theorem canRead_load (h : k.CanRead actor) (e : Entity) : (k.load e).CanRead actor :=
  h.mono fun _ he => List.mem_cons_of_mem _ he

theorem canRead_authenticated (actor : Option UUID) : (authenticated actor).CanRead actor := by
  intro id hid
  obtain rfl : actor = some id := hid
  exact List.mem_cons_self

end RequestSession

end AyushOms
