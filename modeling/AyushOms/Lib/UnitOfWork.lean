import AyushOms.Lib.Procedure
import AyushOms.Lib.Run

/-!
# Units of Work

A session collects what it has flushed until it commits; a rollback drops it. It is a procedure
whose memory is what the session sees of the store.

A loop over items in one session rolls back an item that raises. With the item goes what the items
before it have left uncommitted, so the others do not notice the failure exactly when nothing was.

## Main results

- `isolated_iff`: when failing items leave no trace in a run
- `along_losesNothing`: items that commit their own work
-/

namespace AyushOms.Lib

universe u

/-- A procedure in one session. -/
abbrev UnitOfWork (σ ε α : Type u) : Type u := Proc σ σ ε α

namespace UnitOfWork

variable {σ ε α : Type u}

/-! ## Section 1: The session -/

/-- Send changes to the database, without committing them. -/
def flush (f : σ → σ) : UnitOfWork σ ε PUnit := fun seen _ => .done (.ok ⟨⟩, f seen)

/-- `session.commit()`. -/
def commit : UnitOfWork σ ε PUnit := fun seen _ => .commit seen (.done (.ok ⟨⟩, seen))

/-- `session.rollback()`. -/
def rollback : UnitOfWork σ ε PUnit := fun _ stored => .done (.ok ⟨⟩, stored)

/-- What the session sees, and what is stored. -/
@[ext]
structure Session (σ : Type u) where
  seen : σ
  stored : σ

/-- A session that has nothing to commit. -/
def Session.clean (s : σ) : Session σ := ⟨s, s⟩

/-! ## Section 2: Items of a loop -/

/-- The item raises. -/
def Fails (p : UnitOfWork σ ε α) (s : Session σ) : Prop :=
  ∃ e, (p s.seen s.stored).result.1 = .error e

instance (p : UnitOfWork σ ε α) (s : Session σ) : Decidable (Fails p s) :=
  match h : (p s.seen s.stored).result.1 with
  | .error e => isTrue ⟨e, h⟩
  | .ok a => isFalse fun ⟨e, he⟩ => by rw [h] at he; cases he

/-- The session after an item, which is rolled back when it raises. -/
def attempt (p : UnitOfWork σ ε α) (s : Session σ) : Session σ :=
  let stored := (p s.seen s.stored).final s.stored
  match (p s.seen s.stored).result with
  | (.ok _, seen) => ⟨seen, stored⟩
  | (.error _, _) => .clean stored

theorem attempt_of_ok {p : UnitOfWork σ ε α} {s : Session σ} {a : α} {seen : σ}
    (h : (p s.seen s.stored).result = (.ok a, seen)) :
    attempt p s = ⟨seen, (p s.seen s.stored).final s.stored⟩ := by
  unfold attempt
  rw [h]

theorem attempt_of_fails {p : UnitOfWork σ ε α} {s : Session σ} (h : Fails p s) :
    attempt p s = .clean ((p s.seen s.stored).final s.stored) := by
  obtain ⟨e, he⟩ := h
  unfold attempt
  split
  · rename_i a seen hok
    rw [hok] at he
    cases he
  · rfl

/-- A failing item that has committed nothing leaves the stored state. -/
theorem attempt_of_commits_nothing {p : UnitOfWork σ ε α} {s : Session σ} (h : Fails p s)
    (hnothing : (p s.seen s.stored).states = []) : attempt p s = .clean s.stored := by
  rw [attempt_of_fails h, Staged.final_of_states_eq_nil hnothing]

/-- What happens in the session. -/
inductive Step (σ ε α : Type u) where
  | item (p : UnitOfWork σ ε α)
  | commit

/-- The session after a step. -/
def after (s : Session σ) : Step σ ε α → Session σ
  | .item p => attempt p s
  | .commit => .clean s.seen

/-- How many items of a run fail. -/
def failures (s : Session σ) : List (Step σ ε α) → ℕ
  | [] => 0
  | .item p :: rest => (if Fails p s then 1 else 0) + failures (attempt p s) rest
  | .commit :: rest => failures (.clean s.seen) rest

/-- Some item of the run fails. -/
def SomeFails (s : Session σ) (steps : List (Step σ ε α)) : Prop :=
  ∃ pre p post, steps = pre ++ .item p :: post ∧ Fails p (run after s pre)

theorem failures_append (s : Session σ) (steps steps' : List (Step σ ε α)) :
    failures s (steps ++ steps') = failures s steps + failures (run after s steps) steps' := by
  induction steps generalizing s with
  | nil => exact (Nat.zero_add _).symm
  | cons step rest ih =>
    cases step with
    | item p => rw [List.cons_append, failures, failures, ih, Nat.add_assoc]; rfl
    | commit => exact ih _

theorem failures_pos_iff {s : Session σ} {steps : List (Step σ ε α)} :
    0 < failures s steps ↔ SomeFails s steps := by
  constructor
  · intro h
    induction steps generalizing s with
    | nil => cases h
    | cons step rest ih =>
      cases step with
      | commit =>
        obtain ⟨pre, p, post, rfl, hfails⟩ := ih h
        exact ⟨.commit :: pre, p, post, rfl, hfails⟩
      | item p =>
        by_cases hfails : Fails p s
        · exact ⟨[], p, rest, rfl, hfails⟩
        · rw [failures, if_neg hfails, Nat.zero_add] at h
          obtain ⟨pre, q, post, rfl, hq⟩ := ih h
          exact ⟨.item p :: pre, q, post, rfl, hq⟩
  · rintro ⟨pre, p, post, rfl, hfails⟩
    rw [failures_append, failures, if_pos hfails]
    omega

/-! ## Section 3: When a failing item leaves no trace -/

/-- Every failing item that has committed nothing leaves no trace: wherever the run is stopped
later, the session is as it would be without the item. What a failing item has committed is its
own effect. -/
def Isolated (s : Session σ) (steps : List (Step σ ε α)) : Prop :=
  ∀ pre p post, steps = pre ++ .item p :: post →
    let found := run after s pre
    Fails p found → (p found.seen found.stored).states = [] →
      ∀ later, later <+: post → run after found later = run after (attempt p found) later

/-- There is nothing to lose when an item is rolled back. -/
def LosesNothing (s : Session σ) (step : Step σ ε α) : Prop :=
  ∀ p, step = .item p → Fails p s → (p s.seen s.stored).states = [] → s.seen = s.stored

/-- Failing items leave no trace in a run exactly when each finds a session that has nothing to
commit. -/
theorem isolated_iff {s : Session σ} {steps : List (Step σ ε α)} :
    Isolated s steps ↔ Along after LosesNothing s steps := by
  rw [along_iff_forall_split]
  constructor
  · rintro h pre step post heq p rfl hfails hnothing
    -- right after the item the session sees what is stored
    have hafter := h pre p post heq hfails hnothing [] List.nil_prefix
    rw [attempt_of_commits_nothing hfails hnothing] at hafter
    exact congrArg Session.seen hafter
  · intro h pre p post heq found hfails hnothing later _
    have hclean := h pre _ post heq p rfl hfails hnothing
    rw [attempt_of_commits_nothing hfails hnothing]
    refine congrArg (run after · later) (Session.ext hclean rfl)

/-- An item that returns has committed what it did. -/
def CommitsOwnWork (p : UnitOfWork σ ε α) : Prop :=
  ∀ seen stored a seen', (p seen stored).result = (.ok a, seen') →
    (p seen stored).final stored = seen'

/-- Items that commit their own work leave nothing to lose. -/
theorem along_losesNothing {s : Session σ} (hs : s.seen = s.stored) {steps : List (Step σ ε α)}
    (h : ∀ p, .item p ∈ steps → CommitsOwnWork p) : Along after LosesNothing s steps := by
  induction steps generalizing s with
  | nil => exact True.intro
  | cons step rest ih =>
    refine ⟨fun _ _ _ _ => hs, ih ?_ fun p hp => h p (List.mem_cons_of_mem _ hp)⟩
    cases step with
    | commit => rfl
    | item p =>
      -- an item that fails is rolled back, one that returns has committed
      rw [after]
      cases hresult : (p s.seen s.stored).result with
      | mk r seen =>
        cases r with
        | error e => rw [attempt_of_fails ⟨e, by rw [hresult]⟩]; rfl
        | ok a =>
          rw [attempt_of_ok hresult]
          exact (h p List.mem_cons_self s.seen s.stored a seen hresult).symm

/-- Whatever comes before its last commit, a procedure that ends with one has committed its own
work. -/
theorem commitsOwnWork_commit (p : UnitOfWork σ ε α) :
    CommitsOwnWork (do
      let a ← p
      commit
      pure a) := by
  intro seen stored a seen' hresult
  obtain ⟨a, k, hp, hrest⟩ := Proc.result_bind_eq_ok.mp hresult
  rw [Proc.bind_run, Staged.final_andThen, hp]
  obtain ⟨-, hseen⟩ := Prod.mk.inj hrest
  exact hseen

end UnitOfWork

end AyushOms.Lib
