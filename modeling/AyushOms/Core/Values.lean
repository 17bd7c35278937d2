import AyushOms.Core.Base
import AyushOms.Lib.Decimal
import AyushOms.Lib.Json

/-!
# Values from Outside

How the integrations read a decoded payload: the truth value and the text of a JSON value,
dictionaries, and the two parsers of the standard library whose input is free text. A value of
another type than the code expects raises.

Whether the exception is a `TypeError` or an `AttributeError` is not kept apart: nothing reads
which.
-/

namespace AyushOms

open AyushOms.Lib

/-! ## Section 1: Texts and numbers -/

/-- `str` of a list or a dictionary. -/
class PyRepr where
  repr : Json → String

/-- The texts of the empty ones; the others are left open. -/
instance : PyRepr where
  repr
    | .arr [] => "[]"
    | .obj [] => "{}"
    | _ => "..."

/-- `str(value)`. -/
def pyStr [PyRepr] : Json → String
  | .null => "None"
  | .bool value => if value then "True" else "False"
  | .int value => toString value
  | .float text => text
  | .str text => text
  | value => PyRepr.repr value

/-- `bool(value)`. -/
def Lib.Json.truthy : Json → Bool
  | .null => false
  | .bool value => value
  | .int value => value != 0
  | .float text => text != "0.0" && text != "-0.0"
  | .decimal _ => true
  | .str text => !pyFalsy text
  | .arr values => !values.isEmpty
  | .obj fields => !fields.isEmpty

/-- `value or default`. -/
def Lib.Json.orElse (value default : Json) : Json := if value.truthy then value else default

/-- `Decimal(text)` for the texts of numbers; `none` is `InvalidOperation`. The texts of NaN and
of the infinities are left out. -/
class DecimalText where
  parse : String → Option ℚ

/-- The number a row of digits stands for. -/
def digitsValue (digits : List Char) : Option ℕ :=
  if digits ≠ [] ∧ digits.all Char.isDigit then
    some (digits.foldl (fun n c => 10 * n + (c.toNat - '0'.toNat)) 0)
  else none

/-- A sign, digits and a fraction; exponents are left out. -/
instance : DecimalText where
  parse text :=
    let (negative, digits) := match text.toList with
      | '-' :: rest => (true, rest)
      | rest => (false, rest)
    let fraction := (digits.dropWhile (· ≠ '.')).drop 1
    (digitsValue (digits.takeWhile (· ≠ '.') ++ fraction)).map fun n =>
      (if negative then -1 else 1) * (n : ℚ) / 10 ^ fraction.length

/-- The result of an operation on `Decimal`s under the default context. -/
def pyDecimal (x : ℚ) : ℚ := Decimal.roundDigits 28 x

/-! ## Section 2: Timestamps -/

/-- A `datetime`, in microseconds: without an offset it is a wall clock's reading, with one it
is an instant. -/
inductive Datetime where
  | naive (reading : Int)
  | aware (instant : Instant)
  deriving DecidableEq, Repr

/-- `datetime.fromisoformat`; `none` is `ValueError`. -/
class IsoFormat where
  parse : String → Option Datetime

/-- The days from 1970-01-01 to a date of the Gregorian calendar. -/
def daysFromCivil (year month day : ℕ) : Int :=
  let y : Int := if month ≤ 2 then year - 1 else year
  let m : Int := if month ≤ 2 then month + 9 else month - 3
  y * 365 + y / 4 - y / 100 + y / 400 + (153 * m + 2) / 5 + day - 719469

/-- The reading of a clock, in microseconds from 1970-01-01. -/
def clockReading (year month day hour minute second : ℕ) : Option Int :=
  if (1 ≤ month ∧ month ≤ 12) ∧ (1 ≤ day ∧ day ≤ 31) ∧ hour < 24 ∧ minute < 60 ∧ second < 60 then
    some (1000000 * (86400 * daysFromCivil year month day + 3600 * hour + 60 * minute + second))
  else none

/-- The form `YYYY-MM-DDTHH:MM:SS`, with or without an offset `+HH:MM`. -/
instance : IsoFormat where
  parse text :=
    match text.toList with
    | y₁ :: y₂ :: y₃ :: y₄ :: '-' :: m₁ :: m₂ :: '-' :: d₁ :: d₂ :: 'T' ::
        h₁ :: h₂ :: ':' :: n₁ :: n₂ :: ':' :: s₁ :: s₂ :: offset => do
      let reading ← clockReading (← digitsValue [y₁, y₂, y₃, y₄]) (← digitsValue [m₁, m₂])
        (← digitsValue [d₁, d₂]) (← digitsValue [h₁, h₂]) (← digitsValue [n₁, n₂])
        (← digitsValue [s₁, s₂])
      match offset with
      | [] => some (.naive reading)
      | ['+', h, h', ':', m, m'] => do
        let minutes := 60 * (← digitsValue [h, h']) + (← digitsValue [m, m'])
        some (.aware (reading - 60000000 * minutes))
      | _ => none
    | _ => none

example : IsoFormat.parse "1970-01-02T00:00:01+00:00" = some (.aware 86401000000) := by decide

/-! ## Section 3: Dictionaries -/

/-- What reading a value of another type raises. -/
def wrongType : PyException := .other "TypeError"

/-- A decoded object. -/
abbrev Dict := List (String × Json)

/-- `raw.get(key)`. -/
def Dict.get (raw : Dict) (key : String) : Json := (raw.lookup key).getD .null

/-- `raw[key]`. -/
def Dict.item (raw : Dict) (key : String) : Except PyException Json :=
  match raw.lookup key with
  | some value => .ok value
  | none => .error (.keyError key)

/-- `raw[key] = value`: an earlier value of the key is replaced where it stands. -/
def Dict.set (raw : Dict) (key : String) (value : Json) : Dict :=
  if key ∈ raw.map (·.1) then
    raw.map fun field => if field.1 = key then (key, value) else field
  else raw ++ [(key, value)]

namespace Lib.Json

/-- The value is used as a dictionary. -/
def dict : Json → Except PyException Dict
  | .obj fields => .ok fields
  | _ => .error wrongType

/-- `value or {}`, used as a dictionary. -/
def dictOr (value : Json) : Except PyException Dict :=
  if value.truthy then value.dict else .ok []

/-- What `for` goes through: a text's characters and a dictionary's keys, too. -/
def iterate : Json → Except PyException (List Json)
  | .arr values => .ok values
  | .str text => .ok (text.toList.map fun c => .str (String.ofList [c]))
  | .obj fields => .ok (fields.map fun field => .str field.1)
  | _ => .error wrongType

/-- `value or []`, iterated over. -/
def listOr (value : Json) : Except PyException (List Json) :=
  if value.truthy then value.iterate else .ok []

/-- The value is used as a text. -/
def text : Json → Except PyException String
  | .str text => .ok text
  | _ => .error wrongType

/-- `value or ""`, used as a text. -/
def textOr (value : Json) : Except PyException String :=
  if value.truthy then value.text else .ok ""

/-- `separator.join(values)`. -/
def join (separator : String) (values : List Json) : Except PyException String := do
  return separator.intercalate (← values.mapM text)

end Lib.Json

/-! ## Section 4: What a reader that does not raise has read -/

section Except

variable {ε α β : Type}

theorem bind_eq_ok {x : Except ε α} {f : α → Except ε β} {b : β} :
    x >>= f = .ok b ↔ ∃ a, x = .ok a ∧ f a = .ok b := by
  cases x with
  | error e =>
    constructor
    · intro h
      cases h
    · intro h
      obtain ⟨a, ha, -⟩ := h
      cases ha
  | ok a =>
    constructor
    · intro h
      exact ⟨a, rfl, h⟩
    · intro h
      obtain ⟨a', ha, hf⟩ := h
      cases ha
      exact hf

theorem pure_eq_ok {a b : α} : (pure a : Except ε α) = .ok b ↔ a = b :=
  ⟨fun h => Except.ok.inj h, fun h => congrArg Except.ok h⟩

/-- Every element has been read, in order. -/
theorem forall₂_of_mapM_eq_ok {f : α → Except ε β} {as : List α} {bs : List β}
    (h : as.mapM f = .ok bs) : List.Forall₂ (fun a b => f a = .ok b) as bs := by
  induction as generalizing bs with
  | nil =>
    rw [List.mapM_nil, pure_eq_ok] at h
    rw [← h]
    exact .nil
  | cons a as ih =>
    rw [List.mapM_cons, bind_eq_ok] at h
    obtain ⟨b, hb, hrest⟩ := h
    obtain ⟨bs', hbs, hcons⟩ := bind_eq_ok.mp hrest
    rw [← pure_eq_ok.mp hcons]
    exact .cons hb (ih hbs)

/-- A list is read when each of its elements is. -/
theorem exists_mapM_eq_ok {f : α → Except ε β} {as : List α}
    (h : ∀ a ∈ as, ∃ b, f a = .ok b) : ∃ bs, as.mapM f = .ok bs := by
  induction as with
  | nil => exact ⟨[], rfl⟩
  | cons a as ih =>
    obtain ⟨b, hb⟩ := h a List.mem_cons_self
    obtain ⟨bs, hbs⟩ := ih fun a' hmem => h a' (List.mem_cons_of_mem a hmem)
    refine ⟨b :: bs, ?_⟩
    rw [List.mapM_cons, hb]
    show (do
      let rest ← as.mapM f
      pure (b :: rest)) = _
    rw [hbs]
    rfl

/-- What is read of a list, when it is known what is read of an element. -/
theorem eq_map_of_mapM_eq_ok {f : α → Except ε β} {g : α → β} {as : List α} {bs : List β}
    (h : as.mapM f = .ok bs) (hread : ∀ a b, f a = .ok b → b = g a) : bs = as.map g := by
  have hall := forall₂_of_mapM_eq_ok h
  clear h
  induction hall with
  | nil => rfl
  | cons hb _ ih => rw [List.map_cons, ih, hread _ _ hb]

/-- What holds of each element read exactly when something holds of its source holds of all
exactly when that holds of all sources. -/
theorem forall_mem_iff_of_forall₂ {R : α → β → Prop} {P : α → Prop} {Q : β → Prop} {as : List α}
    {bs : List β} (h : List.Forall₂ R as bs) (hiff : ∀ a b, R a b → (Q b ↔ P a)) :
    (∀ b ∈ bs, Q b) ↔ ∀ a ∈ as, P a := by
  induction h with
  | nil => simp
  | cons hR _ ih => simp only [List.forall_mem_cons, hiff _ _ hR, ih]

/-- Reading in two stages. -/
theorem forall₂_trans {γ : Type} {R : α → β → Prop} {S : β → γ → Prop} {as : List α}
    {bs : List β} {cs : List γ} (h : List.Forall₂ R as bs) (h' : List.Forall₂ S bs cs) :
    List.Forall₂ (fun a c => ∃ b, R a b ∧ S b c) as cs := by
  induction h generalizing cs with
  | nil =>
    cases h'
    exact .nil
  | cons hR _ ih =>
    cases h' with
    | cons hS hrest => exact .cons ⟨_, hR, hS⟩ (ih hrest)

end Except

end AyushOms
