/-!
# Identifiers, Errors and Text

What every service of the backend shares: row identifiers, the domain errors of
`app.core.exceptions` with their HTTP status codes, and the Python string methods the
normalizers call.

`str.strip` is modelled exactly (the characters `str.isspace` accepts). `str.upper` and
`str.lower` follow the Unicode tables of the interpreter; they are the fields of a class,
so that everything proved here holds whatever those tables say. The instance below maps the
ASCII letters and leaves the rest alone.
-/

namespace AyushOms

/-- A row's primary key. Nothing depends on its bits, so a number stands for it. -/
abbrev UUID := Nat

/-- An aware timestamp, in microseconds from a fixed origin. -/
abbrev Instant := Int

/-! ## Section 1: Domain errors -/

/-- `app.core.exceptions`: one constructor per class the modelled services raise. -/
inductive OMSError where
  | notFound (message : String)
  | validation (message : String)
  | conflict (message : String)
  | authorization (message : String)
  | integration (message : String)
  deriving DecidableEq, Repr

namespace OMSError

/-- The HTTP status the error handler answers with. -/
def statusCode : OMSError → Nat
  | notFound _ => 404
  | validation _ => 422
  | conflict _ => 409
  | authorization _ => 403
  | integration _ => 502

/-- The text the exception carries. -/
def message : OMSError → String
  | notFound m | validation m | conflict m | authorization m | integration m => m

end OMSError

/-- What a call of a service can raise: a domain error, a database constraint, a missing
dictionary key, an attribute of an expired row read outside the event loop's greenlet, or
anything else a library raises. -/
inductive PyException where
  | oms (e : OMSError)
  | integrityError
  | keyError (key : String)
  | missingGreenlet
  | other (message : String)
  deriving DecidableEq, Repr

namespace PyException

/-- `str(exc)`. -/
def str : PyException → String
  | oms e => e.message
  | integrityError => "UNIQUE constraint failed"
  | keyError key => "'" ++ key ++ "'"
  | missingGreenlet => "greenlet_spawn has not been called"
  | other message => message

end PyException

/-! ## Section 2: Python string methods -/

/-- `str.upper` and `str.lower` of the running interpreter. -/
class PyText where
  upper : String → String
  lower : String → String

/-- The ASCII part of the two methods. -/
instance : PyText where
  upper s := String.ofList (s.toList.map Char.toUpper)
  lower s := String.ofList (s.toList.map Char.toLower)

/-- The characters `str.isspace` accepts. -/
def pyIsSpace (c : Char) : Bool :=
  let n := c.toNat
  (9 ≤ n && n ≤ 13) || (28 ≤ n && n ≤ 32) || n == 0x85 || n == 0xA0 || n == 0x1680 ||
    (0x2000 ≤ n && n ≤ 0x200A) || n == 0x2028 || n == 0x2029 || n == 0x202F || n == 0x205F ||
    n == 0x3000

/-- `str.strip()`: no leading and no trailing white space. -/
def pyStrip (s : String) : String :=
  String.ofList ((s.toList.dropWhile pyIsSpace).reverse.dropWhile pyIsSpace).reverse

/-- `not text`: the empty string is false. -/
def pyFalsy (s : String) : Bool := s == ""

/-- `value or default` on an optional string. -/
def pyOr (s : Option String) (default : Option String) : Option String :=
  match s with
  | some t => if pyFalsy t then default else some t
  | none => default

example : pyStrip "  NDR raised \n" = "NDR raised" := by decide

end AyushOms
