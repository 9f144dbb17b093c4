import Mathlib.Data.Int.Log
import Mathlib.Data.Rat.Floor
import Fdai.Providers.Text

/-!
# Document values

What a parsed document is made of, with Python's comparison of the scalars in it.

* `PyFloat` — a double: a rational, an infinity or not a number. `PyFloat.ofRat` rounds
  to the nearest one, ties to even.
* `Value` — a parsed value; a mapping is the list of its entries.
* `Value.pyEq` — `==` on scalars. Booleans, integers and floats compare by number, so
  `True == 1 == 1.0`.
* `Python` — what the language decides that the model leaves open: the texts of values
  and the decimal digits of Unicode.
-/

namespace Fdai.Core

/-- A double. The sign of a zero is left out: no comparison sees it. -/
inductive PyFloat where
  | finite (value : ℚ)
  | infinite (negative : Bool)
  | nan
  deriving DecidableEq

namespace PyFloat

/-- The nearest integer, ties to even. -/
def roundHalfEven (q : ℚ) : ℤ :=
  let below := ⌊q⌋
  let rest := q - below
  if rest < 1 / 2 then below
  else if 1 / 2 < rest then below + 1
  else if below % 2 = 0 then below
  else below + 1

/-- The nearest double: 53 significant bits, the smallest unit `2 ^ (-1074)`, and an
infinity from `2 ^ 1024` on. -/
def ofRat (q : ℚ) : PyFloat :=
  if q = 0 then .finite 0
  else
    let unit : ℚ := 2 ^ max (Int.log 2 |q| - 52) (-1074)
    let rounded := roundHalfEven (q / unit) * unit
    if 2 ^ 1024 ≤ |rounded| then .infinite (q < 0) else .finite rounded

/-- `<=`. -/
def le : PyFloat → PyFloat → Bool
  | .nan, _ | _, .nan => false
  | .infinite true, _ | _, .infinite false => true
  | .infinite false, _ | _, .infinite true => false
  | .finite a, .finite b => a ≤ b

/-- `<`. -/
def lt (a b : PyFloat) : Bool := a.le b && !b.le a

/-- `==`. -/
def pyEq (a b : PyFloat) : Bool := a.le b && b.le a

end PyFloat

/-- A value of a parsed document. `other` is anything else a parser may build (a date, a
set, bytes); it equals no scalar. -/
inductive Value where
  | null
  | bool (value : Bool)
  | int (value : ℤ)
  | float (value : PyFloat)
  | str (value : String)
  | list (items : List Value)
  | mapping (entries : List (Value × Value))
  | other (kind : String)

namespace Value

/-- The value under a text key, if the key is there. -/
def get (entries : List (Value × Value)) (key : String) : Option Value :=
  (entries.find? fun (entry : Value × Value) =>
    match entry.1 with
    | .str name => name = key
    | _ => false).map (·.2)

/-- The number a value counts as in a comparison. -/
def number : Value → Option PyFloat
  | .bool b => some (.finite (if b then 1 else 0))
  | .int z => some (.finite z)
  | .float f => some f
  | _ => none

/-- `==`, where the left side is a scalar. -/
def pyEq (scalar expected : Value) : Bool :=
  match scalar.number, expected.number with
  | some a, some b => a.pyEq b
  | some _, none | none, some _ => false
  | none, none =>
    match scalar, expected with
    | .str a, .str b => a = b
    | .null, .null => true
    | _, _ => false

end Value

/-- What the language decides: `str` and `repr` of a value, and the value of a decimal
digit (of any script, as a regular expression's `\d` and `float` read them). -/
structure Python where
  str : Value → String
  repr : Value → String
  digit : Char → Option (Fin 10)

namespace Python

variable (py : Python)

/-- `str(value)`; a text is its own. -/
def text : Value → String
  | .str s => s
  | value => py.str value

/-- The digits a text starts with, and what follows them. -/
def digits : List Char → List (Fin 10) × List Char
  | [] => ([], [])
  | c :: rest =>
    match py.digit c with
    | some d => (d :: (digits rest).1, (digits rest).2)
    | none => ([], c :: rest)

/-- Texts quoted plainly, digits of ASCII: what the language does with a document whose
labels are plain texts. -/
def ascii : Python where
  str := fun
    | .str s => s
    | _ => ""
  repr := fun
    | .str s => "'" ++ s ++ "'"
    | _ => ""
  digit := fun c => if c.isDigit then some (Fin.ofNat 10 (c.toNat - '0'.toNat)) else none

end Python

/-- The number a list of decimal digits is. -/
def ofDigits (digits : List (Fin 10)) : ℕ := digits.foldl (fun n d => 10 * n + d) 0

/-- `float` of a text that the pattern `-?\d+(?:\.\d+)?` matches as a whole; `none` where
it does not match. -/
def decimal (py : Python) (chars : List Char) : Option PyFloat :=
  let (negative, chars) := match chars with
    | '-' :: rest => (true, rest)
    | _ => (false, chars)
  let (whole, rest) := py.digits chars
  let sign : ℚ := if negative then -1 else 1
  if whole = [] then none
  else match rest with
    | [] => some (.ofRat (sign * ofDigits whole))
    | '.' :: rest =>
      let (fraction, rest) := py.digits rest
      if fraction = [] || rest ≠ [] then none
      else some (.ofRat (sign * (ofDigits (whole ++ fraction) / 10 ^ fraction.length)))
    | _ => none

end Fdai.Core
