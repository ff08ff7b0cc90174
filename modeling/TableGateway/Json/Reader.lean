import TableGateway.Json.Basic
import TableGateway.Json.Written
import TableGateway.NameOrder
import TableGateway.Number.Power

/-!
# Reading JSON

Numbers and strings are taken from a JSON text as it is written. A name that occurs twice in an object
keeps its last value, and the members of an object are put in increasing order of their names. At most
one hundred and twenty-seven arrays and objects may be open at a time. An object may also stand for a
value whose text it holds in a string.
-/

namespace TableGateway.Json

/-! ### Numbers -/

/-- The digits that a number of sixty-four bits can still take up, and the rest. -/
def takeDigits (value : Nat) : List Char → Nat × List Char
  | [] => (value, [])
  | c :: rest =>
    let next := 10 * value + (c.toNat - '0'.toNat)
    if next < 2 ^ 64 then takeDigits next rest else (value, c :: rest)

/-- A finite number divided by a power of ten, in steps of at most the greatest power that is
representable. -/
def divideByPowerOfTen (x : Binary64) (power : Nat) : Binary64 :=
  if power ≤ 308 then x.div (.ofInt (10 ^ power))
  else if x.magnitudeBits = 0 then x
  else divideByPowerOfTen (x.div (.ofInt (10 ^ 308))) (power - 308)
termination_by power

/-- The number `significand * 10 ^ exponent`: the significand is rounded first, and its product or
quotient with the power of ten is rounded again. There is no value beyond the greatest number. -/
def scaled? (significand : Nat) (exponent : Int) : Option Binary64 :=
  let x := Binary64.ofInt significand
  if exponent < 0 then some (divideByPowerOfTen x (-exponent).toNat)
  else if 308 < exponent then
    if significand = 0 then some x else none
  else
    let y := x.mul (.ofInt (10 ^ exponent.toNat))
    if y.isFinite then some y else none

/-- The floating-point number with the given digits before and after the point. Digits that do not
fit the significand are dropped; before the point they still count for the exponent. -/
def float? (negative : Bool) (whole fraction : List Char) (exponent : Int) : Option Number := do
  let (high, wholeRest) := takeDigits 0 whole
  let (significand, fractionRest) := takeDigits high fraction
  let shift : Int := wholeRest.length - (fraction.length - fractionRest.length : Nat)
  let x ← scaled? significand (shift + exponent)
  return .float (if negative then x.neg else x)

/-- The number with the given digits and nothing after them: an integer of sixty-four bits, with or
without a sign. Minus zero and the numbers out of range are floating-point numbers. -/
def integer? (negative : Bool) (whole : List Char) : Option Number :=
  let n := Nat.ofDigitChars 10 whole 0
  if negative then
    if 0 < n ∧ n ≤ 2 ^ 63 then some (.integer (-n)) else float? true whole [] 0
  else
    if n < 2 ^ 64 then some (.integer n) else float? false whole [] 0

/-- The number that a numeral stands for, if it is not too great. -/
def Numeral.value? (n : Numeral) : Option Number :=
  match n.fraction, n.exponent with
  | none, none => integer? n.negative n.whole
  | _, _ => float? n.negative n.whole (n.fraction.getD []) (n.exponent.getD 0)

/-! ### Strings -/

/-- The units that are the first half of a character. -/
def isHighHalf (unit : Nat) : Bool :=
  0xd800 ≤ unit && unit < 0xdc00

/-- The units that are the second half of a character. -/
def isLowHalf (unit : Nat) : Bool :=
  0xdc00 ≤ unit && unit < 0xe000

/-- The characters of letters, in reverse after `read`, if none is half a character. -/
def charsOfLetters? (read : List Char) : List Letter → Option (List Char)
  | [] => some read.reverse
  | .char c :: rest => charsOfLetters? (c :: read) rest
  | .unit unit :: rest =>
    if isHighHalf unit then
      match rest with
      | .unit low :: rest =>
        if isLowHalf low then
          let c := Char.ofNat (0x10000 + (unit - 0xd800) * 0x400 + (low - 0xdc00))
          charsOfLetters? (c :: read) rest
        else none
      | _ => none
    else if isLowHalf unit then none
    else charsOfLetters? (Char.ofNat unit :: read) rest

/-- The string that letters write. -/
def stringOfLetters? (letters : List Letter) : Option String :=
  (charsOfLetters? [] letters).map String.ofList

/-! ### Values -/

/-- The name of a member that holds the text of a value. An object that begins with it stands for that
value and has no other members. -/
def embeddingName : String :=
  "$serde_json::private::RawValue"

/-- Whether an object stands for a value whose text it holds. -/
def isEmbedding : List (List Letter × Written) → Bool
  | (name, _) :: _ => stringOfLetters? name == some embeddingName
  | [] => false

/-- The text of the value that an object stands for. -/
def embeddedText? : List (List Letter × Written) → Option String
  | [(_, .string letters)] => stringOfLetters? letters
  | _ => none

mutual

/-- What a written value stands for, if at most `depth` arrays and objects are open in it. The text in
an object that stands for a value is read by `embedded?`. -/
def ofWritten? (embedded? : List Char → Option Json) (depth : Nat) : Written → Option Json
  | .null => some null
  | .bool b => some (bool b)
  | .number n => n.value?.map number
  | .string letters => (stringOfLetters? letters).map string
  | .array items =>
    match depth with
    | 0 => none
    | depth + 1 => (itemsOfWritten? embedded? depth items).map array
  | .object members =>
    match depth with
    | 0 => none
    | depth + 1 =>
      if isEmbedding members then
        (embeddedText? members).bind fun text => embedded? text.toList
      else
        (membersOfWritten? embedded? depth members).map fun members =>
          object (NameOrder.collect Prod.fst members)

/-- What written items stand for. -/
def itemsOfWritten? (embedded? : List Char → Option Json) (depth : Nat) :
    List Written → Option (List Json)
  | [] => some []
  | item :: rest => do
    let item ← ofWritten? embedded? depth item
    return item :: (← itemsOfWritten? embedded? depth rest)

/-- What written members stand for. -/
def membersOfWritten? (embedded? : List Char → Option Json) (depth : Nat) :
    List (List Letter × Written) → Option (List (String × Json))
  | [] => some []
  | (name, value) :: rest => do
    let name ← stringOfLetters? name
    let value ← ofWritten? embedded? depth value
    return (name, value) :: (← membersOfWritten? embedded? depth rest)

end

/-- The value that a text writes, with at most a number of texts in each other. -/
def nested? : Nat → List Char → Option Json
  | 0, _ => none
  | texts + 1, text => (Written.ofText? text).bind (ofWritten? (nested? texts) 127)

/-- The value that a JSON text writes. A text within it is shorter, which bounds their number. -/
def ofText? (text : List Char) : Option Json :=
  nested? (text.length + 1) text

end TableGateway.Json
