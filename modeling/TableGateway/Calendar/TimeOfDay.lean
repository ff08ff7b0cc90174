import TableGateway.Number.Integer

/-!
# Times of day

A time of day is exact to the nanosecond. Its second may be sixty, for a leap second.
-/

namespace TableGateway

/-- An hour, a minute, a second and a nanosecond of that second. -/
structure TimeOfDay where
  hour : Nat
  minute : Nat
  second : Nat
  nanosecond : Nat
  deriving DecidableEq

namespace TimeOfDay

/-- The first time of a day. -/
def midnight : TimeOfDay :=
  ⟨0, 0, 0, 0⟩

/-- Whether a time exists. -/
def isValid (time : TimeOfDay) : Bool :=
  time.hour < 24 && time.minute < 60 && time.second ≤ 60 && time.nanosecond < 1000000000

/-- The time with the given parts, if it exists. -/
def ofParts? (hour minute second nanosecond : Nat) : Option TimeOfDay :=
  let time : TimeOfDay := ⟨hour, minute, second, nanosecond⟩
  if time.isValid then some time else none

/-- The time a number of microseconds after midnight; a full day later is midnight again. -/
def ofMicroseconds (microseconds : Int) : TimeOfDay :=
  let count := (microseconds % 86400000000).toNat
  let seconds := count / 1000000
  ⟨seconds / 3600, seconds / 60 % 60, seconds % 60, count % 1000000 * 1000⟩

/-- The text of a fraction of a second after its point: three, six or nine digits, the fewest that
lose nothing, and no text for none. -/
def fractionText (nanosecond : Nat) : List Char :=
  if nanosecond = 0 then []
  else if nanosecond % 1000000 = 0 then '.' :: Number.padded 3 (nanosecond / 1000000)
  else if nanosecond % 1000 = 0 then '.' :: Number.padded 6 (nanosecond / 1000)
  else '.' :: Number.padded 9 nanosecond

/-- The text of a time: hour, minute and second with colons between them, and the fraction. -/
def text (time : TimeOfDay) : List Char :=
  Number.padded 2 time.hour ++ ':' :: (Number.padded 2 time.minute ++ ':' ::
    (Number.padded 2 time.second ++ fractionText time.nanosecond))

end TimeOfDay

end TableGateway
