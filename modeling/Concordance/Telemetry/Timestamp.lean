import Concordance.Decimal.Places

/-!
Points in time in universal time, and their text with date and time of day.
-/

namespace Concordance.Telemetry

/-- A point in time, counted from the beginning of 1970. -/
structure Timestamp where
  seconds : Int
  micros : Nat := 0
  deriving Repr, DecidableEq

/-- Why a number of seconds is no point in time. -/
inductive TimeError where
  | notANumber
  | infinite
  /-- the year lies outside the years 1 to 9999 -/
  | yearOutOfRange (year : Int)
  deriving Repr, DecidableEq

/-- The wording of a refusal. -/
def TimeError.message : TimeError → String
  | .notANumber => "cannot convert float NaN to integer"
  | .infinite => "cannot convert float infinity to integer"
  | .yearOutOfRange year => s!"year {year} is out of range"

/-- The nearest whole number; of two equally near ones the even one. -/
def roundEven (x : Float) : Float :=
  let r := x.round
  if (x - r).abs == 0.5 then 2.0 * (x / 2.0).round else r

/-- A whole float as an integer. -/
def wholeFloat (x : Float) : Int :=
  let n : Int := x.abs.toUInt64.toNat
  if x < 0.0 then -n else n

/-- A number of seconds to the nearest microsecond. -/
def Timestamp.ofFloat (x : Float) : Except TimeError Timestamp :=
  if x.isNaN then .error .notANumber
  else if x.isInf then .error .infinite
  else
    let whole := if x < 0.0 then x.ceil else x.floor
    let micros := wholeFloat (roundEven ((x - whole) * 1e6))
    let seconds := wholeFloat whole
    .ok <|
      if micros ≥ 1000000 then ⟨seconds + 1, (micros - 1000000).toNat⟩
      else if micros < 0 then ⟨seconds - 1, (micros + 1000000).toNat⟩
      else ⟨seconds, micros.toNat⟩

/-- Year, month and day of a day counted from the beginning of 1970. Years are taken to begin in
March, so that the leap day is their last one, and are grouped by 400. -/
def civil (day : Int) : Int × Int × Int :=
  let z := day + 719468
  let era := z.fdiv 146097
  let dayOfEra := z - era * 146097
  let yearOfEra := (dayOfEra - dayOfEra / 1460 + dayOfEra / 36524 - dayOfEra / 146096) / 365
  let dayOfYear := dayOfEra - (365 * yearOfEra + yearOfEra / 4 - yearOfEra / 100)
  let mp := (5 * dayOfYear + 2) / 153
  let month := if mp < 10 then mp + 3 else mp - 9
  let year := yearOfEra + era * 400 + if month ≤ 2 then 1 else 0
  (year, month, dayOfYear - (153 * mp + 2) / 5 + 1)

/-- A part of a date or time, two digits wide. -/
def twoDigits (n : Int) : List Char := Decimal.padded 2 n.toNat

/-- Date and time of day, as in `2024-02-29T12:00:00.250000+00:00`. The fraction is left out if it
is zero. -/
def Timestamp.iso (t : Timestamp) : Except TimeError String :=
  let (year, month, day) := civil (t.seconds.fdiv 86400)
  let second := t.seconds.fmod 86400
  if year < 1 || 9999 < year then .error (.yearOutOfRange year)
  else .ok <| String.ofList <|
    Decimal.padded 4 year.toNat ++ '-' :: twoDigits month ++ '-' :: twoDigits day ++
    'T' :: twoDigits (second / 3600) ++ ':' :: twoDigits (second / 60 % 60) ++
    ':' :: twoDigits (second % 60) ++
    (if t.micros = 0 then [] else '.' :: Decimal.padded 6 t.micros) ++ "+00:00".toList

end Concordance.Telemetry
