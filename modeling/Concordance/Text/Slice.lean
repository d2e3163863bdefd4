/-!
Positions and slices counted from either end. A negative position counts from the end; a slice
takes every `step`-th element from `start` on, up to and without `stop`.
-/

namespace Concordance.Text

/-- Why a position or a slice is refused. -/
inductive SliceError where
  /-- the position lies outside the text -/
  | outOfRange
  /-- the step is zero -/
  | zeroStep
  deriving Repr, DecidableEq

/-- The wording of a refusal. -/
def SliceError.message : SliceError → String
  | .outOfRange => "string index out of range"
  | .zeroStep => "slice step cannot be zero"

/-- The element at a position counted from the front, or from the end when negative. -/
def elementAt {α : Type} (s : List α) (i : Int) : Except SliceError α :=
  let k := if i < 0 then i + s.length else i
  if k < 0 then .error .outOfRange
  else match s[k.toNat]? with
    | some x => .ok x
    | none => .error .outOfRange

/-- A bound of a slice. `lo` and `hi` are the ends of the range the bound is clamped to. -/
def clampBound (length lo hi : Int) : Int → Int
  | i => if i < 0 then max lo (i + length) else min hi i

/-- `count` positions from `start` in steps of `step`. -/
def positions (start step : Int) : Nat → List Int
  | 0 => []
  | n + 1 => start :: positions (start + step) step n

/-- The positions a slice takes. Bounds that are left out reach to the end that the step points from
or to. -/
def slicePositions (length : Nat) (start stop : Option Int) (step : Int) : List Int :=
  let n : Int := length
  if step > 0 then
    let a := (start.map (clampBound n 0 n)).getD 0
    let b := (stop.map (clampBound n 0 n)).getD n
    positions a step ((b - a + step - 1) / step).toNat
  else
    let a := (start.map (clampBound n (-1) (n - 1))).getD (n - 1)
    let b := (stop.map (clampBound n (-1) (n - 1))).getD (-1)
    positions a step ((a - b + (-step) - 1) / (-step)).toNat

/-- Every `step`-th element from `start` on, up to and without `stop`. -/
def slice {α : Type} (s : List α) (start stop : Option Int) (step : Int) :
    Except SliceError (List α) :=
  if step = 0 then .error .zeroStep
  else .ok ((slicePositions s.length start stop step).filterMap fun i => s[i.toNat]?)

end Concordance.Text
