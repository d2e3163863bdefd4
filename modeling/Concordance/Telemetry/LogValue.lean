import Concordance.Decimal.Shortest
import Concordance.Json.Notation
import Concordance.Text.Utf8

/-!
Values that are logged beside a message, and what is written for those that JSON does not know.
-/

namespace Concordance.Telemetry

/-- A value of a log record. -/
inductive LogValue where
  | null
  | bool (b : Bool)
  | int (n : Int)
  | float (x : Float)
  | str (s : String)
  | list (items : List LogValue)
  | map (fields : List (String × LogValue))
  | set (items : List LogValue)
  | octets (bytes : List UInt8)
  /-- the path of a file, its parts between slashes -/
  | path (s : String)
  /-- a failure and what it says -/
  | fault (message : String)
  | complex (re im : Float)
  deriving Inhabited

namespace LogValue

/-- The value of a number, exactly: `m * 2 ^ q`, an infinity, or no number. -/
inductive Magnitude where
  | finite (m q : Int)
  | infinite (negative : Bool)
  | notANumber

/-- What a number is worth; truth values count as zero and one. -/
def magnitude? : LogValue → Option Magnitude
  | .bool b => some (.finite b.toNat 0)
  | .int n => some (.finite n 0)
  | .float x =>
    some <|
      if x.isNaN then .notANumber
      else if x.isInf then .infinite (x < 0.0)
      else
        let b := Decimal.Binary.ofFloat x
        .finite (if Decimal.isSigned x then -(b.m : Int) else b.m) b.q
  | _ => none

/-- True if the first number is less than the second. -/
def Magnitude.less : Magnitude → Magnitude → Bool
  | .finite m q, .finite n r =>
    let low := min q r
    m * Decimal.powTwo (q - low) < n * Decimal.powTwo (r - low)
  | .finite _ _, .infinite negative => !negative
  | .infinite negative, .finite _ _ => negative
  | .infinite true, .infinite false => true
  | _, _ => false

/-- True if the numbers are equal. -/
def Magnitude.same : Magnitude → Magnitude → Bool
  | .notANumber, _ => false
  | _, .notANumber => false
  | a, b => !a.less b && !b.less a

/-- The parts of a path between its slashes, without empty ones and without those that stay where
they are. The slashes at its front are a part of their own; two of them are kept, one of three. -/
def pathParts (s : List Char) : List (List Char) :=
  let parts := (s.splitOn '/').filter fun part => part ≠ [] && part ≠ ['.']
  match (s.takeWhile (· = '/')).length with
  | 0 => parts
  | 2 => ['/', '/'] :: parts
  | _ => ['/'] :: parts

/-- A path put together from its parts. -/
def tidyPath (s : List Char) : List Char :=
  match pathParts s with
  | [] => ['.']
  | first :: rest =>
    if first.head? = some '/' then first ++ ['/'].intercalate rest
    else ['/'].intercalate (first :: rest)

/-- True if a set keeps only the first of the two values. -/
def same (a b : LogValue) : Bool :=
  match a, b with
  | .null, .null => true
  | .str s, .str t => s = t
  | .octets s, .octets t => s = t
  | .path s, .path t => pathParts s.toList = pathParts t.toList
  | a, b =>
    match a.magnitude?, b.magnitude? with
    | some x, some y => x.same y
    | _, _ => false

/-- The values without those that equal an earlier one, each with what goes with it. -/
def distinct {α : Type} (kept : List (LogValue × α)) : List (LogValue × α) → List (LogValue × α)
  | [] => kept.reverse
  | v :: vs => distinct (if kept.any (same v.1 ·.1) then kept else v :: kept) vs

/-- The kinds of values that can be put in order among themselves. -/
inductive Kind where
  | texts
  | numbers
  | octets
  | paths
  deriving Repr, DecidableEq

/-- The kind of a value, if it is of one. -/
def kind? : LogValue → Option Kind
  | .str _ => some .texts
  | .octets _ => some .octets
  | .path _ => some .paths
  | v => v.magnitude?.map fun _ => .numbers

/-- True if the values are of one kind and can be put in order. -/
def isSortable (items : List LogValue) : Bool :=
  match items with
  | [] => true
  | v :: vs => v.kind?.isSome && vs.all (·.kind? = v.kind?)

/-- True if the first of two sortable values does not belong behind the second. -/
def inOrder (a b : LogValue) : Bool :=
  match a, b with
  | .str s, .str t => !(t < s)
  | .octets s, .octets t => !(t < s)
  | .path s, .path t => !(pathParts t.toList < pathParts s.toList)
  | a, b =>
    match a.magnitude?, b.magnitude? with
    | some x, some y => !y.less x
    | _, _ => true

/-- The members of a set, sorted if they can be. -/
def members {α : Type} (items : List (LogValue × α)) : List α :=
  let items := distinct [] items
  (if isSortable (items.map (·.1)) then items.mergeSort (inOrder ·.1 ·.1) else items).map (·.2)

/-- A part of a complex number, without a fraction of zero. -/
def partText (x : Float) : List Char :=
  let text := Decimal.messageLayout.render x
  if text.drop (text.length - 2) = ['.', '0'] then text.take (text.length - 2) else text

/-- A complex number between parentheses, or its imaginary part alone if the real one is zero. -/
def complexText (re im : Float) : List Char :=
  if re.toBits = 0 then partText im ++ ['j']
  else
    let im := partText im
    '(' :: partText re ++ (if im.head? = some '-' then im else '+' :: im) ++ ['j', ')']

mutual

/-- The value as data. -/
def toJson : LogValue → Json
  | .null => .null
  | .bool b => .bool b
  | .int n => .int n
  | .float x => .float x
  | .str s => .str s
  | .list items => .arr ((toJsons items).map (·.2))
  | .map fields => .obj (toJsonFields fields)
  | .set items => .arr (members (toJsons items))
  | .octets bytes => .str (String.ofList (Text.decodeLenient bytes))
  | .path s => .str (String.ofList (tidyPath s.toList))
  | .fault message => .str message
  | .complex re im => .str (String.ofList (complexText re im))

/-- Values beside what they are as data. -/
def toJsons : List LogValue → List (LogValue × Json)
  | [] => []
  | v :: vs => (v, toJson v) :: toJsons vs

/-- Named values as data. -/
def toJsonFields : List (String × LogValue) → List (String × Json)
  | [] => []
  | (k, v) :: fs => (k, toJson v) :: toJsonFields fs

end

/-- What is written for a value that JSON does not know; any other value is shown as in messages. -/
def fallback (v : LogValue) : Json :=
  match v with
  | .set _ | .octets _ | .path _ | .fault _ | .complex _ _ => v.toJson
  | v => .str v.toJson.showing

end LogValue

end Concordance.Telemetry
