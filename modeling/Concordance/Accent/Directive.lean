import Concordance.Json.Reader
import Concordance.Pattern.Equivalence
import Concordance.Text.Quoted

/-!
Accent directives: which characters may be ignored in a search and which are interchangeable.

A directive is a list of items between blanks. `X>Y` makes two characters interchangeable; an escape
such as `\u0301` or `\u{301}` makes one code point ignorable, and two escapes with a hyphen between
them a whole range.
-/

namespace Concordance.Accent

/-- One item of a directive. -/
inductive Item where
  /-- the code points from `first` to `last` may be ignored, surrogates aside -/
  | span (first last : Nat)
  /-- two characters are interchangeable -/
  | pair (x y : Char)
  deriving Repr, DecidableEq

/-- What is wrong with an item. -/
inductive Problem where
  | invalidCodePoint
  | reversedRange
  | unrecognized
  deriving Repr, DecidableEq

/-- A refused item. -/
structure DirectiveError where
  problem : Problem
  item : List Char
  deriving Repr, DecidableEq

/-- The wording of a refusal. -/
def DirectiveError.message (e : DirectiveError) : String :=
  let item := String.ofList (Text.quoted e.item)
  match e.problem with
  | .invalidCodePoint => "Invalid code point in accent directive item " ++ item
  | .reversedRange => "Reversed code point range in accent directive item " ++ item
  | .unrecognized => "Unrecognized accent directive item " ++ item

/-- The value of hexadecimal digits, most significant first. -/
def hexValue (digits : List Char) : Nat :=
  digits.foldl (fun n c => 16 * n + (Json.hexDigit? c).getD 0) 0

/-- A code point escape at the front of an item: four hexadecimal digits, or one to six in
braces. -/
def escape? (s : List Char) : Option (Nat × List Char) :=
  match s with
  | '\\' :: 'u' :: '\x7b' :: rest =>
    let (digits, after) := rest.span fun c => (Json.hexDigit? c).isSome
    match after with
    | '\x7d' :: after =>
      if 1 ≤ digits.length && digits.length ≤ 6 then some (hexValue digits, after) else none
    | _ => none
  | '\\' :: 'u' :: rest => Json.hexFour? rest
  | _ => none

/-- The code points of an item made of one escape or of two. -/
def escapes? (item : List Char) : Option (Nat × Option Nat) :=
  match escape? item with
  | some (first, []) => some (first, none)
  | some (first, '-' :: rest) =>
    match escape? rest with
    | some (last, []) => some (first, some last)
    | _ => none
  | _ => none

/-- True for the code points that are not characters but halves of a surrogate pair. -/
def isSurrogate (n : Nat) : Bool := 0xD800 ≤ n && n ≤ 0xDFFF

/-- True if a code point is that of a character. -/
def isScalar (n : Nat) : Bool := n ≤ 0x10FFFF && !isSurrogate n

/-- Reads one item. The ends of a range are looked at in order, and their order last. -/
def Item.parse (item : List Char) : Except DirectiveError Item :=
  match escapes? item with
  | some (first, none) =>
    if isScalar first then .ok (.span first first) else .error ⟨.invalidCodePoint, item⟩
  | some (first, some last) =>
    if !isScalar first || !isScalar last then .error ⟨.invalidCodePoint, item⟩
    else if last < first then .error ⟨.reversedRange, item⟩
    else .ok (.span first last)
  | none =>
    match item with
    | [x, '>', y] => .ok (.pair x y)
    | _ => .error ⟨.unrecognized, item⟩

/-- Reads items up to the first that is refused. -/
def parseItems : List (List Char) → Except DirectiveError (List Item)
  | [] => .ok []
  | item :: rest =>
    match Item.parse item with
    | .error e => .error e
    | .ok item => (parseItems rest).map (item :: ·)

/-- Reads a directive. -/
def parse (directive : List Char) : Except DirectiveError (List Item) :=
  parseItems (Text.words directive)

/-- True if an item covers the code point. -/
def Item.covers (n : Nat) : Item → Bool
  | .span first last => first ≤ n && n ≤ last
  | .pair _ _ => false

/-- The code points of an item that none of the items `earlier` covers. -/
def Item.fresh (earlier : List Item) : Item → List Nat
  | .span first last =>
    (List.range' first (last + 1 - first)).filter fun n =>
      !isSurrogate n && !earlier.any (Item.covers n)
  | .pair _ _ => []

/-- The ignorable characters behind the items `earlier`, each where it is first covered. -/
def ignoredFrom (earlier : List Item) : List Item → List Char
  | [] => []
  | item :: rest => (item.fresh earlier).map Char.ofNat ++ ignoredFrom (item :: earlier) rest

/-- The characters that the items make ignorable, each once, in the order of the items. -/
def ignored (items : List Item) : List Char := ignoredFrom [] items

/-- The pairs of interchangeable characters, in the order of the items. -/
def pairs (items : List Item) : List (Char × Char) :=
  items.filterMap fun
    | .pair x y => some (x, y)
    | .span _ _ => none

/-- What a directive says: the ignorable characters and the classes of interchangeable ones. -/
structure Rules where
  ignore : List Char := []
  classes : List (List Char) := []
  deriving Repr, DecidableEq

/-- What items say together. -/
def Rules.ofItems (items : List Item) : Rules :=
  ⟨ignored items, Pattern.equivalenceClasses (pairs items)⟩

/-- What a directive says. -/
def Rules.parse (directive : List Char) : Except DirectiveError Rules :=
  (Accent.parse directive).map Rules.ofItems

end Concordance.Accent
