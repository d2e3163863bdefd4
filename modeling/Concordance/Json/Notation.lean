import Concordance.Json.Value
import Concordance.Decimal.Layout
import Concordance.Text.Quoted

/-!
How values are shown inside messages: strings quoted, the three words capitalised, items separated
by a comma and a space.
-/

namespace Concordance.Json

mutual

/-- A value as it stands inside another one. -/
def shown : Json → List Char
  | .null => "None".toList
  | .bool true => "True".toList
  | .bool false => "False".toList
  | .int n => (toString n).toList
  | .float x => Decimal.messageLayout.render x
  | .str s => Text.quoted s
  | .arr items => '[' :: shownItems items ++ [']']
  | .obj fields => '\x7b' :: shownFields fields ++ ['\x7d']

/-- Values separated by commas. -/
def shownItems : List Json → List Char
  | [] => []
  | [v] => shown v
  | v :: vs => shown v ++ ',' :: ' ' :: shownItems vs

/-- Keys and values separated by commas. -/
def shownFields : List (String × Json) → List Char
  | [] => []
  | [(k, v)] => Text.quoted k ++ ':' :: ' ' :: shown v
  | (k, v) :: fs => Text.quoted k ++ ':' :: ' ' :: shown v ++ ',' :: ' ' :: shownFields fs

end

/-- A value inside a message: a string stands as it is, anything else as it is shown. -/
def message : Json → String
  | .str s => s.shown
  | v => String.ofList (shown v)

/-- The value as it stands inside another one. -/
def showing (v : Json) : String := String.ofList v.shown

end Concordance.Json
