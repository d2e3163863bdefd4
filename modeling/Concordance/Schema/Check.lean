import Concordance.Json.Value

/-!
Checking data against a shape. A check reports every violation it finds, each with the path that
leads to it, in the order of the fields.
-/

namespace Concordance.Schema

/-- One step of a path into a value. -/
inductive Step where
  | key (name : String)
  | index (i : Nat)
  deriving Repr, DecidableEq

/-- What is wrong at the end of a path. -/
inductive Fault where
  | missing
  | notString
  | notList
  | notObject
  | notBool
  | unreadableBool
  | notInt
  | unreadableInt
  | fractional
  | oversizedInt
  | notFinite
  | notFloat
  | unreadableFloat
  | notGreater
  | tooSmall
  /-- the value is refused for a reason of its own -/
  | refused (message : String)
  deriving Repr, DecidableEq

/-- A fault and the path to it. -/
structure Violation where
  path : List Step
  fault : Fault
  deriving Repr, DecidableEq

/-- A checked value, or all violations. -/
abbrev Checked (α : Type) := Except (List Violation) α

namespace Checked

variable {α β γ : Type}

/-- A single fault where the check stands. -/
def fail (fault : Fault) : Checked α := .error [⟨[], fault⟩]

/-- A check made one step further inside. -/
def under (step : Step) : Checked α → Checked α
  | .ok x => .ok x
  | .error vs => .error (vs.map fun v => { v with path := step :: v.path })

/-- Two checks side by side; the violations of both count. -/
def both (a : Checked α) (b : Checked β) : Checked (α × β) :=
  match a, b with
  | .ok x, .ok y => .ok (x, y)
  | .ok _, .error w => .error w
  | .error v, .ok _ => .error v
  | .error v, .error w => .error (v ++ w)

/-- Checks side by side. -/
def all : List (Checked α) → Checked (List α)
  | [] => .ok []
  | c :: cs => ((both c (all cs)).map fun (x, xs) => x :: xs)

@[simp] theorem under_ok (step : Step) (x : α) : under step (.ok x : Checked α) = .ok x := rfl

@[simp] theorem both_ok (x : α) (y : β) : both (.ok x) (.ok y) = .ok (x, y) := rfl

theorem both_eq_ok_iff {a : Checked α} {b : Checked β} {x : α} {y : β} :
    both a b = .ok (x, y) ↔ a = .ok x ∧ b = .ok y := by
  cases a <;> cases b <;> simp [both]

end Checked

/-- The fields of an object. -/
abbrev Fields := List (String × Json)

/-- A string, as it stands. -/
def string : Json → Checked CodePoints
  | .str s => .ok s
  | _ => .fail .notString

/-- A value that may be null. -/
def nullable {α : Type} (check : Json → Checked α) : Json → Checked (Option α)
  | .null => .ok none
  | v => (check v).map some

/-- The items of a list, the first of which has the index `i`. -/
def itemsFrom {α : Type} (check : Json → Checked α) (i : Nat) : List Json → List (Checked α)
  | [] => []
  | v :: vs => (check v).under (.index i) :: itemsFrom check (i + 1) vs

/-- A list, every item of which passes a check. -/
def list {α : Type} (check : Json → Checked α) : Json → Checked (List α)
  | .arr items => .all (itemsFrom check 0 items)
  | _ => .fail .notList

/-- An object whose fields pass a check. -/
def object {α : Type} (check : Fields → Checked α) : Json → Checked α
  | .obj fields => check fields
  | _ => .fail .notObject

/-- The field of an object that has two spellings, and the spelling found. The first one counts if
both are there. -/
def spelled? (first second : String) (fields : Fields) : Option (String × Json) :=
  match Json.field? fields first with
  | some v => some (first, v)
  | none => (Json.field? fields second).map (second, ·)

/-- A field that has to be there. -/
def required {α : Type} (first second : String) (check : Json → Checked α) (fields : Fields) :
    Checked α :=
  match spelled? first second fields with
  | some (key, v) => (check v).under (.key key)
  | none => .error [⟨[.key first], .missing⟩]

/-- A field that takes a default if it is not there. -/
def optional {α : Type} (first second : String) (default : α) (check : Json → Checked α)
    (fields : Fields) : Checked α :=
  match spelled? first second fields with
  | some (key, v) => (check v).under (.key key)
  | none => .ok default

end Concordance.Schema
