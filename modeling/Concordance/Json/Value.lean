import Concordance.Text.CodePoint

/-!
The data that a store exchanges: JSON values, whole numbers kept apart from binary ones, objects
with their fields in order. The names of fields are strings of characters.
-/

namespace Concordance

/-- A JSON value. -/
inductive Json where
  | null
  | bool (b : Bool)
  | int (n : Int)
  | float (x : Float)
  | str (s : CodePoints)
  | arr (items : List Json)
  | obj (fields : List (String × Json))
  deriving Repr, Inhabited

namespace Json

/-- The fields of an object in order; a field set again keeps its place and takes the new value. -/
def setField {α : Type} (fields : List (String × α)) (key : String) (value : α) :
    List (String × α) :=
  match fields with
  | [] => [(key, value)]
  | (k, v) :: rest => if k = key then (k, value) :: rest else (k, v) :: setField rest key value

/-- The fields of `new` set one after another. -/
def setFields {α : Type} (fields new : List (String × α)) : List (String × α) :=
  new.foldl (fun fs f => setField fs f.1 f.2) fields

/-- The field of that name. -/
def field? {α : Type} (fields : List (String × α)) (key : String) : Option α :=
  (fields.find? fun f => f.1 = key).map (·.2)

/-- The field of that name, if the value is an object that has it. -/
def get? : Json → String → Option Json
  | .obj fields, key => field? fields key
  | _, _ => none

/-- False for null, false, zero, and whatever is empty. -/
def isTrue : Json → Bool
  | .null => false
  | .bool b => b
  | .int n => n != 0
  | .float x => x != 0
  | .str s => !s.isEmpty
  | .arr items => !items.isEmpty
  | .obj fields => !fields.isEmpty

theorem field?_setField {α : Type} (fields : List (String × α)) (key : String) (value : α)
    (other : String) :
    field? (setField fields key value) other =
      if other = key then some value else field? fields other := by
  induction fields with
  | nil => by_cases h : other = key <;> simp [setField, field?, h, eq_comm]
  | cons f rest ih =>
    obtain ⟨k, v⟩ := f
    by_cases hk : k = key
    · subst hk
      by_cases h : other = k <;> simp [setField, field?, h, eq_comm]
    · by_cases h : other = k
      · subst h
        simp [setField, field?, hk]
      · have hne : ¬ k = other := fun e => h e.symm
        simpa [setField, field?, hk, hne] using ih

end Json

end Concordance
