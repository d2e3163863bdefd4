import Concordance.Proofs.Json.Fields
import Concordance.Schema.Check
import Mathlib.Data.List.Pairwise
import Mathlib.Logic.Relation

/-! Changes to data that a check does not see: keys that it does not know, and the other spelling of
a key that it knows. -/

namespace Concordance

namespace Schema

open Json (field?)

/-- Which keys data may have as far as a check knows them. Each field has two spellings and a shape
of its own. -/
inductive Shape where
  /-- keys inside are of no concern -/
  | plain
  | list (item : Shape)
  | object (declared : List (String × String × Shape))

/-- Two fields have no spelling in common. -/
def Apart (f g : String × String × Shape) : Prop :=
  (f.1 ≠ g.1 ∧ f.2.1 ≠ g.1) ∧ f.1 ≠ g.2.1 ∧ f.2.1 ≠ g.2.1

instance (f g : String × String × Shape) : Decidable (Apart f g) :=
  inferInstanceAs (Decidable (_ ∧ _))

instance : Std.Symm Apart where
  symm _ _ h := ⟨⟨h.1.1.symm, h.2.1.symm⟩, h.1.2.symm, h.2.2.symm⟩

/-- No spelling belongs to two fields. -/
abbrev Distinct (declared : List (String × String × Shape)) : Prop := declared.Pairwise Apart

/-- One change to data of a shape, at any depth, after which they mean the same. -/
inductive Edit : Shape → Json → Json → Prop where
  /-- a change to an item of a list -/
  | item {shape : Shape} {v v' : Json} (before after : List Json) :
      Edit shape v v' →
      Edit (.list shape) (.arr (before ++ v :: after)) (.arr (before ++ v' :: after))
  /-- a change to the value of a field, in whichever spelling -/
  | field {declared : List (String × String × Shape)} {first second key : String} {shape : Shape}
      {v v' : Json} (before after : Fields) :
      (first, second, shape) ∈ declared → key = first ∨ key = second → Edit shape v v' →
      Edit (.object declared) (.obj (before ++ (key, v) :: after))
        (.obj (before ++ (key, v') :: after))
  /-- a field with an unknown key comes in -/
  | added {declared : List (String × String × Shape)} {key : String} (v : Json)
      (before after : Fields) :
      (∀ f ∈ declared, key ≠ f.1 ∧ key ≠ f.2.1) →
      Edit (.object declared) (.obj (before ++ after)) (.obj (before ++ (key, v) :: after))
  /-- a field with an unknown key goes out -/
  | removed {declared : List (String × String × Shape)} {key : String} (v : Json)
      (before after : Fields) :
      (∀ f ∈ declared, key ≠ f.1 ∧ key ≠ f.2.1) →
      Edit (.object declared) (.obj (before ++ (key, v) :: after)) (.obj (before ++ after))
  /-- the second spelling of a field takes the place of the first, if it was not there -/
  | respelled {declared : List (String × String × Shape)} {first second : String} {shape : Shape}
      (v : Json) (before after : Fields) :
      (first, second, shape) ∈ declared → first ∉ (before ++ after).map (·.1) →
      second ∉ (before ++ after).map (·.1) →
      Edit (.object declared) (.obj (before ++ (first, v) :: after))
        (.obj (before ++ (second, v) :: after))
  /-- fields change places -/
  | moved {declared : List (String × String × Shape)} {fields fields' : Fields} :
      fields.Perm fields' → (fields.map (·.1)).Nodup →
      Edit (.object declared) (.obj fields) (.obj fields')

@[simp] theorem string_str (s : CodePoints) : string (.str s) = .ok s := rfl

@[simp] theorem object_obj {α : Type} (check : Fields → Checked α) (fields : Fields) :
    object check (.obj fields) = check fields := rfl

/-- The value of a field, in its first spelling if both are there. -/
def value? (first second : String) (fields : Fields) : Option Json :=
  (field? fields first).or (field? fields second)

section Fields

variable {α : Type} {first second : String} {check : Json → Checked α} {fields : Fields} {x : α}

theorem Checked.under_eq_ok_iff {step : Step} {result : Checked α} :
    result.under step = .ok x ↔ result = .ok x := by
  cases result <;> simp [Checked.under]

theorem Checked.map_eq_ok_iff {β : Type} {f : β → α} {result : Checked β} :
    result.map f = .ok x ↔ ∃ y, result = .ok y ∧ f y = x := by
  cases result <;> simp [Except.map]

theorem spelled?_eq (first second : String) (fields : Fields) :
    (spelled? first second fields).map (·.2) = value? first second fields := by
  unfold spelled? value?
  cases field? fields first with
  | some v => rfl
  | none => cases field? fields second <;> rfl

theorem required_eq_ok_iff : required first second check fields = .ok x ↔
    ∃ v, value? first second fields = some v ∧ check v = .ok x := by
  rw [← spelled?_eq, required]
  cases spelled? first second fields with
  | none => simp
  | some found => simp [Checked.under_eq_ok_iff]

theorem optional_eq_ok_iff {default : α} :
    optional first second default check fields = .ok x ↔
      value? first second fields = none ∧ default = x ∨
        ∃ v, value? first second fields = some v ∧ check v = .ok x := by
  rw [← spelled?_eq, optional]
  cases spelled? first second fields with
  | none => simp
  | some found => simp [Checked.under_eq_ok_iff]

end Fields

section Lists

variable {α : Type} {check : Json → Checked α} {items : List Json} {xs : List α}

theorem all_itemsFrom_eq_ok_iff {i : Nat} :
    Checked.all (itemsFrom check i items) = .ok xs ↔ items.map check = xs.map .ok := by
  induction items generalizing i xs with
  | nil => cases xs <;> simp [itemsFrom, Checked.all]
  | cons v items ih =>
    rw [itemsFrom, Checked.all, List.map_cons, Checked.map_eq_ok_iff]
    simp only [Prod.exists, Checked.both_eq_ok_iff, Checked.under_eq_ok_iff, ih]
    constructor
    · rintro ⟨x, xs, ⟨hx, hxs⟩, rfl⟩
      rw [hx, hxs, List.map_cons]
    · intro h
      cases xs with
      | nil => cases h
      | cons x xs =>
        obtain ⟨hx, hxs⟩ := List.cons_eq_cons.mp h
        exact ⟨x, xs, ⟨hx, hxs⟩, rfl⟩

theorem list_eq_ok_iff : list check (.arr items) = .ok xs ↔ items.map check = xs.map .ok :=
  all_itemsFrom_eq_ok_iff

/-- A list is read back if its items are. -/
theorem list_map {dump : α → Json} (h : ∀ x, check (dump x) = .ok x) (xs : List α) :
    list check (.arr (xs.map dump)) = .ok xs := by
  rw [list_eq_ok_iff, List.map_map]
  exact List.map_congr_left fun x _ => h x

end Lists

section Edits

variable {declared : List (String × String × Shape)} {fields fields' : Fields}
  {first second : String} {shape : Shape}

theorem Distinct.eq_or_apart (h : Distinct declared) {f g : String × String × Shape}
    (hf : f ∈ declared) (hg : g ∈ declared) : f = g ∨ Apart f g :=
  Classical.or_iff_not_imp_left.mpr (h.forall hf hg)

/-- What a field shows after a value is replaced: the same as before, or the new value in place of
the old one. -/
theorem value?_replaced (first second : String) (before after : Fields) (key : String)
    (v v' : Json) :
    value? first second (before ++ (key, v') :: after) =
        value? first second (before ++ (key, v) :: after) ∨
      (key = first ∨ key = second) ∧
        value? first second (before ++ (key, v) :: after) = some v ∧
        value? first second (before ++ (key, v') :: after) = some v' := by
  unfold value?
  rcases Json.field?_replaced before after key v v' first with hfirst | ⟨rfl, hv, hv'⟩
  · rw [hfirst]
    cases field? (before ++ (key, v) :: after) first with
    | some u => exact .inl rfl
    | none =>
      rcases Json.field?_replaced before after key v v' second with hsecond | ⟨rfl, hv, hv'⟩
      · exact .inl hsecond
      · exact .inr ⟨.inr rfl, hv, hv'⟩
  · rw [hv, hv']
    exact .inr ⟨.inl rfl, rfl, rfl⟩

/-- An edit leaves the value of a declared field as it is, or is an edit of this value. -/
theorem Edit.value? (h : Edit (.object declared) (.obj fields) (.obj fields'))
    (hdistinct : Distinct declared) (hfield : (first, second, shape) ∈ declared) :
    value? first second fields' = value? first second fields ∨
      ∃ v v', Schema.value? first second fields = some v ∧
        Schema.value? first second fields' = some v' ∧ Edit shape v v' := by
  cases h with
  | @field _ first' second' key shape' v v' before after hmem hkey hedit =>
    rcases value?_replaced first second before after key v v' with hsame | ⟨hmine, hv, hv'⟩
    · exact .inl hsame
    · -- A spelling of two fields would belong to fields that are not apart.
      rcases hdistinct.eq_or_apart hmem hfield with heq | hapart
      · cases heq
        exact .inr ⟨v, v', hv, hv', hedit⟩
      · rcases hmine with rfl | rfl <;> rcases hkey with rfl | rfl <;> simp [Apart] at hapart
  | added v before after hunknown =>
    obtain ⟨hfirst, hsecond⟩ := hunknown _ hfield
    left
    simp [Schema.value?, Json.field?_append, Json.field?_cons, hfirst, hsecond]
  | removed v before after hunknown =>
    obtain ⟨hfirst, hsecond⟩ := hunknown _ hfield
    left
    simp [Schema.value?, Json.field?_append, Json.field?_cons, hfirst, hsecond]
  | @respelled _ first' second' shape' v before after hmem hfirst hsecond =>
    left
    rcases hdistinct.eq_or_apart hmem hfield with heq | ⟨⟨_, _⟩, _, _⟩
    · cases heq
      have hnone := Json.field?_eq_none hfirst
      have hnone' := Json.field?_eq_none hsecond
      rw [Json.field?_append, Option.or_eq_none_iff] at hnone hnone'
      by_cases heq : second = first <;>
        simp [Schema.value?, Json.field?_append, Json.field?_cons, hnone, hnone', heq]
    · simp_all [Schema.value?, Json.field?_append, Json.field?_cons]
  | moved hperm hnodup =>
    left
    rw [Schema.value?, Schema.value?, Json.field?_of_perm hperm hnodup,
      Json.field?_of_perm hperm hnodup]

end Edits

section Respect

variable {α β : Type} {shape : Shape} {declared : List (String × String × Shape)}
  {first second : String}

/-- What is read from a value that passes a check, is read from it after an edit. -/
structure Respects (shape : Shape) (check : Json → Checked α) : Prop where
  of_edit {v v' : Json} {x : α} : Edit shape v v' → check v = .ok x → check v' = .ok x

/-- The same for the fields of an object. -/
structure RespectsFields (declared : List (String × String × Shape)) (check : Fields → Checked α) :
    Prop where
  of_edit {fields fields' : Fields} {x : α} : Distinct declared →
    Edit (.object declared) (.obj fields) (.obj fields') → check fields = .ok x →
    check fields' = .ok x

theorem Respects.plain (check : Json → Checked α) : Respects .plain check where
  of_edit hedit := by cases hedit

theorem Respects.map {check : Json → Checked β} (h : Respects shape check) (f : β → α) :
    Respects shape fun v => (check v).map f where
  of_edit hedit hok := by
    rw [Checked.map_eq_ok_iff] at hok ⊢
    obtain ⟨y, hy, rfl⟩ := hok
    exact ⟨y, h.of_edit hedit hy, rfl⟩

theorem Respects.list {check : Json → Checked α} (h : Respects shape check) :
    Respects (.list shape) (Schema.list check) where
  of_edit {v v' xs} hedit hok := by
    cases hedit with
    | @item _ v v' before after hedit =>
      rw [list_eq_ok_iff] at hok ⊢
      have hmem : check v ∈ xs.map Except.ok := by
        rw [← hok]
        simp
      obtain ⟨x, -, hx⟩ := List.mem_map.mp hmem
      have hsame : check v' = check v := (h.of_edit hedit hx.symm).trans hx
      rw [← hok, List.map_append, List.map_append, List.map_cons, List.map_cons, hsame]

theorem Respects.object {check : Fields → Checked α} (hdistinct : Distinct declared)
    (h : RespectsFields declared check) : Respects (.object declared) (Schema.object check) where
  of_edit {v v' x} hedit hok := by
    have hobj : ∃ fields fields', v = .obj fields ∧ v' = .obj fields' := by
      cases hedit <;> exact ⟨_, _, rfl, rfl⟩
    obtain ⟨fields, fields', rfl, rfl⟩ := hobj
    exact h.of_edit hdistinct hedit hok

theorem RespectsFields.map {check : Fields → Checked β} (h : RespectsFields declared check)
    (f : β → α) : RespectsFields declared fun fields => (check fields).map f where
  of_edit hdistinct hedit hok := by
    rw [Checked.map_eq_ok_iff] at hok ⊢
    obtain ⟨y, hy, rfl⟩ := hok
    exact ⟨y, h.of_edit hdistinct hedit hy, rfl⟩

theorem RespectsFields.both {check : Fields → Checked α} {check' : Fields → Checked β}
    (h : RespectsFields declared check) (h' : RespectsFields declared check') :
    RespectsFields declared fun fields => (check fields).both (check' fields) where
  of_edit {fields fields' x} hdistinct hedit hok := by
    rcases x with ⟨x, y⟩
    rw [Checked.both_eq_ok_iff] at hok ⊢
    exact ⟨h.of_edit hdistinct hedit hok.1, h'.of_edit hdistinct hedit hok.2⟩

variable {check : Json → Checked α}

theorem RespectsFields.required (hfield : (first, second, shape) ∈ declared)
    (h : Respects shape check) :
    RespectsFields declared (Schema.required first second check) where
  of_edit hdistinct hedit hok := by
    rw [required_eq_ok_iff] at hok ⊢
    rcases hedit.value? hdistinct hfield with hsame | ⟨v, v', hv, hv', hinside⟩
    · rwa [hsame]
    · rw [hv] at hok
      obtain ⟨w, hw, hok⟩ := hok
      cases hw
      exact ⟨v', hv', h.of_edit hinside hok⟩

theorem RespectsFields.optional (default : α) (hfield : (first, second, shape) ∈ declared)
    (h : Respects shape check) :
    RespectsFields declared (Schema.optional first second default check) where
  of_edit hdistinct hedit hok := by
    rw [optional_eq_ok_iff] at hok ⊢
    rcases hedit.value? hdistinct hfield with hsame | ⟨v, v', hv, hv', hinside⟩
    · rwa [hsame]
    · rw [hv] at hok
      rcases hok with ⟨hnone, -⟩ | ⟨w, hw, hok⟩
      · cases hnone
      · cases hw
        exact .inr ⟨v', hv', h.of_edit hinside hok⟩

theorem Respects.object_required (first second : String) (h : Respects shape check) :
    Respects (.object [(first, second, shape)])
      (Schema.object (Schema.required first second check)) :=
  .object (List.pairwise_singleton _ _) (.required List.mem_cons_self h)

theorem Respects.object_optional (first second : String) (default : α) (h : Respects shape check) :
    Respects (.object [(first, second, shape)])
      (Schema.object (Schema.optional first second default check)) :=
  .object (List.pairwise_singleton _ _) (.optional default List.mem_cons_self h)

/-- The same is read after any number of edits. -/
theorem Respects.of_edits (h : Respects shape check) {v v' : Json} {x : α}
    (hedits : Relation.ReflTransGen (Edit shape) v v') (hok : check v = .ok x) :
    check v' = .ok x := by
  induction hedits with
  | refl => exact hok
  | tail _ hedit ih => exact h.of_edit hedit ih

end Respect

end Schema

end Concordance
