import Concordance.Json.Value
import Mathlib.Data.List.Basic
import Mathlib.Data.List.Nodup

/-! The fields of an object as a map from their keys. -/

namespace Concordance.Json

variable {α : Type} {fields fields' : List (String × α)} {key : String}

@[simp] theorem field?_nil (key : String) : field? ([] : List (String × α)) key = none := rfl

@[simp] theorem field?_cons (k : String) (v : α) (fields : List (String × α)) (key : String) :
    field? ((k, v) :: fields) key = if k = key then some v else field? fields key := by
  by_cases hk : k = key <;> simp [field?, hk]

theorem field?_append (fields fields' : List (String × α)) (key : String) :
    field? (fields ++ fields') key = (field? fields key).or (field? fields' key) := by
  rw [field?, List.find?_append, Option.map_or, field?, field?]

theorem field?_eq_none (h : key ∉ fields.map (·.1)) : field? fields key = none := by
  rw [field?, Option.map_eq_none_iff, List.find?_eq_none]
  intro f hf heq
  exact h (List.mem_map.mpr ⟨f, hf, of_decide_eq_true heq⟩)

/-- A field whose value is replaced shows the new value wherever it showed the old one. -/
theorem field?_replaced (before after : List (String × α)) (k : String) (v v' : α) (key : String) :
    field? (before ++ (k, v') :: after) key = field? (before ++ (k, v) :: after) key ∨
      k = key ∧ field? (before ++ (k, v) :: after) key = some v ∧
        field? (before ++ (k, v') :: after) key = some v' := by
  simp only [field?_append, field?_cons]
  by_cases hk : k = key
  · cases field? before key <;> simp [hk]
  · simp [hk]

/-- The order of the fields does not matter if no key is there twice. -/
theorem field?_of_perm (h : fields.Perm fields') (hnodup : (fields.map (·.1)).Nodup)
    (key : String) : field? fields key = field? fields' key := by
  induction h with
  | nil => rfl
  | cons f _ ih =>
    rw [field?_cons, field?_cons, ih (List.nodup_cons.mp hnodup).2]
  | swap f g fields =>
    have hne : g.1 ≠ f.1 := by
      intro heq
      exact (List.nodup_cons.mp hnodup).1 (by simp [heq])
    rw [field?_cons, field?_cons, field?_cons, field?_cons]
    by_cases hf : f.1 = key
    · rw [if_pos hf, if_pos hf, if_neg (hf ▸ hne)]
    · rw [if_neg hf, if_neg hf]
  | trans h _ ih ih' => exact (ih hnodup).trans (ih' ((h.map (·.1)).nodup hnodup))

theorem setField_of_notMem (h : key ∉ fields.map (·.1)) (v : α) :
    setField fields key v = fields ++ [(key, v)] := by
  induction fields with
  | nil => rfl
  | cons f fields ih =>
    rw [List.map_cons, List.mem_cons, not_or] at h
    rw [setField, if_neg (Ne.symm h.1), ih h.2, List.cons_append]

theorem map_fst_setField_of_mem (h : key ∈ fields.map (·.1)) (v : α) :
    (setField fields key v).map (·.1) = fields.map (·.1) := by
  induction fields with
  | nil => cases h
  | cons f fields ih =>
    rw [setField]
    split
    · rfl
    next hf =>
      have hmem := (List.mem_cons.mp h).resolve_left (Ne.symm hf)
      rw [List.map_cons, List.map_cons, ih hmem]

/-- No key is there twice after fields have been set, if none was before. -/
theorem nodup_setField (h : (fields.map (·.1)).Nodup) (key : String) (v : α) :
    ((setField fields key v).map (·.1)).Nodup := by
  by_cases hmem : key ∈ fields.map (·.1)
  · rwa [map_fst_setField_of_mem hmem]
  · rw [setField_of_notMem hmem, List.map_append, List.nodup_append]
    refine ⟨h, List.nodup_singleton key, ?_⟩
    rintro k hk k' hk' rfl
    rw [List.mem_singleton.mp hk'] at hk
    exact hmem hk

theorem nodup_setFields (h : (fields.map (·.1)).Nodup) (new : List (String × α)) :
    ((setFields fields new).map (·.1)).Nodup := by
  induction new generalizing fields with
  | nil => exact h
  | cons f new ih => exact ih (nodup_setField h f.1 f.2)

/-- A field that is set has the new value, and all others keep theirs. -/
theorem field?_setFields {new : List (String × α)} (hnodup : (new.map (·.1)).Nodup)
    (fields : List (String × α)) (key : String) :
    field? (setFields fields new) key = (field? new key).or (field? fields key) := by
  induction new generalizing fields with
  | nil => rfl
  | cons f new ih =>
    obtain ⟨hf, hnew⟩ := List.nodup_cons.mp hnodup
    have hset : setFields fields (f :: new) = setFields (setField fields f.1 f.2) new := rfl
    rw [hset, ih hnew, field?_setField, field?_cons]
    by_cases hkey : f.1 = key
    · rw [if_pos hkey.symm, if_pos hkey, field?_eq_none (hkey ▸ hf)]
      rfl
    · rw [if_neg (Ne.symm hkey), if_neg hkey]

theorem field?_eq_some_iff (hnodup : (fields.map (·.1)).Nodup) {v : α} :
    field? fields key = some v ↔ (key, v) ∈ fields := by
  induction fields with
  | nil => simp
  | cons f fields ih =>
    obtain ⟨hf, hfields⟩ := List.nodup_cons.mp hnodup
    rw [field?_cons, List.mem_cons, ← ih hfields, Prod.ext_iff]
    by_cases hkey : f.1 = key
    · rw [if_pos hkey, field?_eq_none (hkey ▸ hf)]
      simp [hkey, eq_comm]
    · simp [hkey, Ne.symm hkey]

end Concordance.Json
