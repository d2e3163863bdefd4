import Concordance.Telemetry.Record
import Mathlib.Data.List.Forall2

/-! What is logged under the name of a secret does not reach the log. -/

namespace Concordance.Telemetry

/-- The records differ at most in the values that were logged under the names of secrets, in
whatever mixture of upper and lower case. -/
structure Record.SameButSecrets (r r' : Record) : Prop where
  logger : r.logger = r'.logger
  level : r.level = r'.level
  message : r.message = r'.message
  failure : r.failure = r'.failure
  extra : List.Forall₂ (fun f f' => f.1 = f'.1 ∧
    (Text.lowerName f.1 ∉ ["password", "token", "api_key", "secret", "authorization"] →
      f.2 = f'.2)) r.extra r'.extra

variable {r r' : Record}

theorem fieldValue_of_isSecret {name : String} (h : isSecret name) (x : LogValue) :
    fieldValue name x = .str "[REDACTED]" := by
  unfold fieldValue
  rw [if_pos h]

theorem fieldValue_eq_of_sameUnlessSecret {name : String} {x x' : LogValue}
    (h : Text.lowerName name ∉ secretNames → x = x') : fieldValue name x = fieldValue name x' := by
  by_cases hsecret : isSecret name
  · rw [fieldValue_of_isSecret hsecret, fieldValue_of_isSecret hsecret]
  · have hname : Text.lowerName name ∉ secretNames := by
      intro hmem
      exact hsecret (List.contains_iff_mem.mpr hmem)
    rw [h hname]

namespace Record.SameButSecrets

theorem names_eq (h : r.SameButSecrets r') : r.extra.map (·.1) = r'.extra.map (·.1) := by
  rw [← List.forall₂_eq_eq_eq, List.forall₂_map_left_iff, List.forall₂_map_right_iff]
  exact h.extra.imp fun _ _ hf => hf.1

theorem extraFields_eq (h : r.SameButSecrets r') : r.extraFields = r'.extraFields := by
  unfold Record.extraFields
  have hextra := h.extra
  generalize r.extra = extra, r'.extra = extra' at hextra
  induction hextra with
  | nil => rfl
  | @cons f f' _ _ hf _ ih =>
    obtain ⟨name, x⟩ := f
    obtain ⟨name', x'⟩ := f'
    obtain ⟨rfl, hx⟩ := hf
    by_cases hwritten : isWritten name
    · simp [hwritten, ih, fieldValue_eq_of_sameUnlessSecret hx]
    · simp [hwritten, ih]

theorem fields_eq (h : r.SameButSecrets r') (time : String) (c : Context) :
    r.fields time c = r'.fields time c := by
  unfold Record.fields
  rw [h.extraFields_eq, Record.baseFields, Record.baseFields, h.logger, h.level, h.message,
    h.failure]

end Record.SameButSecrets

/-- Two records that differ at most in the values of secrets are written as the same line, or
neither of them can be written. -/
theorem Record.line_eq_of_sameButSecrets (time : String) (c : Context)
    (h : r.SameButSecrets r') : r.line? time c = r'.line? time c := by
  have hname : ∀ r : Record, r.extra.any (·.1 = messageName) =
      (r.extra.map (·.1)).any (· = messageName) := by
    intro r
    rw [List.any_map]
    rfl
  unfold Record.line?
  rw [h.fields_eq, hname, hname, h.names_eq]

theorem Record.line_eq_of_sameButSecrets_token :
    let r : Record :=
      { logger := "a", level := "INFO", message := "m",
        extra := [("to\u212Aen", .str "s"), ("user", .str "u"), ("PassWord", .int 1)] }
    let r' : Record :=
      { logger := "a", level := "INFO", message := "m",
        extra := [("to\u212Aen", .null), ("user", .str "u"), ("PassWord", .list [.bool true])] }
    r.SameButSecrets r' ∧ r.line? "1970-01-01T00:00:00+00:00" [("trace_id", .str "t")] =
      r'.line? "1970-01-01T00:00:00+00:00" [("trace_id", .str "t")] := by
  intro r r'
  have hsame : r.SameButSecrets r' := by
    refine ⟨rfl, rfl, rfl, rfl, .cons ⟨rfl, ?_⟩ (.cons ⟨rfl, fun _ => rfl⟩ (.cons ⟨rfl, ?_⟩ .nil))⟩
    all_goals exact fun h => absurd (by decide +kernel) h
  exact ⟨hsame, Record.line_eq_of_sameButSecrets _ _ hsame⟩

end Concordance.Telemetry
