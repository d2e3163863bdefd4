import Concordance.Proofs.Json.FieldTexts
import Concordance.Telemetry.Record

/-! What a line of the log tells of its record and of the context of its time, and what of it can be
replaced by something that was logged beside the message. -/

namespace Concordance.Telemetry

/-- What a line is to tell: level, logger and message of the record, the identifiers of the context,
and the doc set and the collection that are bound in it, unless they are empty. -/
inductive Record.Core (c : Context) (r : Record) : String → Json → Prop where
  | level : Core c r "level" (.str r.level)
  | logger : Core c r "logger" (.str r.logger)
  | message : Core c r "message" (.str (clip messageLimit r.message))
  | trace : Core c r "trace_id" ((Json.field? c "trace_id").getD (.str ""))
  | span : Core c r "span_id" ((Json.field? c "span_id").getD (.str ""))
  | docSet {v : Json} : Json.field? c "doc_set" = some v → v.isTrue → Core c r "doc_set" v
  | collection {v : Json} :
      Json.field? c "collection" = some v → v.isTrue → Core c r "collection" v

/-- The names of what a line is to tell. -/
def coreNames : List String :=
  ["level", "logger", "message", "trace_id", "span_id", "doc_set", "collection"]

/-- The fields of a line before anything logged beside the message is set. -/
def Record.ownFields (time : String) (c : Context) (r : Record) : List (String × Json) :=
  ("timestamp", .str time) :: r.baseFields c

section Fields

variable {time name line : String} {c : Context} {r : Record} {v : Json}

theorem field?_extraFields (r : Record) (name : String) :
    Json.field? r.extraFields name =
      if isWritten name then (Json.field? r.extra name).map (fieldValue name) else none := by
  unfold Record.extraFields
  induction r.extra with
  | nil => simp
  | cons f extra ih =>
    obtain ⟨other, x⟩ := f
    by_cases hname : other = name
    · subst hname
      by_cases hwritten : isWritten other <;> simp [hwritten, ih]
    · by_cases hwritten : isWritten other <;> simp [hwritten, hname, ih]

theorem nodup_extraFields (h : (r.extra.map (·.1)).Nodup) : (r.extraFields.map (·.1)).Nodup := by
  unfold Record.extraFields
  rw [List.map_map]
  exact (List.filter_sublist.map _).nodup h

theorem boundFields_eq (c : Context) :
    boundFields c = ["doc_set", "collection"].filterMap fun name =>
      ((Json.field? c name).filter Json.isTrue).map (name, ·) := by
  unfold boundFields
  congr 1
  funext name
  cases Json.field? c name with
  | none => rfl
  | some v => by_cases hv : v.isTrue <;> simp [Option.filter, hv]

theorem mem_boundFields :
    (name, v) ∈ boundFields c ↔
      name ∈ ["doc_set", "collection"] ∧ Json.field? c name = some v ∧ v.isTrue := by
  simp only [boundFields_eq, List.mem_filterMap, Option.map_eq_some_iff, Option.filter_eq_some_iff,
    Prod.mk.injEq]
  constructor
  · rintro ⟨other, hother, w, hw, rfl, rfl⟩
    exact ⟨hother, hw⟩
  · rintro ⟨hname, hv⟩
    exact ⟨name, hname, v, hv, rfl, rfl⟩

private theorem map_fst_filterMap_sublist {α β : Type} (f : α → Option β) (keys : List α) :
    ((keys.filterMap fun key => (f key).map (key, ·)).map (·.1)).Sublist keys := by
  induction keys with
  | nil => exact .slnil
  | cons key keys ih => cases hkey : f key <;> simp [hkey, ih]

private theorem map_fst_textField_sublist (name : String) (text : Option String) :
    ((textField name text).map (·.1)).Sublist [name] := by
  cases text <;> simp [textField]

/-- No name is there twice before anything logged beside the message is set. -/
theorem nodup_ownFields (time : String) (c : Context) (r : Record) :
    ((r.ownFields time c).map (·.1)).Nodup := by
  have hcomponent := map_fst_textField_sublist "component" (component? r.logger)
  have hfailure := map_fst_textField_sublist "exception" r.failure
  have hbound : ((boundFields c).map (·.1)).Sublist ["doc_set", "collection"] := by
    rw [boundFields_eq]
    exact map_fst_filterMap_sublist _ _
  have hnames : (r.ownFields time c).map (·.1) =
      ["timestamp", "level", "logger", "message", "trace_id", "span_id"] ++
        ((textField "component" (component? r.logger)).map (·.1) ++
          ((boundFields c).map (·.1) ++ (textField "exception" r.failure).map (·.1))) := by
    simp [Record.ownFields, Record.baseFields]
  have hsub := (List.Sublist.refl ["timestamp", "level", "logger", "message", "trace_id",
    "span_id"]).append (hcomponent.append (hbound.append hfailure))
  rw [hnames]
  exact hsub.nodup (by decide)

theorem Record.core_iff :
    r.Core c name v ↔ name ∈ coreNames ∧ (name, v) ∈ r.ownFields time c := by
  constructor
  · intro h
    cases h with
    | level | logger | message | trace | span =>
      simp [coreNames, Record.ownFields, Record.baseFields]
    | docSet hv htrue | collection hv htrue =>
      simp [coreNames, Record.ownFields, Record.baseFields, mem_boundFields, hv, htrue]
  · rintro ⟨hname, hmem⟩
    simp only [coreNames, List.mem_cons, List.not_mem_nil, or_false] at hname
    rcases hname with rfl | rfl | rfl | rfl | rfl | rfl | rfl
    -- One field of each name is left.
    all_goals simp [Record.ownFields, Record.baseFields, textField, mem_boundFields] at hmem
    exacts [hmem ▸ .level, hmem ▸ .logger, hmem ▸ .message, hmem ▸ .trace, hmem ▸ .span,
      .docSet hmem.1 hmem.2, .collection hmem.1 hmem.2]

theorem nodup_fields (time : String) (c : Context) (r : Record) :
    ((r.fields time c).map (·.1)).Nodup :=
  Json.nodup_setFields (nodup_ownFields time c r) r.extraFields

/-- What is written of the fields logged beside the message comes first, and what the record and its
context have of themselves comes second. -/
theorem field?_fields (h : (r.extra.map (·.1)).Nodup) (time : String) (c : Context)
    (name : String) :
    Json.field? (r.fields time c) name =
      (if isWritten name then (Json.field? r.extra name).map (fieldValue name) else none).or
        (Json.field? (r.ownFields time c) name) := by
  rw [← field?_extraFields]
  exact Json.field?_setFields (nodup_extraFields h) _ _

theorem fieldTexts_of_line (hline : r.line? time c = some line) :
    Json.fieldTexts line.toList = some ((r.fields time c).map fun f => (f.1, f.2.render)) := by
  simp only [Record.line?] at hline
  split at hline
  · cases hline
  split at hline
  · obtain rfl := Option.some.inj hline
    rw [Json.compact, String.toList_ofList]
    exact Json.fieldTexts_render _
  · cases hline

theorem isWritten_of_mem_coreNames : ∀ name ∈ coreNames, isWritten name = (name != "message") := by
  decide +kernel

end Fields

/-- A line can be taken apart into its fields, no name is there twice, and what it is to tell stands
in it unless something else was logged under that name; the message stands in it in any case. Where
no doc set or no collection is bound, the line shows under that name what was logged under it. -/
theorem Record.core_shown_iff {time : String} {c : Context} {r : Record} {line : String}
    (hline : r.line? time c = some line) (hextra : (r.extra.map (·.1)).Nodup) :
    ∃ texts, Json.fieldTexts line.toList = some texts ∧ (texts.map (·.1)).Nodup ∧
      (∀ name v, r.Core c name v → ((name, v.render) ∈ texts ↔
        name = "message" ∨ ∀ x, (name, x) ∈ r.extra → (fieldValue name x).render = v.render)) ∧
      ∀ name ∈ ["doc_set", "collection"], (∀ v, ¬ r.Core c name v) → ∀ text,
        ((name, text) ∈ texts ↔ ∃ x, (name, x) ∈ r.extra ∧ (fieldValue name x).render = text) := by
  have hmem : ∀ name text, (name, text) ∈ (r.fields time c).map (fun f => (f.1, f.2.render)) ↔
      ∃ v, Json.field? (r.fields time c) name = some v ∧ v.render = text := by
    intro name text
    simp only [Json.field?_eq_some_iff (nodup_fields time c r), List.mem_map, Prod.mk.injEq,
      Prod.exists]
    constructor
    · rintro ⟨_, v, hv, rfl, rfl⟩
      exact ⟨v, hv, rfl⟩
    · rintro ⟨v, hv, rfl⟩
      exact ⟨name, v, hv, rfl, rfl⟩
  simp only [← Json.field?_eq_some_iff hextra]
  refine ⟨_, fieldTexts_of_line hline, ?nodup, ?shown, ?unbound⟩
  case nodup =>
    rw [List.map_map]
    exact nodup_fields time c r
  case shown =>
    intro name v hcore
    obtain ⟨hname, hown⟩ : _ ∧ (name, v) ∈ r.ownFields time c := Record.core_iff.mp hcore
    rw [← Json.field?_eq_some_iff (nodup_ownFields time c r)] at hown
    rw [hmem, field?_fields hextra, hown, isWritten_of_mem_coreNames name hname]
    by_cases hmessage : name = "message"
    · simp [hmessage]
    · cases hx : Json.field? r.extra name <;> simp [hmessage]
  case unbound =>
    have hbound : ∀ name ∈ ["doc_set", "collection"], name ∈ coreNames ∧ name ≠ "message" := by
      decide
    intro name hname hnone text
    obtain ⟨hcore, hmessage⟩ := hbound name hname
    have hown : Json.field? (r.ownFields time c) name = none := by
      rw [Option.eq_none_iff_forall_ne_some]
      intro v hv
      rw [Json.field?_eq_some_iff (nodup_ownFields time c r)] at hv
      exact hnone v (Record.core_iff.mpr ⟨hcore, hv⟩)
    rw [hmem, field?_fields hextra, hown, isWritten_of_mem_coreNames name hcore]
    simp [hmessage]

theorem Record.core_shown_iff_forged_level :
    let c : Context := [("trace_id", .str "t"), ("span_id", .str "s"), ("doc_set", .str "LIB")]
    let r : Record :=
      { logger := "a", level := "INFO", message := "m",
        extra := [("level", .str "DEBUG"), ("doc_set", .path "./LIB"), ("collection", .str "Y")] }
    ∃ line texts, r.line? "1970-01-01T00:00:00+00:00" c = some line ∧
      Json.fieldTexts line.toList = some texts ∧
      ("level", (Json.str "INFO").render) ∉ texts ∧ ("message", (Json.str "m").render) ∈ texts ∧
      ("doc_set", (Json.str "LIB").render) ∈ texts ∧
      ("collection", (Json.str "Y").render) ∈ texts := by
  intro c r
  obtain ⟨line, hline⟩ : ∃ line, r.line? "1970-01-01T00:00:00+00:00" c = some line :=
    Option.isSome_iff_exists.mp (by decide +kernel)
  obtain ⟨texts, htexts, -, hcore, hunbound⟩ := Record.core_shown_iff hline (by decide)
  have hnone : ∀ v, ¬ r.Core c "collection" v := by
    intro v hv
    obtain ⟨-, hmem⟩ : _ ∧ ("collection", v) ∈ r.ownFields "" c := Record.core_iff.mp hv
    have hname : "collection" ∉ (r.ownFields "" c).map (·.1) := by decide +kernel
    exact hname (List.mem_map_of_mem hmem)
  refine ⟨line, texts, hline, htexts, ?level, ?message, ?docSet, ?collection⟩
  case level =>
    intro hmem
    have hall := ((hcore _ _ .level).mp hmem).resolve_left (by decide)
    have hsame := hall (.str "DEBUG") (by simp [r])
    exact absurd hsame (by decide +kernel)
  case message =>
    have hclip : clip messageLimit r.message = "m" := by decide +kernel
    exact hclip ▸ (hcore _ _ .message).mpr (.inl rfl)
  case docSet =>
    have hall : ∀ f ∈ r.extra, f.1 = "doc_set" →
        (fieldValue "doc_set" f.2).render = (Json.str "LIB").render := by
      decide +kernel
    exact (hcore _ _ (.docSet rfl rfl)).mpr (.inr fun x hx => hall _ hx rfl)
  case collection =>
    exact (hunbound _ (by decide) hnone _).mpr ⟨.str "Y", by simp [r], by decide +kernel⟩

/-- The line of a record whose level, logger, identifiers, doc set and collection are all replaced
by what was logged under their names. -/
theorem forged_fields_shown :
    let c : Context := [("trace_id", .str "t"), ("span_id", .str "s"), ("doc_set", .str "LIB"),
      ("collection", .str "bibles")]
    let r : Record :=
      { logger := "a", level := "INFO", message := "m",
        extra := [("level", .str "DEBUG"), ("logger", .str "b"), ("trace_id", .str "0"),
          ("span_id", .str "1"), ("doc_set", .str "X"), ("collection", .str "Y")] }
    (∀ f ∈ r.extra, f.1 ∉ ownFields) ∧
      ∃ line texts, r.line? "1970-01-01T00:00:00+00:00" c = some line ∧
        Json.fieldTexts line.toList = some texts ∧
        ∀ f ∈ r.extra, ∃ v, r.Core c f.1 v ∧ (f.1, v.render) ∉ texts ∧
          (f.1, (fieldValue f.1 f.2).render) ∈ texts := by
  intro c r
  obtain ⟨line, hline⟩ : ∃ line, r.line? "1970-01-01T00:00:00+00:00" c = some line :=
    Option.isSome_iff_exists.mp (by decide +kernel)
  refine ⟨by decide +kernel, line, _, hline, fieldTexts_of_line hline, ?_⟩
  simp only [r, List.forall_mem_cons]
  exact ⟨⟨_, .level, by decide +kernel⟩, ⟨_, .logger, by decide +kernel⟩,
    ⟨_, .trace, by decide +kernel⟩, ⟨_, .span, by decide +kernel⟩,
    ⟨_, .docSet rfl rfl, by decide +kernel⟩, ⟨_, .collection rfl rfl, by decide +kernel⟩,
    List.forall_mem_nil _⟩

end Concordance.Telemetry
