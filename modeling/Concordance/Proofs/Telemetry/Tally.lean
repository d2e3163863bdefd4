import Concordance.Telemetry.Metrics
import Concordance.Telemetry.Span

/-! The counts of remote queries against the spans that they leave. -/

namespace Concordance.Telemetry

theorem countOf_addTo (counts : Counts) (label : String) (n : Nat) (other : String) :
    countOf (addTo counts label n) other =
      countOf counts other + if other = label then n else 0 := by
  by_cases h : other = label
  · subst h
    rw [countOf, addTo, Json.field?_setField, if_pos rfl, if_pos rfl]
    rfl
  · rw [countOf, addTo, Json.field?_setField, if_neg h, if_neg h]
    rfl

theorem Phase.name_inj {phase phase' : Phase} : phase.name = phase'.name ↔ phase = phase' := by
  cases phase <;> cases phase' <;> decide

theorem querySpanName_inj {phase phase' : Phase} :
    querySpanName phase.name = querySpanName phase'.name ↔ phase = phase' := by
  cases phase <;> cases phase' <;> decide

/-- The spans of the queries of a phase. -/
def spansOf (phase : Phase) (spans : List Span) : List Span :=
  spans.filter (·.name = querySpanName phase.name)

theorem spansOf_append_querySpan (phase phase' : Phase) (spans : List Span) (docSet : String)
    (failure : Option Failure) :
    spansOf phase (spans ++ [querySpan phase' docSet failure]) =
      spansOf phase spans ++ if phase = phase' then [querySpan phase' docSet failure] else [] := by
  rw [spansOf, List.filter_append]
  congr 1
  by_cases h : phase = phase'
  · subst h
    simp [querySpan]
  · have hname : querySpanName phase'.name ≠ querySpanName phase.name := by
      intro heq
      exact h (querySpanName_inj.mp heq).symm
    simp [querySpan, hname, h]

/-- As many queries of a phase are timed as there are spans of it, and as many have failed as there
are such spans with a failure. -/
structure Tallied (m : Metrics) (spans : List Span) : Prop where
  timed : ∀ phase : Phase, countOf m.timed phase.name = (spansOf phase spans).length
  failed : ∀ phase : Phase, countOf m.failed phase.name =
    ((spansOf phase spans).filter (·.failure.isSome)).length

theorem Tallied.observe {m : Metrics} {spans : List Span} (h : Tallied m spans) (phase : Phase)
    (docSet : String) (failure : Option Failure) :
    Tallied (m.observe phase.name failure.isSome)
      (spans ++ [querySpan phase docSet failure]) where
  timed phase' := by
    have htimed : (m.observe phase.name failure.isSome).timed = addTo m.timed phase.name 1 := by
      cases failure <;> rfl
    rw [htimed, countOf_addTo, h.timed, spansOf_append_querySpan, List.length_append]
    simp only [Phase.name_inj]
    split <;> rfl
  failed phase' := by
    rw [spansOf_append_querySpan, List.filter_append, List.length_append, ← h.failed]
    cases failure with
    | none =>
      simp only [Metrics.observe, Metrics.time, Option.isSome_none, Bool.false_eq_true, if_false]
      split <;> rfl
    | some failure =>
      simp only [Metrics.observe, Metrics.time, Metrics.fail, Option.isSome_some, if_true,
        countOf_addTo, Phase.name_inj]
      split <;> rfl

end Concordance.Telemetry
