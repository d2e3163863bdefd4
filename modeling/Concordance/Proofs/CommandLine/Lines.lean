import Concordance.Proofs.CommandLine.Runs
import Concordance.Proofs.Json.ReadBack

/-! The lines that are printed for matches, and what they hold. -/

namespace Concordance

open Corpus (Match Reference)

namespace Corpus

variable {depth : Nat} {t : CodePoints} {part : Option CodePoints} {r : Reference} {m : Match}

/-- The texts of a match that is not torn consist of characters. -/
theorem Match.eq_ofChars_of_mem_texts (h : ¬m.Torn) (ht : t ∈ m.texts) :
    ∃ s, t = CodePoints.ofChars s := by
  rw [← CodePoints.isWhole_iff, CodePoints.isWhole_iff_forall]
  exact fun n hn => h ⟨t, ht, n, hn⟩

theorem exact_str (h : ∃ s, t = CodePoints.ofChars s) : (Json.str t).Exact depth := by
  obtain ⟨s, rfl⟩ := h
  exact .str depth s

theorem exact_optionalText (h : ∀ t ∈ part.toList, ∃ s, t = CodePoints.ofChars s) :
    (optionalText part).Exact depth := by
  cases part with
  | none => exact .null depth
  | some t => exact exact_str (h t List.mem_cons_self)

theorem Reference.exact_toJson (h : ∀ t ∈ r.texts, ∃ s, t = CodePoints.ofChars s) :
    r.toJson.Exact (depth + 1) := by
  simp only [Reference.texts, List.forall_mem_cons, List.forall_mem_append] at h
  obtain ⟨hdocSet, hcollection, hbookCode, hchapter, hverses⟩ := h
  refine .obj (by simp) ?_
  simp only [List.forall_mem_cons, List.not_mem_nil, false_imp_iff, implies_true, and_true]
  exact ⟨exact_str hdocSet, exact_str hcollection, exact_str hbookCode,
    exact_optionalText hchapter, exact_optionalText hverses⟩

theorem Match.exact_toJson (h : ¬m.Torn) : m.toJson.Exact (depth + 2) := by
  have htexts : ∀ t ∈ m.texts, ∃ s, t = CodePoints.ofChars s :=
    fun t ht => m.eq_ofChars_of_mem_texts h ht
  simp only [Match.texts, List.forall_mem_cons, List.forall_mem_append] at htexts
  obtain ⟨hreference, htext, hmatched⟩ := htexts
  refine .obj (by simp) ?_
  simp only [List.forall_mem_cons, List.not_mem_nil, false_imp_iff, implies_true, and_true]
  refine ⟨Reference.exact_toJson hreference, exact_str htext, .arr ?_⟩
  intro v hv
  obtain ⟨t, ht, rfl⟩ := List.mem_map.mp hv
  exact exact_str (hmatched t ht)

theorem optionalText_injective : Function.Injective optionalText := by
  intro part part' h
  cases part <;> cases part' <;> simp_all [optionalText]

theorem Reference.toJson_injective : Function.Injective Reference.toJson := by
  rintro ⟨docSet, collection, bookCode, chapter, verses⟩
    ⟨docSet', collection', bookCode', chapter', verses'⟩ h
  simpa [Reference.toJson, optionalText_injective.eq_iff] using h

theorem Match.toJson_injective : Function.Injective Match.toJson := by
  rintro ⟨⟨reference, text⟩, matched⟩ ⟨⟨reference', text'⟩, matched'⟩ h
  have hstr : Function.Injective Json.str := fun _ _ => Json.str.inj
  simpa [Match.toJson, Reference.toJson_injective.eq_iff, hstr.list_map.eq_iff, and_assoc] using h

end Corpus

namespace CommandLine

/-- What is printed for matches. -/
def printed (found : List Match) : String :=
  ({ exitCode := 0, output := found.map Match.line } : Report).text

theorem splitOn_flatMap {lines : List (List Char)} (h : ∀ line ∈ lines, '\n' ∉ line) :
    (lines.flatMap (· ++ ['\n'])).splitOn '\n' = lines ++ [[]] := by
  induction lines with
  | nil => rfl
  | cons line lines ih =>
    rw [List.forall_mem_cons] at h
    have hfree : ∀ c ∈ line, (c == '\n') = false := by
      intro c hc
      rw [beq_eq_false_iff_ne]
      rintro rfl
      exact h.1 hc
    rw [List.splitOn_eq_splitOnP] at ih ⊢
    rw [List.flatMap_cons, List.append_assoc, List.singleton_append,
      List.splitOnP_append_cons_of_forall_mem hfree '\n' rfl, ih h.2, List.cons_append]

variable {limits : Json.Limits} {found : List Match} {m : Match}

theorem notMem_line (h : ¬m.Torn) : '\n' ∉ m.line := by
  intro hmem
  have hexact : m.toJson.Exact 2 := Match.exact_toJson h
  exact absurd (hexact.le_of_mem_render '\n' hmem) (by decide)

theorem splitOn_printed (hwhole : ∀ m ∈ found, ¬m.Torn) :
    (printed found).toList.splitOn '\n' = found.map Match.line ++ [[]] := by
  rw [printed, Report.text, String.toList_ofList]
  apply splitOn_flatMap
  intro line hline
  obtain ⟨m, hm, rfl⟩ := List.mem_map.mp hline
  exact notMem_line (hwhole m hm)

theorem read_line (hdepth : 2 ≤ limits.depth) (h : ¬m.Torn) :
    Json.read limits m.line = .ok m.toJson := by
  apply Json.read_render
  rw [← Nat.sub_add_cancel hdepth]
  exact Match.exact_toJson h

theorem map_read_line (hdepth : 2 ≤ limits.depth) (hwhole : ∀ m ∈ found, ¬m.Torn) :
    found.map (Json.read limits ·.line) = found.map fun m => .ok m.toJson :=
  List.map_congr_left fun m hm => read_line hdepth (hwhole m hm)

/-- For each match one line is printed, in order, and nothing else: no text in a match, whatever
line feeds, quotes or control characters it has, opens a line of its own or closes one. Read as
JSON, with room for an object in another, a line gives back the reference, the text and what the
words matched, a missing chapter or verse told apart from an empty one. So what is printed tells the
matches. The texts consist of characters: no match is torn. -/
theorem printed_reads_back {limits : Json.Limits} (hdepth : 2 ≤ limits.depth)
    {found : List Match} (hwhole : ∀ m ∈ found, ¬m.Torn) :
    (∀ (s : Settings) (transport : Store.Transport) (ids : Telemetry.Ids)
        (phrase docSet collection : String) (wholeWords : Option Bool) (limit : Nat),
      ((s.request phrase docSet collection wholeWords).getResults (s.endpoint.store transport)
        limit {} { ids := ids }).1 = .ok found →
      (runSearch s transport ids phrase docSet collection wholeWords limit).text =
        printed found) ∧
    (printed found).toList.splitOn '\n' = found.map Match.line ++ [[]] ∧
    found.map (Json.read limits ·.line) = found.map (fun m =>
      let r := m.candidate.reference
      let part : Option CodePoints → Json := fun part => part.elim .null .str
      .ok (.obj [
        ("reference", .obj [("docSet", .str r.docSet), ("collection", .str r.collection),
          ("bookCode", .str r.bookCode), ("chapter", part r.chapter), ("verses", part r.verses)]),
        ("text", .str m.candidate.text), ("matches", .arr (m.matched.map .str))])) ∧
    ∀ found', (∀ m ∈ found', ¬m.Torn) → printed found' = printed found → found' = found := by
  refine ⟨?_, splitOn_printed hwhole, ?_, ?_⟩
  · intro s transport ids phrase docSet collection wholeWords limit hget
    obtain ⟨hprints, -⟩ := runSearch_of_ok (Prod.ext hget rfl)
    rw [Report.text, (hprints.of_forall hwhole).2.2]
    rfl
  · rw [map_read_line hdepth hwhole]
    apply List.map_congr_left
    rintro ⟨⟨⟨docSet, collection, bookCode, chapter, verses⟩, text⟩, matched⟩ -
    cases chapter <;> cases verses <;> rfl
  · intro found' hwhole' hsame
    have hlines : found'.map Match.line = found.map Match.line := by
      apply (List.append_left_inj [[]]).mp
      rw [← splitOn_printed hwhole', ← splitOn_printed hwhole, hsame]
    have hread : found'.map (Json.read limits ·.line) = found.map (Json.read limits ·.line) := by
      have hread := congrArg (List.map fun line : List Char => Json.read limits line) hlines
      rwa [List.map_map, List.map_map] at hread
    rw [map_read_line hdepth hwhole', map_read_line hdepth hwhole] at hread
    have hinjective : Function.Injective
        fun m : Match => (.ok m.toJson : Except Json.ReadError Json) :=
      fun _ _ h => Match.toJson_injective (Except.ok.inj h)
    exact hinjective.list_map hread

/-- Line feeds, quotes and a control character in a match, an empty chapter and a missing verse. -/
theorem printed_reads_back_unruly :
    let m : Match := ⟨⟨⟨"a\nb", "", "GEN", some "", none⟩, "\"\\\x01"⟩, ["\n", "\""]⟩
    2 ≤ Store.bodyLimits.depth ∧ ¬m.Torn ∧
    (printed [m, m]).toList.splitOn '\n' = [m.line, m.line, []] ∧
    Json.read Store.bodyLimits m.line = .ok (.obj [
      ("reference", .obj [("docSet", .str "a\nb"), ("collection", .str ""),
        ("bookCode", .str "GEN"), ("chapter", .str ""), ("verses", .null)]),
      ("text", .str "\"\\\x01"), ("matches", .arr [.str "\n", .str "\""])]) := by
  intro m
  have hdepth : 2 ≤ Store.bodyLimits.depth := by decide
  have hwhole : ¬m.Torn := m.fitsLine_iff.mp (by decide +kernel)
  have hall : ∀ x ∈ [m, m], ¬x.Torn := by simp [hwhole]
  obtain ⟨-, hsplit, hread, -⟩ := printed_reads_back hdepth hall
  exact ⟨hdepth, hwhole, hsplit, (List.cons.inj hread).1⟩

end CommandLine

end Concordance
