import Concordance.Proofs.CommandLine.Printing
import Concordance.Proofs.Search.Limits

/-! What a run of the command line prints, and what a limit changes about it. -/

namespace Concordance.CommandLine

open Corpus (Match)
open Search (Question Request Session Walk)

/-- How the matches of a search are printed. -/
inductive Report.Prints (report : Report) : List Match → Prop where
  /-- all of them, one line each -/
  | all {found : List Match} :
      (∀ m ∈ found, ¬m.Torn) → report.exitCode = 0 → report.escaped = none →
      report.output = found.map Match.line → Prints report found
  /-- those in front of one that is torn, where the run ends -/
  | upTo {before after : List Match} {m : Match} :
      (∀ x ∈ before, ¬x.Torn) → m.Torn → report.exitCode = 1 →
      report.escaped = some "TypeError" → report.output = before.map Match.line →
      Prints report (before ++ m :: after)

section Reports

variable {report : Report} {found : List Match}

theorem Report.Prints.of_forall (h : report.Prints found) (hwhole : ∀ m ∈ found, ¬m.Torn) :
    report.exitCode = 0 ∧ report.escaped = none ∧ report.output = found.map Match.line := by
  cases h with
  | all _ hexit hescaped houtput => exact ⟨hexit, hescaped, houtput⟩
  | upTo _ hm => exact absurd hm (hwhole _ List.mem_append_cons_self)

theorem Report.Prints.of_exitCode_eq_zero (h : report.Prints found) (hexit : report.exitCode = 0) :
    (∀ m ∈ found, ¬m.Torn) ∧ report.output = found.map Match.line := by
  cases h with
  | all hwhole _ _ houtput => exact ⟨hwhole, houtput⟩
  | upTo _ _ hone => exact absurd (hexit.symm.trans hone) (by decide)

/-- A report that is empty where the search fails, and prints what it gives otherwise, is all or
nothing exactly if no match that the search gives is torn. -/
theorem Report.all_or_nothing_iff {failed : Prop} {results : Except Search.Failure (List Match)}
    (hfails : failed → (∃ e, results = .error e) ∧ report.exitCode = 1 ∧ report.output = [])
    (hprints : ¬failed → ∃ found, results = .ok found ∧ report.Prints found) :
    (report.exitCode = 1 ∧ report.output = [] ↔ failed) ∧
        (¬failed → report.exitCode = 0 ∧ ∃ found, results = .ok found ∧
          report.output = found.map Match.line) ↔
      ∀ found, results = .ok found → ∀ m ∈ found, ¬m.Torn := by
  by_cases hfailed : failed
  · obtain ⟨⟨e, rfl⟩, hempty⟩ := hfails hfailed
    simp [hfailed, hempty]
  · obtain ⟨found, rfl, hfound⟩ := hprints hfailed
    constructor
    · rintro ⟨-, hall⟩ found' ⟨⟩
      exact (hfound.of_exitCode_eq_zero (hall hfailed).1).1
    · intro hwhole
      obtain ⟨hexit, -, houtput⟩ := hfound.of_forall (hwhole found rfl)
      refine ⟨iff_of_false ?_ hfailed, fun _ => ⟨hexit, found, rfl, houtput⟩⟩
      rintro ⟨hone, -⟩
      exact absurd (hexit.symm.trans hone) (by decide)

end Reports

section Search

variable {s : Settings} {transport : Store.Transport} {ids : Telemetry.Ids}
  {phrase docSet collection : String} {wholeWords : Option Bool} {limit : Nat}
  {w : Walk} {session : Session}

theorem runSearch_of_ok {found : List Match}
    (h : (s.request phrase docSet collection wholeWords).getResults (s.endpoint.store transport)
      limit {} { ids := ids } = (.ok found, w, session)) :
    let report := runSearch s transport ids phrase docSet collection wholeWords limit
    report.Prints found ∧ report.sent = session.sent := by
  rcases exists_first_torn found with hnone | ⟨before, m, after, rfl, hbefore, hm⟩
  · simp only [runSearch, h, printLines_of_forall hnone]
    exact ⟨.all hnone rfl rfl rfl, rfl⟩
  · simp only [runSearch, h, printLines_append hbefore hm]
    exact ⟨.upTo hbefore hm rfl rfl rfl, trivial⟩

theorem runSearch_of_error {e : Search.Failure}
    (h : (s.request phrase docSet collection wholeWords).getResults (s.endpoint.store transport)
      limit {} { ids := ids } = (.error e, w, session)) :
    let report := runSearch s transport ids phrase docSet collection wholeWords limit
    report.exitCode = 1 ∧ report.escaped = none ∧ report.output = [] ∧
      report.sent = session.sent := by
  simp [runSearch, h]

/-- A run prints nothing if one of its queries is not answered. Otherwise it prints what its search
gives, up to the first match that is torn. -/
theorem runSearch_queries (s : Settings) (transport : Store.Transport) (ids : Telemetry.Ids)
    (phrase docSet collection : String) (wholeWords : Option Bool) (limit : Nat) :
    let r := s.request phrase docSet collection wholeWords
    let store := s.endpoint.store transport
    let report := runSearch s transport ids phrase docSet collection wholeWords limit
    ∃ questions : List Question, report.sent = questions.map r.source.query ∧
      let failed := ∃ k q, questions[k]? = some q ∧
        r.source.Unanswered store (report.sent.take k) q
      let results := (r.getResults store limit {} { ids := ids }).1
      (failed → (∃ e, results = .error e) ∧
        report.exitCode = 1 ∧ report.escaped = none ∧ report.output = []) ∧
      (¬failed → ∃ found, results = .ok found ∧ report.Prints found) := by
  intro r store report
  rcases hget : r.getResults store limit {} { ids := ids } with ⟨result, w, session⟩
  obtain ⟨questions, hrecords, hfails⟩ :=
    Request.records_getResults hget rfl (Int.natCast_nonneg limit)
  have hsent : session.sent = questions.map r.source.query := hrecords.sent
  have hfailed : (∃ e, result = .error e) ↔ ∃ k q, questions[k]? = some q ∧
      r.source.Unanswered store ((questions.map r.source.query).take k) q := by
    rw [hfails, Search.Source.stumbles_iff]
    simp only [List.map_take]
    rfl
  refine ⟨questions, ?_⟩
  cases result with
  | ok found =>
    obtain ⟨hprints, hreport⟩ := runSearch_of_ok hget
    have hnone := (not_congr hfailed).mp (by simp)
    rw [show report.sent = _ from hreport.trans hsent]
    exact ⟨rfl, fun hsome => absurd hsome hnone, fun _ => ⟨found, rfl, hprints⟩⟩
  | error e =>
    obtain ⟨hexit, hescaped, houtput, hreport⟩ := runSearch_of_error hget
    have hsome := hfailed.mp ⟨e, rfl⟩
    rw [show report.sent = _ from hreport.trans hsent]
    exact ⟨rfl, fun _ => ⟨⟨e, rfl⟩, hexit, hescaped, houtput⟩, fun hnone => absurd hsome hnone⟩

/-- A run with a limit prints the first lines of the run without one, and sends the first of its
queries. -/
theorem runSearch_limit {full : Report}
    (hfull : runSearch s transport ids phrase docSet collection wholeWords 0 = full)
    (hexit : full.exitCode = 0) (hlimit : 0 < limit) :
    let report := runSearch s transport ids phrase docSet collection wholeWords limit
    report.exitCode = 0 ∧ report.output = full.output.take limit ∧ report.sent <+: full.sent := by
  intro report
  subst hfull
  rcases hget : (s.request phrase docSet collection wholeWords).getResults
    (s.endpoint.store transport) (0 : Nat) {} { ids := ids } with ⟨result, w, session⟩
  cases result with
  | error e =>
    obtain ⟨hone, -⟩ := runSearch_of_error hget
    exact absurd (hexit.symm.trans hone) (by decide)
  | ok found =>
    obtain ⟨hprints, hsent⟩ := runSearch_of_ok hget
    obtain ⟨hwhole, houtput⟩ := hprints.of_exitCode_eq_zero hexit
    obtain ⟨w', session', htake, hprefix⟩ := Request.getResults_take hget hlimit
    obtain ⟨hprints', hsent'⟩ := runSearch_of_ok htake
    obtain ⟨hexit', -, houtput'⟩ :=
      hprints'.of_forall fun m hm => hwhole m (List.mem_of_mem_take hm)
    refine ⟨hexit', ?_, ?_⟩
    · rw [houtput', houtput, List.map_take]
    · rw [hsent', hsent]
      exact hprefix

end Search

/-- A run with valid settings and with arguments that ask for a search. It exits with 1 and prints
nothing exactly if one of its queries is not answered, and otherwise exits with 0 and prints a line
for each match of its search, in order: this holds exactly if no match of the search is torn. If one
is, no query has failed, and the run prints the lines of the matches before it and ends with a
failure that escapes. And where the same run without a limit exits with 0, a run with one does too:
it prints the first lines of the other, as many as its limit, and sends the first of the other's
queries. -/
theorem run_all_or_nothing_iff {origin : Settings.Origin} {settings : Settings}
    {phrase docSet collection : String} {url : Option String} {wholeWords : Option Bool}
    {limit : Nat} {args unlimited : List String} (transport : Store.Transport)
    (ids : Telemetry.Ids) (hsettings : Settings.load origin = .ok settings)
    (hargs : readArguments args = .ok (.search phrase docSet collection url wholeWords limit))
    (hunlimited : readArguments unlimited =
      .ok (.search phrase docSet collection url wholeWords 0)) :
    let s := withUrl settings url
    let r := s.request phrase docSet collection wholeWords
    let store := s.endpoint.store transport
    let report := run origin transport ids args
    let full := run origin transport ids unlimited
    let results := (r.getResults store limit {} { ids := ids }).1
    (∃ questions : List Question, report.sent = questions.map r.source.query ∧
      let failed := ∃ k q, questions[k]? = some q ∧
        r.source.Unanswered store (report.sent.take k) q
      ((report.exitCode = 1 ∧ report.output = [] ↔ failed) ∧
          (¬failed → report.exitCode = 0 ∧ ∃ found, results = .ok found ∧
            report.output = found.map Match.line) ↔
        ∀ found, results = .ok found → ∀ m ∈ found, ¬m.Torn) ∧
      (failed → (∃ e, results = .error e) ∧
        report.exitCode = 1 ∧ report.escaped = none ∧ report.output = []) ∧
      (¬failed → ∃ found, results = .ok found ∧ report.Prints found)) ∧
    (0 < limit → full.exitCode = 0 → report.exitCode = 0 ∧
      report.output = full.output.take limit ∧ report.sent <+: full.sent) := by
  intro s r store report full results
  have hreport : report = runSearch s transport ids phrase docSet collection wholeWords limit := by
    show run origin transport ids args = _
    simp only [run, hargs, hsettings]
    rfl
  have hfull : full = runSearch s transport ids phrase docSet collection wholeWords 0 := by
    show run origin transport ids unlimited = _
    simp only [run, hunlimited, hsettings]
    rfl
  constructor
  · obtain ⟨questions, hsent, hfails, hprints⟩ :=
      runSearch_queries s transport ids phrase docSet collection wholeWords limit
    rw [← hreport] at hsent hfails hprints
    refine ⟨questions, hsent, ?_, hfails, hprints⟩
    apply Report.all_or_nothing_iff (fun hfailed => ?_) hprints
    obtain ⟨herror, hexit, -, houtput⟩ := hfails hfailed
    exact ⟨herror, hexit, houtput⟩
  · intro hlimit hexit
    rw [hreport]
    exact runSearch_limit hfull.symm hexit hlimit

/-- Whatever is asked, this transport brings the same reply: one book with two verses, a letter in
the first and a text in the second. -/
def steadyTransport (second : CodePoints) : Store.Transport :=
  let token (verse : String) (payload : CodePoints) : Json :=
    .obj [("scopes", .arr [.str "chapter/1", .str verse]), ("payload", .str payload)]
  let reply : Json := .obj [("data", .obj [
    ("docSet", .obj [("documents", .arr [
      .obj [("id", .str "A"), ("idParts", .obj [("type", .str "book")])]])]),
    ("document", .obj [("mainSequence", .obj [("blocks", .arr [.obj [("tokens",
      .arr [token "verses/1" "a", token "verses/2" second])]])])])])]
  fun _ _ => .response 200 (reply.render.map fun c => UInt8.ofNat c.toNat)

/-- The arguments of a search for the letter. -/
def letterArguments : List String := ["a", "--docset", "LIB", "--collection", "eng"]

/-- With the letter in both verses, both are printed without a limit, and the first of them with a
limit of one. -/
theorem run_all_or_nothing_iff_letter :
    let ids : Telemetry.Ids := ⟨"trace", "span"⟩
    let limited := letterArguments ++ ["--limit", "1"]
    let report := run {} (steadyTransport "a") ids limited
    let full := run {} (steadyTransport "a") ids letterArguments
    Settings.load {} = .ok {} ∧
    readArguments limited = .ok (.search "a" "LIB" "eng" none none 1) ∧
    readArguments letterArguments = .ok (.search "a" "LIB" "eng" none none 0) ∧
    full.exitCode = 0 ∧ full.output.length = 2 ∧
    report.exitCode = 0 ∧ report.output = full.output.take 1 ∧ report.sent <+: full.sent := by
  intro ids limited report full
  have hsettings : Settings.load {} = .ok {} := rfl
  have hargs : readArguments limited = .ok (.search "a" "LIB" "eng" none none 1) := rfl
  have hunlimited : readArguments letterArguments = .ok (.search "a" "LIB" "eng" none none 0) := rfl
  obtain ⟨-, hlimited⟩ :=
    run_all_or_nothing_iff (steadyTransport "a") ids hsettings hargs hunlimited
  have hfull : full.exitCode = 0 ∧ full.output.length = 2 := by decide +kernel
  exact ⟨hsettings, hargs, hunlimited, hfull.1, hfull.2, hlimited Nat.one_pos hfull.1⟩

/-- With a half of a surrogate pair behind the letter of the second verse, both queries are
answered, and still the run prints one line and then fails. -/
theorem torn_match_ends_run :
    let ids : Telemetry.Ids := ⟨"trace", "span"⟩
    let transport := steadyTransport [.char 'a', .half 0]
    let report := run {} transport ids letterArguments
    let r := (Settings.request {} "a" "LIB" "eng" none)
    let store := ({} : Settings).endpoint.store transport
    Settings.load {} = .ok {} ∧
    readArguments letterArguments = .ok (.search "a" "LIB" "eng" none none 0) ∧
    (∃ questions : List Question, report.sent = questions.map r.source.query ∧
      ¬∃ k q, questions[k]? = some q ∧ r.source.Unanswered store (report.sent.take k) q) ∧
    report.exitCode = 1 ∧ report.escaped = some "TypeError" ∧ report.output.length = 1 := by
  intro ids transport report r store
  have hreport : report.exitCode = 1 ∧ report.escaped = some "TypeError" ∧
      report.output.length = 1 := by decide +kernel
  obtain ⟨questions, hsent, hfails, -⟩ :=
    runSearch_queries {} transport ids "a" "LIB" "eng" none 0
  refine ⟨rfl, rfl, ⟨questions, hsent, fun hfailed => ?_⟩, hreport⟩
  obtain ⟨-, -, hnone, -⟩ := hfails hfailed
  exact absurd (hnone.symm.trans hreport.2.1) nofun

end Concordance.CommandLine
