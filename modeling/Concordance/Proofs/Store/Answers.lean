import Concordance.Store.Http

/-! How a query to an endpoint ends, for everything that can come of its request. -/

namespace Concordance

/-- True of the values that have members. -/
def Json.isCollection : Json → Bool
  | .arr _ | .str _ | .obj _ => true
  | _ => false

namespace Store

/-- A response of success has that text as its body. -/
inductive Outcome.Carries : Outcome → CodePoints → Prop where
  | intro {status : Int} {body : List UInt8} {text : CodePoints} :
      200 ≤ status → status < 300 → Text.decodeJsonText body = some text →
      Carries (.response status body) text

/-- A response of success holds an object whose errors are missing or amount to nothing. -/
inductive Outcome.IsReply (o : Outcome) : Json → Prop where
  | intro {text : CodePoints} {fields : List (String × Json)} :
      o.Carries text → Json.read bodyLimits text = .ok (.obj fields) →
      (∀ errors, Json.field? fields "errors" = some errors → errors.isTrue = false) →
      IsReply o (.obj fields)

/-- A response of success is nested too deeply, or is an object whose errors amount to something and
have no members. -/
inductive Outcome.BreaksDown (o : Outcome) : Breakdown → Prop where
  | tooDeep {text : CodePoints} :
      o.Carries text → Json.read bodyLimits text = .error .tooDeep → BreaksDown o .tooDeep
  | notIterable {text : CodePoints} {fields : List (String × Json)} {errors : Json} :
      o.Carries text → Json.read bodyLimits text = .ok (.obj fields) →
      Json.field? fields "errors" = some errors → errors.isTrue = true →
      errors.isCollection = false → BreaksDown o (.notIterable (typeName errors))

theorem members_of_isCollection {v : Json} (h : v.isCollection = true) :
    ∃ items, members v = .ok items := by
  cases v with
  | arr | str | obj => exact ⟨_, rfl⟩
  | null | bool | int | float => cases h

theorem members_of_not_isCollection {v : Json} (h : v.isCollection = false) :
    members v = .error (.notIterable (typeName v)) := by
  cases v with
  | arr | str | obj => cases h
  | null | bool | int | float => rfl

theorem isSuccess_iff (status : Int) : isSuccess status = true ↔ 200 ≤ status ∧ status < 300 := by
  simp [isSuccess]

theorem hasErrors_obj (fields : List (String × Json)) :
    hasErrors (.obj fields) = ((Json.field? fields "errors").map Json.isTrue).getD false := rfl

namespace Endpoint

variable {e : Endpoint} {o : Outcome} {text : CodePoints} {fields : List (String × Json)}
  {errors : Json}

/-- The answer of a response of success is told by what its text reads as. -/
theorem answer_of_carries (h : o.Carries text) :
    e.answer o =
      match Json.read bodyLimits text with
      | .ok v => e.accept v
      | .error .malformed => .error (.retrieval (.unreadable e.url .syntaxError))
      | .error .numeralTooLong => .error (.retrieval (.unreadable e.url .numeral))
      | .error .tooDeep => .error (.breakdown .tooDeep) := by
  obtain ⟨hlow, hhigh, htext⟩ := h
  simp only [answer, (isSuccess_iff _).mpr ⟨hlow, hhigh⟩, if_true, decode, htext]
  cases Json.read bodyLimits text with
  | ok v => rfl
  | error fault => cases fault <;> rfl

theorem carries_or_fails (e : Endpoint) (o : Outcome) :
    (∃ text, o.Carries text) ∨ ∃ failure, e.answer o = .error (.retrieval failure) := by
  cases o with
  | fault kind message => exact .inr ⟨_, rfl⟩
  | response status body =>
    by_cases hsuccess : isSuccess status = true
    · cases htext : Text.decodeJsonText body with
      | some text =>
        obtain ⟨hlow, hhigh⟩ := (isSuccess_iff status).mp hsuccess
        exact .inl ⟨text, hlow, hhigh, htext⟩
      | none =>
        right
        simp only [answer, if_pos hsuccess, decode, htext]
        exact ⟨_, rfl⟩
    · right
      simp only [answer, if_neg hsuccess]
      exact ⟨_, rfl⟩

theorem accept_of_not_isTrue
    (h : ∀ errors, Json.field? fields "errors" = some errors → errors.isTrue = false) :
    e.accept (.obj fields) = .ok (.obj fields) := by
  have hfalse : hasErrors (.obj fields) = false := by
    rw [hasErrors_obj]
    cases herrors : Json.field? fields "errors" with
    | none => rfl
    | some errors => exact h errors herrors
  simp [accept, hfalse]

theorem accept_of_isTrue (herrors : Json.field? fields "errors" = some errors)
    (htrue : errors.isTrue = true) :
    e.accept (.obj fields) =
      match members errors with
      | .ok items => .error (.retrieval (.refused (items.map errorText)))
      | .error b => .error (.breakdown b) := by
  have hhas : hasErrors (.obj fields) = true := by
    rw [hasErrors_obj, herrors]
    exact htrue
  cases hmembers : members errors <;> simp [accept, hhas, herrors, hmembers]

theorem answer_of_isReply {v : Json} (h : o.IsReply v) : e.answer o = .ok v := by
  obtain ⟨hcarries, hread, hnone⟩ := h
  rw [answer_of_carries hcarries, hread]
  exact accept_of_not_isTrue hnone

theorem answer_of_breaksDown {b : Breakdown} (h : o.BreaksDown b) :
    e.answer o = .error (.breakdown b) := by
  cases h with
  | tooDeep hcarries hread => rw [answer_of_carries hcarries, hread]
  | notIterable hcarries hread herrors htrue hscalar =>
    rw [answer_of_carries hcarries, hread]
    dsimp only
    rw [accept_of_isTrue herrors htrue, members_of_not_isCollection hscalar]

/-- Whatever comes of a request is a reply, or breaks the query down, or is told as a failure. -/
theorem answer_cases (e : Endpoint) (o : Outcome) :
    (∃ v, o.IsReply v) ∨ (∃ b, o.BreaksDown b) ∨
      ∃ failure, e.answer o = .error (.retrieval failure) := by
  rcases e.carries_or_fails o with ⟨text, hcarries⟩ | hfails
  case inr => exact .inr (.inr hfails)
  rw [answer_of_carries hcarries]
  cases hread : Json.read bodyLimits text with
  | error fault =>
    cases fault with
    | malformed | numeralTooLong => exact .inr (.inr ⟨_, rfl⟩)
    | tooDeep => exact .inr (.inl ⟨_, .tooDeep hcarries hread⟩)
  | ok v =>
    cases v with
    | null | bool | int | float | str | arr => exact .inr (.inr ⟨_, rfl⟩)
    | obj fields =>
      by_cases hnone :
          ∀ errors, Json.field? fields "errors" = some errors → errors.isTrue = false
      · exact .inl ⟨_, hcarries, hread, hnone⟩
      simp only [Classical.not_forall, Bool.not_eq_false] at hnone
      obtain ⟨errors, herrors, htrue⟩ := hnone
      cases hcollection : errors.isCollection with
      | false => exact .inr (.inl ⟨_, .notIterable hcarries hread herrors htrue hcollection⟩)
      | true =>
        obtain ⟨items, hitems⟩ := members_of_isCollection hcollection
        right; right
        dsimp only
        rw [accept_of_isTrue herrors htrue, hitems]
        exact ⟨_, rfl⟩

theorem answer_eq_ok_iff {v : Json} : e.answer o = .ok v ↔ o.IsReply v := by
  refine ⟨?_, answer_of_isReply⟩
  intro hanswer
  rcases e.answer_cases o with ⟨v', hreply⟩ | ⟨b, hbreaks⟩ | ⟨failure, hfails⟩
  · rw [answer_of_isReply hreply] at hanswer
    cases hanswer
    exact hreply
  · rw [answer_of_breaksDown hbreaks] at hanswer
    cases hanswer
  · rw [hfails] at hanswer
    cases hanswer

theorem answer_eq_breakdown_iff {b : Breakdown} :
    e.answer o = .error (.breakdown b) ↔ o.BreaksDown b := by
  refine ⟨?_, answer_of_breaksDown⟩
  intro hanswer
  rcases e.answer_cases o with ⟨v, hreply⟩ | ⟨b', hbreaks⟩ | ⟨failure, hfails⟩
  · rw [answer_of_isReply hreply] at hanswer
    cases hanswer
  · rw [answer_of_breaksDown hbreaks] at hanswer
    cases hanswer
    exact hbreaks
  · rw [hfails] at hanswer
    cases hanswer

theorem answer_eq_retrieval_iff :
    (∃ failure, e.answer o = .error (.retrieval failure)) ↔
      (¬∃ v, o.IsReply v) ∧ ¬∃ b, o.BreaksDown b := by
  constructor
  · rintro ⟨failure, hfails⟩
    constructor
    · rintro ⟨v, hreply⟩
      rw [answer_of_isReply hreply] at hfails
      cases hfails
    · rintro ⟨b, hbreaks⟩
      rw [answer_of_breaksDown hbreaks] at hfails
      cases hfails
  · rintro ⟨hreply, hbreaks⟩
    exact ((e.answer_cases o).resolve_left hreply).resolve_left hbreaks

end Endpoint

/-- A query gives the object that a response of success holds, exactly if its errors are missing or
amount to nothing. It breaks down exactly on errors that amount to something but have no members,
and on text nested too deeply. In all other cases it fails with an error of retrieval. -/
theorem Connection.query_ends (transport : Transport) (c : Connection) (query : String) :
    let o := transport c.sent query
    let result := (c.query transport query).1
    (∀ v, result = .ok v ↔ o.IsReply v) ∧
    (∀ b, result = .error (.breakdown b) ↔ o.BreaksDown b) ∧
    ((∃ failure, result = .error (.retrieval failure)) ↔
      (¬∃ v, o.IsReply v) ∧ ¬∃ b, o.BreaksDown b) := by
  intro o result
  have hresult : result = c.endpoint.answer o := rfl
  rw [hresult]
  refine ⟨?_, ?_, ?_⟩
  · intro v
    exact Endpoint.answer_eq_ok_iff
  · intro b
    exact Endpoint.answer_eq_breakdown_iff
  · exact Endpoint.answer_eq_retrieval_iff

/-- The octets of an object that gives the number 5 for its errors. -/
def scalarErrors : List UInt8 :=
  [0x7B, 0x22, 0x65, 0x72, 0x72, 0x6F, 0x72, 0x73, 0x22, 0x3A, 0x35, 0x7D]

theorem breaksDown_scalarErrors :
    (Outcome.response 200 scalarErrors).BreaksDown (.notIterable "int") := by
  let text := ['\x7b', '"', 'e', 'r', 'r', 'o', 'r', 's', '"', ':', '5', '\x7d']
  have htext : Text.decodeJsonText scalarErrors = some text := by
    decide +kernel
  have htraits : ((Json.read bodyLimits text).toOption.bind (·.get? "errors")).map
      (fun errors => (typeName errors, errors.isTrue, errors.isCollection)) =
        some ("int", true, false) := by
    decide +kernel
  cases hread : Json.read bodyLimits text with
  | error fault =>
    rw [hread] at htraits
    cases htraits
  | ok reply =>
    rw [hread] at htraits
    obtain ⟨errors, hget, htraits⟩ := Option.map_eq_some_iff.mp htraits
    obtain ⟨htype, htrue, hscalar⟩ :
        typeName errors = "int" ∧ errors.isTrue = true ∧ errors.isCollection = false := by
      simpa using htraits
    rw [← htype]
    cases reply with
    | obj fields =>
      exact .notIterable (.intro (by decide) (by decide) htext) hread hget htrue hscalar
    | null | bool | int | float | str | arr => cases hget

/-- A query that is answered by a success with such errors gives no reply, and ends in no error of
retrieval either. -/
theorem scalar_errors_break_down :
    let c : Connection := { endpoint := { url := "http://graphql.test/graphql" } }
    let result := (c.query (scriptedTransport [.response 200 scalarErrors]) "query").1
    (¬∃ v, result = .ok v) ∧ ¬∃ failure, result = .error (.retrieval failure) := by
  intro c result
  have hresult : result = .error (.breakdown (.notIterable "int")) :=
    Endpoint.answer_of_breaksDown (e := c.endpoint) breaksDown_scalarErrors
  rw [hresult]
  constructor
  · rintro ⟨v, ⟨⟩⟩
  · rintro ⟨failure, ⟨⟩⟩

end Store

end Concordance
