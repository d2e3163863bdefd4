import Concordance.Proofs.Search.Tour

/-! The questions that a source puts to its store, and what they come to. -/

namespace Concordance.Search

open Corpus (Candidate)
open Paging (given)
open Store (RetrievalError)
open Telemetry (Phase)

/-- A question that a source puts to its store. -/
inductive Question where
  | books
  | blocks (book : CodePoints)
  deriving Repr, DecidableEq

/-- The phase that a question belongs to. -/
def Question.phase : Question → Phase
  | .books => .books
  | .blocks _ => .blocks

/-- True of the replies that have the shape which the answer to a question should have. -/
def Question.accepts : Question → Json → Bool
  | .books, reply => (Corpus.BooksReply.ofJson reply).isOk
  | .blocks _, reply => (Corpus.BlocksReply.ofJson reply).isOk

/-- A question put to a store, and the queries sent before it. -/
structure Exchange where
  sent : List String
  question : Question
  deriving Repr, DecidableEq

namespace Source

variable (src : Source) (store : Store)

/-- The query by which a question is put. -/
def query : Question → String
  | .books => src.booksQuery
  | .blocks book => src.blocksQuery book

/-- A store fails at a question, or its reply does not pass. -/
inductive Unanswered : List String → Question → Prop where
  | failed {sent : List String} {q : Question} {failure : Store.Failure} :
      store sent (src.query q) = .error failure → Unanswered sent q
  | rejected {sent : List String} {q : Question} {reply : Json} :
      store sent (src.query q) = .ok reply → q.accepts reply = false → Unanswered sent q

/-- The candidates that an exchange gives; the books alone give none. -/
def outcome (x : Exchange) : Except RetrievalError (List Candidate) :=
  match x.question with
  | .books => (src.found store x.sent).map fun _ => []
  | .blocks book => src.fetched store x.sent book

/-- Questions put one after another. -/
def exchanges : List String → List Question → List Exchange
  | _, [] => []
  | sent, q :: questions => ⟨sent, q⟩ :: exchanges (sent ++ [src.query q]) questions

/-- All candidates that questions give. -/
def gathered (sent : List String) (questions : List Question) : List Candidate :=
  (src.exchanges sent questions).flatMap fun x => given (src.outcome store x)

/-- One of the questions is not answered. -/
def Stumbles (sent : List String) (questions : List Question) : Prop :=
  ∃ x ∈ src.exchanges sent questions, ∃ e, src.outcome store x = .error e

variable {src store}

theorem exchanges_append (sent : List String) (questions questions' : List Question) :
    src.exchanges sent (questions ++ questions') =
      src.exchanges sent questions ++
        src.exchanges (sent ++ questions.map src.query) questions' := by
  induction questions generalizing sent with
  | nil => simp [exchanges]
  | cons q questions ih => simp [exchanges, ih]

theorem exchanges_getElem? (sent : List String) (questions : List Question) (k : Nat) :
    (src.exchanges sent questions)[k]? =
      questions[k]?.map fun q => ⟨sent ++ (questions.take k).map src.query, q⟩ := by
  induction questions generalizing sent k with
  | nil => simp [exchanges]
  | cons q questions ih =>
    cases k with
    | zero => simp [exchanges]
    | succ k => simp [exchanges, ih]

@[simp] theorem gathered_nil (sent : List String) : src.gathered store sent [] = [] := rfl

@[simp] theorem gathered_singleton (sent : List String) (q : Question) :
    src.gathered store sent [q] = given (src.outcome store ⟨sent, q⟩) := by
  simp [gathered, exchanges]

theorem gathered_append (sent : List String) (questions questions' : List Question) :
    src.gathered store sent (questions ++ questions') =
      src.gathered store sent questions ++
        src.gathered store (sent ++ questions.map src.query) questions' := by
  rw [gathered, exchanges_append, List.flatMap_append]
  rfl

@[simp] theorem not_stumbles_nil (sent : List String) : ¬src.Stumbles store sent [] := by
  simp [Stumbles, exchanges]

@[simp] theorem stumbles_singleton (sent : List String) (q : Question) :
    src.Stumbles store sent [q] ↔ ∃ e, src.outcome store ⟨sent, q⟩ = .error e := by
  simp [Stumbles, exchanges]

theorem stumbles_append (sent : List String) (questions questions' : List Question) :
    src.Stumbles store sent (questions ++ questions') ↔
      src.Stumbles store sent questions ∨
        src.Stumbles store (sent ++ questions.map src.query) questions' := by
  unfold Stumbles
  rw [exchanges_append]
  simp only [List.mem_append, or_and_right, exists_or]

theorem receive_eq_error_iff {α : Type} {phase : Phase} {check : Json → Schema.Checked α}
    {answer : Except Store.Failure Json} :
    (∃ e, src.receive phase check answer = .error e) ↔
      (∃ failure, answer = .error failure) ∨
        ∃ reply, answer = .ok reply ∧ (check reply).isOk = false := by
  cases answer with
  | error failure => cases failure <;> simp [receive]
  | ok reply =>
    cases hcheck : check reply <;> simp [receive, hcheck, Except.isOk, Except.toBool]

theorem map_eq_error_iff {α β : Type} {f : α → β} {result : Except RetrievalError α}
    {e : RetrievalError} : result.map f = .error e ↔ result = .error e := by
  cases result <;> simp [Except.map]

/-- An exchange gives nothing but an error exactly if its question is not answered. -/
theorem outcome_eq_error_iff (sent : List String) (q : Question) :
    (∃ e, src.outcome store ⟨sent, q⟩ = .error e) ↔ src.Unanswered store sent q := by
  have hreceived : (∃ e, src.outcome store ⟨sent, q⟩ = .error e) ↔
      (∃ failure, store sent (src.query q) = .error failure) ∨
        ∃ reply, store sent (src.query q) = .ok reply ∧ q.accepts reply = false := by
    cases q with
    | books =>
      simp only [outcome, found, map_eq_error_iff, receive_eq_error_iff]
      rfl
    | blocks book =>
      simp only [outcome, fetched, map_eq_error_iff, receive_eq_error_iff]
      rfl
  rw [hreceived]
  constructor
  · rintro (⟨failure, hfails⟩ | ⟨reply, hreply, hshape⟩)
    · exact .failed hfails
    · exact .rejected hreply hshape
  · rintro (hfails | ⟨hreply, hshape⟩)
    · exact .inl ⟨_, hfails⟩
    · exact .inr ⟨_, hreply, hshape⟩

theorem stumbles_iff (sent : List String) (questions : List Question) :
    src.Stumbles store sent questions ↔ ∃ k q, questions[k]? = some q ∧
      src.Unanswered store (sent ++ (questions.take k).map src.query) q := by
  constructor
  · rintro ⟨x, hx, he⟩
    obtain ⟨k, hk⟩ := List.mem_iff_getElem?.mp hx
    rw [exchanges_getElem?] at hk
    obtain ⟨q, hq, rfl⟩ := Option.map_eq_some_iff.mp hk
    exact ⟨k, q, hq, (outcome_eq_error_iff _ q).mp he⟩
  · rintro ⟨k, q, hq, hunanswered⟩
    refine ⟨_, List.mem_iff_getElem?.mpr ⟨k, ?_⟩, (outcome_eq_error_iff _ q).mpr hunanswered⟩
    rw [exchanges_getElem?, hq]
    rfl

end Source

end Concordance.Search
