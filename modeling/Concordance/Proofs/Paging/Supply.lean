import Concordance.Paging.Pager

/-! What a read takes from its producer, and where it goes. -/

namespace Concordance.Paging

/-- What a result gives; a failure gives nothing. -/
def given {ε α : Type} : Except ε (List α) → List α
  | .ok items => items
  | .error _ => []

@[simp] theorem given_ok {ε α : Type} (items : List α) :
    given (.ok items : Except ε (List α)) = items := rfl

@[simp] theorem given_error {ε α : Type} (e : ε) :
    given (.error e : Except ε (List α)) = [] := rfl

theorem given_mapError {ε ε' α : Type} (f : ε → ε') (result : Except ε (List α)) :
    given (result.mapError f) = given result := by
  cases result <;> rfl

/-- What a read serves; a failed read serves nothing. -/
def served {ε α : Type} (result : Except ε (Page α)) : List α := given (result.map Page.items)

@[simp] theorem served_ok {ε α : Type} (page : Page α) :
    served (.ok page : Except ε (Page α)) = page.items := rfl

@[simp] theorem served_error {ε α : Type} (e : ε) :
    served (.error e : Except ε (Page α)) = [] := rfl

namespace Pager

variable {ε α : Type} {p : Pager α} {limit : Int}

/-- Whether or not another read is waiting. -/
theorem start_of_negative (hlimit : limit < 0) (exhausted : Bool) :
    (p.start exhausted limit : Progress ε α × Pager α) =
      (.ends (.error (.negativeLimit limit)), p) := by
  rw [start, if_pos hlimit]

theorem start_of_waiting {read : Pending} (hread : p.pending = some read) (hlimit : 0 ≤ limit)
    (exhausted : Bool) :
    (p.start exhausted limit : Progress ε α × Pager α) = (.ends (.error .overlapping), p) := by
  rw [start, if_neg (Int.not_lt.mpr hlimit), if_pos (by simp [hread])]

theorem start_of_idle (hidle : p.pending = none) (hlimit : 0 ≤ limit) (exhausted : Bool) :
    (p.start exhausted limit : Progress ε α × Pager α) =
      proceed exhausted ⟨limit.toNat, 0⟩ p.buffer := by
  rw [start, if_neg (Int.not_lt.mpr hlimit), if_neg (by simp [hidle])]

/-- A read that goes on ends with a page, or waits with the buffer as it is. -/
theorem proceed_cases (exhausted : Bool) (read : Pending) (buffer : List α) :
    (∃ page rest, page.items ++ rest = buffer ∧
      (proceed exhausted read buffer : Progress ε α × Pager α) = (.ends (.ok page), ⟨rest, none⟩)) ∨
    (proceed exhausted read buffer : Progress ε α × Pager α) = (.waits, ⟨buffer, some read⟩) := by
  unfold proceed
  split
  · exact .inl ⟨⟨_, read.pulled⟩, _, serve_append read.limit buffer, rfl⟩
  · exact .inr rfl

end Pager

namespace Producer

variable {σ ε α : Type} {producer : Producer σ ε α}

/-- Calls of a producer one after another, none of them when it is exhausted, and their results. -/
inductive Calls (producer : Producer σ ε α) : σ → List (Except ε (List α)) → σ → Prop where
  | none (s : σ) : Calls producer s [] s
  | call {s s' : σ} {batches : List (Except ε (List α))} :
      producer.exhausted s = false → Calls producer (producer.next s).2 batches s' →
      Calls producer s ((producer.next s).1 :: batches) s'

/-- The course of a waiting read. It calls only while its buffer does not suffice and more may come.
It serves its page once that is over, unless a call has failed: the first that does ends the read,
and leaves in the buffer what came before it. -/
theorem finish_cases {read : Pending} {buffer : List α} {s s' : σ}
    {result : Except (ReadError ε) (Page α)} {p : Pager α}
    (h : producer.finish read buffer s = (result, p, s')) :
    ∃ batches, producer.Calls s batches s' ∧
      (∀ k < batches.length,
        Pager.isEnough read.limit (buffer ++ (batches.take k).flatMap given) = false) ∧
      ((∀ e, .error e ∉ batches) ∧
          (Pager.isEnough read.limit (buffer ++ batches.flatMap given) ||
            producer.exhausted s') = true ∧
          (let (items, rest) := Pager.serve read.limit (buffer ++ batches.flatMap given)
          result = .ok ⟨items, read.pulled + batches.length⟩ ∧ p = ⟨rest, none⟩) ∨
        ∃ before e, batches = before ++ [.error e] ∧ (∀ e', .error e' ∉ before) ∧
          result = .error (.producer e) ∧ p = ⟨buffer ++ before.flatMap given, none⟩) := by
  fun_induction producer.finish read buffer s with
  | case1 read buffer s hends items rest hserve =>
    obtain ⟨rfl, rfl, rfl⟩ : .ok ⟨items, read.pulled⟩ = result ∧ ⟨rest, none⟩ = p ∧ s = s' := by
      simpa using h
    refine ⟨[], .none s, by simp, .inl ⟨by simp, by simpa using hends, ?_⟩⟩
    simp [hserve]
  | case2 read buffer s hgo e s'' hnext =>
    obtain ⟨rfl, rfl, rfl⟩ : .error (.producer e) = result ∧ ⟨buffer, none⟩ = p ∧ s'' = s' := by
      simpa using h
    obtain ⟨hshort, hleft⟩ : Pager.isEnough read.limit buffer = false ∧
      producer.exhausted s = false := by simpa using hgo
    have hcall : producer.Calls s [(producer.next s).1] (producer.next s).2 := .call hleft (.none _)
    rw [hnext] at hcall
    refine ⟨_, hcall, by simpa using hshort, .inr ⟨[], e, rfl, by simp, rfl, ?_⟩⟩
    rw [List.flatMap_nil, List.append_nil]
  | case3 read buffer s hgo items s'' hnext ih =>
    obtain ⟨batches, hrest, hshorts, hends⟩ := ih h
    obtain ⟨hshort, hleft⟩ : Pager.isEnough read.limit buffer = false ∧
      producer.exhausted s = false := by simpa using hgo
    have hcall : producer.Calls s ((producer.next s).1 :: batches) s' :=
      .call hleft (by rwa [hnext])
    rw [hnext] at hcall
    refine ⟨_, hcall, ?_, ?_⟩
    · intro k hk
      cases k with
      | zero => simpa using hshort
      | succ k => simpa using hshorts k (Nat.lt_of_succ_lt_succ hk)
    rcases hends with ⟨hgives, hstop, hresult⟩ | ⟨before, e, rfl, hgives, hresult, rfl⟩
    · refine .inl ⟨by simpa using hgives, by simpa using hstop, ?_⟩
      simpa [Nat.add_comm, Nat.add_left_comm] using hresult
    · exact .inr ⟨.ok items :: before, e, rfl, by simpa using hgives, hresult, by simp⟩

/-- A waiting read calls its producer. What it serves and what it leaves are what was there and what
came, even if the last call fails; and it fails exactly if a call does. -/
theorem finish_conserves {read : Pending} {buffer : List α} {s s' : σ}
    {result : Except (ReadError ε) (Page α)} {p : Pager α}
    (h : producer.finish read buffer s = (result, p, s')) :
    ∃ batches, producer.Calls s batches s' ∧
      served result ++ p.buffer = buffer ++ batches.flatMap given ∧ p.pending = none ∧
      ((∃ e, result = .error e) ↔ ∃ e, .error e ∈ batches) := by
  obtain ⟨batches, hcalls, -, ⟨hgives, -, rfl, rfl⟩ | ⟨before, e, rfl, -, rfl, rfl⟩⟩ :=
    finish_cases h
  · exact ⟨_, hcalls, Pager.serve_append _ _, rfl, by simpa using hgives⟩
  · exact ⟨_, hcalls, by simp, rfl, by simp⟩

/-- A read begins by serving its page, by being refused, or by waiting with the buffer as it was. -/
private theorem start_conserves {p p' : Pager α} {exhausted : Bool} {limit : Int}
    {progress : Progress ε α} (h : p.start exhausted limit = (progress, p'))
    (hidle : p.pending = none) :
    match progress with
    | .ends result => served result ++ p'.buffer = p.buffer ∧ p'.pending = none ∧
        (0 ≤ limit → ∃ page, result = .ok page)
    | .waits => p'.buffer = p.buffer := by
  by_cases hlimit : limit < 0
  · rw [Pager.start_of_negative hlimit] at h
    obtain ⟨rfl, rfl⟩ := Prod.mk.inj h
    exact ⟨rfl, hidle, fun hle => absurd hlimit (Int.not_lt.mpr hle)⟩
  rw [Pager.start_of_idle hidle (Int.not_lt.mp hlimit)] at h
  rcases Pager.proceed_cases (ε := ε) exhausted ⟨limit.toNat, 0⟩ p.buffer with
    ⟨page, rest, happend, hserves⟩ | hwaits
  · rw [hserves] at h
    obtain ⟨rfl, rfl⟩ := Prod.mk.inj h
    exact ⟨happend, rfl, fun _ => ⟨page, rfl⟩⟩
  · rw [hwaits] at h
    obtain ⟨rfl, rfl⟩ := Prod.mk.inj h
    rfl

theorem read_of_negative {limit : Int} (hlimit : limit < 0) (p : Pager α) (s : σ) :
    producer.read p s limit = (.error (.negativeLimit limit), p, s) := by
  rw [read, Pager.start_of_negative hlimit]

/-- The same of a read from its beginning, unless its limit is negative. -/
theorem read_conserves {p p' : Pager α} {s s' : σ} {limit : Int}
    {result : Except (ReadError ε) (Page α)} (h : producer.read p s limit = (result, p', s'))
    (hidle : p.pending = none) :
    ∃ batches, producer.Calls s batches s' ∧
      served result ++ p'.buffer = p.buffer ++ batches.flatMap given ∧ p'.pending = none ∧
      (0 ≤ limit → ((∃ e, result = .error e) ↔ ∃ e, .error e ∈ batches)) := by
  unfold read at h
  split at h
  · next result p₁ hstart =>
    obtain ⟨rfl, rfl, rfl⟩ : result = _ ∧ p₁ = p' ∧ s = s' := by simpa using h
    obtain ⟨happend, hidle', hserves⟩ := start_conserves hstart hidle
    refine ⟨[], .none s, by simpa using happend, hidle', ?_⟩
    intro hlimit
    obtain ⟨page, rfl⟩ := hserves hlimit
    simp
  · next p₁ hstart =>
    rw [← start_conserves hstart hidle]
    obtain ⟨batches, hcalls, happend, hidle', hfails⟩ := finish_conserves h
    exact ⟨batches, hcalls, happend, hidle', fun _ => hfails⟩

end Producer

end Concordance.Paging
