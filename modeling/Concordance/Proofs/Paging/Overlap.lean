import Concordance.Proofs.Paging.Serving

/-! Reads of one pager that begin, wait and end in any order. -/

namespace Concordance.Paging

/-- What can happen to a pager: a read begins, or the producer's call for a read comes to its end.
Whether the producer is exhausted is its own affair. It may begin reads itself during a call. -/
inductive Event (ε α : Type) where
  | begins (limit : Int) (exhausted : Bool)
  | settles (read : Nat) (batch : Except ε (List α)) (exhausted : Bool)

/-- A pager and its reads, numbered in the order in which they begin. -/
structure Desk (ε α : Type) where
  pager : Pager α := {}
  begun : Nat := 0
  /-- the reads for which a call of the producer is in flight -/
  inFlight : List Nat := []
  /-- how reads ended, in the order in which they did -/
  ended : List (Nat × Except (ReadError ε) (Page α)) := []
  /-- what the calls of the producer gave, in the order in which they ended -/
  returned : List (Except ε (List α)) := []

namespace Desk

variable {ε α : Type}

/-- A read has come to one of its moments: it calls the producer, or ends. -/
def mark (d : Desk ε α) (read : Nat) : Progress ε α × Pager α → Desk ε α
  | (.waits, pager) => { d with pager, inFlight := read :: d.inFlight }
  | (.ends result, pager) => { d with pager, ended := d.ended ++ [(read, result)] }

/-- A read begins. -/
def begin (d : Desk ε α) (limit : Int) (exhausted : Bool) : Desk ε α :=
  { d with begun := d.begun + 1 }.mark d.begun (d.pager.start exhausted limit)

/-- The call in flight for a read comes to its end. -/
def settle (d : Desk ε α) (read : Nat) (batch : Except ε (List α)) (exhausted : Bool) : Desk ε α :=
  { d with inFlight := d.inFlight.erase read, returned := d.returned ++ [batch] }.mark read
    (d.pager.resume exhausted batch)

/-- Something happens. A call that is not in flight does not end. -/
def step (d : Desk ε α) : Event ε α → Desk ε α
  | .begins limit exhausted => d.begin limit exhausted
  | .settles read batch exhausted =>
    if read ∈ d.inFlight then d.settle read batch exhausted else d

/-- The desk of a fresh pager after some events. -/
def after (events : List (Event ε α)) : Desk ε α := events.foldl step {}

/-- What the reads have been served that have ended, in the order in which they did. -/
def delivered (d : Desk ε α) : List α := d.ended.flatMap fun (_, result) => served result

variable {d : Desk ε α}

/-- A read begins and is refused, or is served at once, or calls the producer. -/
theorem begin_cases (d : Desk ε α) (limit : Int) (exhausted : Bool) :
    (∃ e, (limit < 0 ∧ e = .negativeLimit limit ∨
          0 ≤ limit ∧ d.pager.pending ≠ none ∧ e = .overlapping) ∧
        d.begin limit exhausted =
          { d with begun := d.begun + 1, ended := d.ended ++ [(d.begun, .error e)] }) ∨
      0 ≤ limit ∧ d.pager.pending = none ∧
        ((∃ page rest, page.items ++ rest = d.pager.buffer ∧ d.begin limit exhausted =
            { d with begun := d.begun + 1, pager := ⟨rest, none⟩,
                     ended := d.ended ++ [(d.begun, .ok page)] }) ∨
          ∃ read, d.begin limit exhausted =
            { d with begun := d.begun + 1, pager := ⟨d.pager.buffer, some read⟩,
                     inFlight := d.begun :: d.inFlight }) := by
  by_cases hlimit : limit < 0
  · left
    refine ⟨.negativeLimit limit, .inl ⟨hlimit, rfl⟩, ?_⟩
    rw [begin, Pager.start, if_pos hlimit]
    rfl
  have hnonneg : 0 ≤ limit := Int.not_lt.mp hlimit
  cases hpending : d.pager.pending with
  | some read =>
    left
    refine ⟨.overlapping, .inr ⟨hnonneg, by simp, rfl⟩, ?_⟩
    rw [begin, Pager.start_of_waiting hpending hnonneg]
    rfl
  | none =>
    right
    refine ⟨hnonneg, rfl, ?_⟩
    rw [begin, Pager.start_of_idle hpending hnonneg]
    rcases Pager.proceed_cases (ε := ε) exhausted ⟨limit.toNat, 0⟩ d.pager.buffer with
      ⟨page, rest, happend, hserves⟩ | hwaits
    · exact .inl ⟨page, rest, happend, by rw [hserves]; rfl⟩
    · exact .inr ⟨_, by rw [hwaits]; rfl⟩

/-- The call for the waiting read fails, or brings a batch that suffices, or one that does not. -/
theorem settle_cases {waiting : Pending} (hwaiting : d.pager.pending = some waiting) (read : Nat)
    (batch : Except ε (List α)) (exhausted : Bool) :
    (∃ e, batch = .error e ∧ d.settle read batch exhausted =
        { d with pager := ⟨d.pager.buffer, none⟩, inFlight := d.inFlight.erase read,
                 ended := d.ended ++ [(read, .error (.producer e))],
                 returned := d.returned ++ [batch] }) ∨
      ∃ items, batch = .ok items ∧
        ((∃ page rest, page.items ++ rest = d.pager.buffer ++ items ∧
            d.settle read batch exhausted =
              { d with pager := ⟨rest, none⟩, inFlight := d.inFlight.erase read,
                       ended := d.ended ++ [(read, .ok page)],
                       returned := d.returned ++ [batch] }) ∨
          ∃ waiting', d.settle read batch exhausted =
            { d with pager := ⟨d.pager.buffer ++ items, some waiting'⟩,
                     inFlight := read :: d.inFlight.erase read,
                     returned := d.returned ++ [batch] }) := by
  cases batch with
  | error e =>
    left
    refine ⟨e, rfl, ?_⟩
    simp only [settle, Pager.resume, hwaiting]
    rfl
  | ok items =>
    right
    refine ⟨items, rfl, ?_⟩
    simp only [settle, Pager.resume, hwaiting]
    rcases Pager.proceed_cases (ε := ε) exhausted { waiting with pulled := waiting.pulled + 1 }
      (d.pager.buffer ++ items) with ⟨page, rest, happend, hserves⟩ | hwaits
    · exact .inl ⟨page, rest, happend, by rw [hserves]; rfl⟩
    · exact .inr ⟨_, by rw [hwaits]; rfl⟩

/-- The pager waits exactly while a call is in flight, and there is one at most. What reads have
been served and what is in the buffer is what the calls gave. -/
structure Sound (d : Desk ε α) : Prop where
  guarded : d.pager.pending = none ∧ d.inFlight = [] ∨
    ∃ waiting read, d.pager.pending = some waiting ∧ d.inFlight = [read]
  conserved : d.delivered ++ d.pager.buffer = d.returned.flatMap given

theorem sound_fresh : ({} : Desk ε α).Sound := ⟨.inl ⟨rfl, rfl⟩, rfl⟩

theorem Sound.idle (h : d.Sound) (hnone : d.inFlight = []) : d.pager.pending = none := by
  rcases h.guarded with ⟨hidle, -⟩ | ⟨_, read, -, hread⟩
  · exact hidle
  · rw [hnone] at hread
    cases hread

theorem Sound.waits (h : d.Sound) {read : Nat} (hread : read ∈ d.inFlight) :
    ∃ waiting, d.pager.pending = some waiting ∧ d.inFlight = [read] := by
  rcases h.guarded with ⟨-, hnone⟩ | ⟨waiting, n, hwaiting, hn⟩
  · rw [hnone] at hread
    cases hread
  · rw [hn, List.mem_singleton] at hread
    exact ⟨waiting, hwaiting, hread ▸ hn⟩

private theorem flatMap_served_append (d : Desk ε α) (read : Nat)
    (result : Except (ReadError ε) (Page α)) :
    (d.ended ++ [(read, result)]).flatMap (fun (_, result) => served result) =
      d.delivered ++ served result := by
  simp [delivered]

theorem Sound.begin (h : d.Sound) (limit : Int) (exhausted : Bool) :
    (d.begin limit exhausted).Sound := by
  rcases d.begin_cases limit exhausted with
    ⟨e, -, hrefused⟩ | ⟨-, hidle, ⟨page, rest, happend, hserved⟩ | ⟨waiting, hwaits⟩⟩
  · rw [hrefused]
    refine ⟨h.guarded, ?_⟩
    rw [delivered, flatMap_served_append, served_error, List.append_nil]
    exact h.conserved
  all_goals
    have hnone : d.inFlight = [] := by simpa [hidle] using h.guarded
  · rw [hserved]
    refine ⟨.inl ⟨rfl, hnone⟩, ?_⟩
    rw [delivered, flatMap_served_append, served_ok, List.append_assoc, happend]
    exact h.conserved
  · rw [hwaits]
    exact ⟨.inr ⟨waiting, d.begun, rfl, by rw [hnone]⟩, h.conserved⟩

theorem Sound.settle (h : d.Sound) {read : Nat} (hread : read ∈ d.inFlight)
    (batch : Except ε (List α)) (exhausted : Bool) : (d.settle read batch exhausted).Sound := by
  obtain ⟨waiting, hwaiting, hflight⟩ := h.waits hread
  have hrest : d.inFlight.erase read = [] := by rw [hflight, List.erase_cons_head]
  rcases settle_cases hwaiting read batch exhausted with
    ⟨e, rfl, hfails⟩ | ⟨items, rfl, ⟨page, rest, happend, hserves⟩ | ⟨waiting', hwaits⟩⟩
  · rw [hfails]
    refine ⟨.inl ⟨rfl, hrest⟩, ?_⟩
    rw [delivered, flatMap_served_append, served_error, List.append_nil, List.flatMap_append,
      List.flatMap_singleton, given_error, List.append_nil]
    exact h.conserved
  · rw [hserves]
    refine ⟨.inl ⟨rfl, hrest⟩, ?_⟩
    rw [delivered, flatMap_served_append, served_ok, List.append_assoc, happend,
      ← List.append_assoc, h.conserved, List.flatMap_append, List.flatMap_singleton, given_ok]
  · rw [hwaits]
    refine ⟨.inr ⟨waiting', read, rfl, by rw [hrest]⟩, ?_⟩
    show d.delivered ++ (d.pager.buffer ++ items) = _
    rw [← List.append_assoc, h.conserved, List.flatMap_append, List.flatMap_singleton, given_ok]

theorem Sound.step (h : d.Sound) (event : Event ε α) : (d.step event).Sound := by
  cases event with
  | begins limit exhausted => exact h.begin limit exhausted
  | settles read batch exhausted =>
    show (if read ∈ d.inFlight then d.settle read batch exhausted else d).Sound
    split
    · next hread => exact h.settle hread batch exhausted
    · exact h

theorem Sound.steps (h : d.Sound) (events : List (Event ε α)) :
    (events.foldl Desk.step d).Sound := by
  induction events generalizing d with
  | nil => exact h
  | cons event events ih => exact ih (h.step event)

theorem Sound.begin_of_inFlight (h : d.Sound) (hflight : d.inFlight ≠ []) {limit : Int}
    (hlimit : 0 ≤ limit) (exhausted : Bool) :
    d.begin limit exhausted =
      { d with begun := d.begun + 1, ended := d.ended ++ [(d.begun, .error .overlapping)] } := by
  rcases d.begin_cases limit exhausted with ⟨e, ⟨hneg, -⟩ | ⟨-, -, rfl⟩, hrefused⟩ | ⟨-, hidle, -⟩
  · omega
  · exact hrefused
  · exact absurd (by simpa [hidle] using h.guarded) hflight

theorem Sound.begin_of_idle (h : d.Sound) (hnone : d.inFlight = []) {limit : Int}
    (hlimit : 0 ≤ limit) (exhausted : Bool) :
    let d' := d.begin limit exhausted
    d'.inFlight = [d.begun] ∧ d'.ended = d.ended ∨
      d'.inFlight = [] ∧ ∃ page, d'.ended = d.ended ++ [(d.begun, .ok page)] := by
  rcases d.begin_cases limit exhausted with
    ⟨e, ⟨hneg, -⟩ | ⟨-, hwaits, -⟩, -⟩ | ⟨-, -, ⟨page, rest, -, hserved⟩ | ⟨waiting, hwaits⟩⟩
  · omega
  · exact absurd (h.idle hnone) hwaits
  · rw [hserved]
    exact .inr ⟨hnone, page, rfl⟩
  · rw [hwaits, hnone]
    exact .inl ⟨rfl, rfl⟩

theorem Sound.settle_ends (h : d.Sound) {read : Nat} (hread : read ∈ d.inFlight)
    (batch : Except ε (List α)) (exhausted : Bool) :
    let d' := d.settle read batch exhausted
    (∃ items, batch = .ok items) ∧ d'.inFlight = [read] ∧ d'.ended = d.ended ∨
      d'.inFlight = [] ∧ ∃ result, d'.ended = d.ended ++ [(read, result)] ∧
        ∀ e, batch = .error e → result = .error (.producer e) := by
  obtain ⟨waiting, hwaiting, hflight⟩ := h.waits hread
  have hrest : d.inFlight.erase read = [] := by rw [hflight, List.erase_cons_head]
  rcases settle_cases hwaiting read batch exhausted with
    ⟨e, rfl, hfails⟩ | ⟨items, rfl, ⟨page, rest, -, hserves⟩ | ⟨waiting', hwaits⟩⟩
  · rw [hfails]
    refine .inr ⟨hrest, _, rfl, ?_⟩
    rintro _ ⟨⟩
    rfl
  · rw [hserves]
    refine .inr ⟨hrest, _, rfl, ?_⟩
    rintro _ ⟨⟩
  · rw [hwaits, hrest]
    exact .inl ⟨⟨items, rfl⟩, rfl, rfl⟩

/-- A waiting read goes on with what its call gave. -/
private theorem step_settles (hnone : d.inFlight = []) (n : Nat) (read : Pending) (buffer : List α)
    (batch : Except ε (List α)) (exhausted : Bool) :
    (d.mark n (.waits, ⟨buffer, some read⟩)).step (.settles n batch exhausted) =
      { d with pager := ⟨buffer, some read⟩, returned := d.returned ++ [batch] }.mark n
        ((⟨buffer, some read⟩ : Pager α).resume exhausted batch) := by
  simp [mark, Desk.step, settle, hnone]

private theorem exists_events_of_finish {σ : Type} {producer : Producer σ ε α} {read : Pending}
    {buffer : List α} {s s' : σ} {result : Except (ReadError ε) (Page α)} {p : Pager α}
    (h : producer.finish read buffer s = (result, p, s')) (hnone : d.inFlight = []) (n : Nat) :
    ∃ events : List (Event ε α),
      let d' := events.foldl Desk.step
        (d.mark n (Pager.proceed (producer.exhausted s) read buffer))
      d'.pager = p ∧ d'.inFlight = [] ∧ d'.ended = d.ended ++ [(n, result)] := by
  fun_induction producer.finish read buffer s generalizing d with
  | case1 read buffer s hends items rest hserve =>
    obtain ⟨rfl, rfl, rfl⟩ : .ok ⟨items, read.pulled⟩ = result ∧ ⟨rest, none⟩ = p ∧ s = s' := by
      simpa using h
    rw [Pager.proceed, if_pos hends, hserve]
    exact ⟨[], rfl, hnone, rfl⟩
  | case2 read buffer s hgo e s'' hnext =>
    obtain ⟨rfl, rfl, rfl⟩ : .error (.producer e) = result ∧ ⟨buffer, none⟩ = p ∧ s'' = s' := by
      simpa using h
    rw [Pager.proceed, if_neg hgo]
    refine ⟨[.settles n (.error e) (producer.exhausted s'')], ?_⟩
    rw [List.foldl_cons, step_settles hnone]
    exact ⟨rfl, hnone, rfl⟩
  | case3 read buffer s hgo items s'' hnext ih =>
    obtain ⟨events, hevents⟩ :=
      ih (d := { d with pager := ⟨buffer, some read⟩, returned := d.returned ++ [.ok items] })
        h hnone
    rw [Pager.proceed, if_neg hgo]
    refine ⟨.settles n (.ok items) (producer.exhausted s'') :: events, ?_⟩
    rw [List.foldl_cons, step_settles hnone]
    exact hevents

/-- A read that nothing interrupts is a course of events: its own beginning, and then the ends of
its calls. -/
theorem exists_events_of_read {σ : Type} {producer : Producer σ ε α} {s s' : σ} {limit : Int}
    {result : Except (ReadError ε) (Page α)} {p : Pager α}
    (h : producer.read d.pager s limit = (result, p, s')) (hidle : d.pager.pending = none)
    (hlimit : 0 ≤ limit) (hnone : d.inFlight = []) :
    ∃ events : List (Event ε α),
      let d' := (.begins limit (producer.exhausted s) :: events).foldl Desk.step d
      d'.pager = p ∧ d'.inFlight = [] ∧ d'.ended = d.ended ++ [(d.begun, result)] := by
  rw [Producer.read_eq_finish hidle hlimit] at h
  obtain ⟨events, hevents⟩ :=
    exists_events_of_finish (d := { d with begun := d.begun + 1 }) h hnone d.begun
  refine ⟨events, ?_⟩
  rw [List.foldl_cons, Desk.step, Desk.begin, Pager.start_of_idle hidle hlimit]
  exact hevents

/-- Whatever has happened, calls included that begin reads themselves: one call of the producer is
in flight at most. While it is, a read that begins is refused and changes nothing; when none is, it
is admitted. A call in flight ends its read, or its read calls again. What the reads have been
served and what is in the buffer is what the calls gave, in order. -/
theorem overlapping_reads_exclusive (events : List (Event ε α)) :
    let d := after events
    d.inFlight.length ≤ 1 ∧
    (d.inFlight ≠ [] → ∀ limit exhausted, 0 ≤ limit → d.begin limit exhausted =
      { d with begun := d.begun + 1, ended := d.ended ++ [(d.begun, .error .overlapping)] }) ∧
    (d.inFlight = [] → ∀ limit exhausted, 0 ≤ limit →
      let d' := d.begin limit exhausted
      d'.inFlight = [d.begun] ∧ d'.ended = d.ended ∨
        d'.inFlight = [] ∧ ∃ page, d'.ended = d.ended ++ [(d.begun, .ok page)]) ∧
    (∀ read ∈ d.inFlight, ∀ batch exhausted,
      let d' := d.settle read batch exhausted
      (∃ items, batch = .ok items) ∧ d'.inFlight = [read] ∧ d'.ended = d.ended ∨
        d'.inFlight = [] ∧ ∃ result, d'.ended = d.ended ++ [(read, result)] ∧
          ∀ e, batch = .error e → result = .error (.producer e)) ∧
    d.delivered ++ d.pager.buffer = d.returned.flatMap given := by
  have hsound : (after events).Sound := sound_fresh.steps events
  refine ⟨?_, ?_, ?_, ?_, hsound.conserved⟩
  · rcases hsound.guarded with ⟨-, hnone⟩ | ⟨_, read, -, hread⟩
    · simp [hnone]
    · simp [hread]
  · intro hflight limit exhausted hlimit
    exact hsound.begin_of_inFlight hflight hlimit exhausted
  · intro hnone limit exhausted hlimit
    exact hsound.begin_of_idle hnone hlimit exhausted
  · intro read hread batch exhausted
    exact hsound.settle_ends hread batch exhausted

/-- The first read waits. The second is refused during the call, which then fails; the third one is
admitted, and takes up what the first left. -/
example :
    let d : Desk String Nat := after [.begins 3 false, .settles 0 (.ok [1, 2]) false,
      .begins 0 false, .settles 0 (.error "down") false, .begins 1 false]
    d.ended = [(1, .error .overlapping), (0, .error (.producer "down")), (2, .ok ⟨[1], 0⟩)] ∧
      d.pager = ⟨[2], none⟩ := ⟨rfl, rfl⟩

end Desk

end Concordance.Paging
