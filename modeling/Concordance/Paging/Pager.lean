/-!
Pages of any size out of batches of any size. A pager asks its producer for batches while it holds
fewer items than a read wants, and serves one read at a time.

The life of a read is cut at the moments when it waits for its producer: `start` begins a read,
`resume` hands it a batch. Between the two anything may happen, another `start` included. `read` is
the course of events in which nothing does.
-/

namespace Concordance.Paging

/-- Why a read fails. -/
inductive ReadError (ε : Type) where
  /-- the limit is below zero -/
  | negativeLimit (limit : Int)
  /-- another read is still waiting for its batch -/
  | overlapping
  /-- the producer failed -/
  | producer (e : ε)
  deriving Repr, DecidableEq

/-- The wording of a failure, given that of the producer's. -/
def ReadError.message {ε : Type} (ofProducer : ε → String) : ReadError ε → String
  | .negativeLimit limit => s!"limit must be >= 0, got {limit}"
  | .overlapping => "BufferedReader.read() does not support overlapping calls"
  | .producer e => ofProducer e

/-- A read that waits for a batch. -/
structure Pending where
  /-- how many items it wants; all of them if zero -/
  limit : Nat
  /-- how many batches it has received -/
  pulled : Nat
  deriving Repr, DecidableEq

/-- The items that have been produced but not yet served, and the read that waits for more. -/
structure Pager (α : Type) where
  buffer : List α := []
  pending : Option Pending := none
  deriving Repr, DecidableEq

/-- A served page, and how many batches were pulled for it. -/
structure Page (α : Type) where
  items : List α
  pulled : Nat
  deriving Repr, DecidableEq

/-- What becomes of a read at one of its moments. -/
inductive Progress (ε α : Type) where
  /-- it asks the producer for a batch -/
  | waits
  /-- it ends -/
  | ends (result : Except (ReadError ε) (Page α))

namespace Pager

variable {ε α : Type}

/-- True if a read of that limit needs no more items. -/
def isEnough (limit : Nat) (buffer : List α) : Bool := limit ≠ 0 && limit ≤ buffer.length

/-- The items of a page of that limit, and the items left. -/
def serve (limit : Nat) (buffer : List α) : List α × List α :=
  if limit = 0 then (buffer, []) else (buffer.take limit, buffer.drop limit)

/-- A page and what is left make up the buffer. -/
theorem serve_append (limit : Nat) (buffer : List α) :
    (serve limit buffer).1 ++ (serve limit buffer).2 = buffer := by
  unfold serve
  split <;> simp

/-- A read goes on: it ends with a page if the buffer suffices or nothing more will come, and waits
for a batch otherwise. -/
def proceed (exhausted : Bool) (read : Pending) (buffer : List α) : Progress ε α × Pager α :=
  if isEnough read.limit buffer || exhausted then
    let (items, rest) := serve read.limit buffer
    (.ends (.ok ⟨items, read.pulled⟩), ⟨rest, none⟩)
  else (.waits, ⟨buffer, some read⟩)

/-- A read begins. It is refused at once if its limit is negative or another read is waiting. -/
def start (p : Pager α) (exhausted : Bool) (limit : Int) : Progress ε α × Pager α :=
  if limit < 0 then (.ends (.error (.negativeLimit limit)), p)
  else if p.pending.isSome then (.ends (.error .overlapping), p)
  else proceed exhausted ⟨limit.toNat, 0⟩ p.buffer

/-- The waiting read receives what its producer gave. `exhausted` tells whether that was the last
batch. Without a waiting read nothing happens. -/
def resume (p : Pager α) (exhausted : Bool) (batch : Except ε (List α)) : Progress ε α × Pager α :=
  match p.pending, batch with
  | none, _ => (.waits, p)
  | some _, .error e => (.ends (.error (.producer e)), { p with pending := none })
  | some read, .ok items =>
    proceed exhausted { read with pulled := read.pulled + 1 } (p.buffer ++ items)

end Pager

/-- A producer of batches that is exhausted after finitely many calls. -/
structure Producer (σ ε α : Type) where
  /-- one call -/
  next : σ → Except ε (List α) × σ
  /-- how many calls are left at most; none when exhausted -/
  left : σ → Nat
  left_next_lt : ∀ s, left s ≠ 0 → left (next s).2 < left s

namespace Producer

variable {σ ε α : Type}

/-- True when the producer is not to be called any more. -/
def exhausted (producer : Producer σ ε α) (s : σ) : Bool := producer.left s = 0

/-- A waiting read runs to its end. -/
def finish (producer : Producer σ ε α) (read : Pending) (buffer : List α) (s : σ) :
    Except (ReadError ε) (Page α) × Pager α × σ :=
  if _h : (Pager.isEnough read.limit buffer || producer.exhausted s) = true then
    let (items, rest) := Pager.serve read.limit buffer
    (.ok ⟨items, read.pulled⟩, ⟨rest, none⟩, s)
  else
    match _hn : producer.next s with
    | (.error e, s') => (.error (.producer e), ⟨buffer, none⟩, s')
    | (.ok items, s') =>
      producer.finish { read with pulled := read.pulled + 1 } (buffer ++ items) s'
termination_by producer.left s
decreasing_by
  have hlt := producer.left_next_lt s (by simp_all [exhausted])
  simpa [_hn] using hlt

/-- A read that nothing interrupts. -/
def read (producer : Producer σ ε α) (p : Pager α) (s : σ) (limit : Int) :
    Except (ReadError ε) (Page α) × Pager α × σ :=
  match p.start (producer.exhausted s) limit with
  | (.ends result, p) => (result, p, s)
  | (.waits, p) => producer.finish ⟨limit.toNat, 0⟩ p.buffer s

/-- A read that ends well has called its producer, or has taken its page from the buffer. -/
theorem finish_eq_ok {producer : Producer σ ε α} {read : Pending} {buffer : List α} {s s' : σ}
    {page : Page α} {p : Pager α} (h : producer.finish read buffer s = (.ok page, p, s')) :
    producer.left s' < producer.left s ∨ s' = s ∧ page.items ++ p.buffer = buffer := by
  fun_induction producer.finish read buffer s with
  | case1 read buffer s _ items rest hserve =>
    simp only [Prod.mk.injEq, Except.ok.injEq] at h
    obtain ⟨rfl, rfl, rfl⟩ := h
    exact .inr ⟨rfl, by simpa [hserve] using Pager.serve_append read.limit buffer⟩
  | case2 => simp at h
  | case3 read buffer s hend items s'' hnext ih =>
    have hlt : producer.left s'' < producer.left s := by
      have := producer.left_next_lt s (by simp_all [exhausted])
      simpa [hnext] using this
    rcases ih h with hl | ⟨rfl, -⟩
    · exact .inl (Nat.lt_trans hl hlt)
    · exact .inl hlt

/-- The same of a read from its beginning. -/
theorem read_eq_ok {producer : Producer σ ε α} {p p' : Pager α} {s s' : σ} {limit : Int}
    {page : Page α} (h : producer.read p s limit = (.ok page, p', s')) :
    producer.left s' < producer.left s ∨ s' = s ∧ page.items ++ p'.buffer = p.buffer := by
  unfold read at h
  split at h
  · next result p'' hstart =>
    simp only [Prod.mk.injEq] at h
    obtain ⟨rfl, rfl, rfl⟩ := h
    refine .inr ⟨rfl, ?_⟩
    unfold Pager.start Pager.proceed at hstart
    split at hstart
    · simp at hstart
    · split at hstart
      · simp at hstart
      · split at hstart
        · simp only [Prod.mk.injEq, Progress.ends.injEq, Except.ok.injEq] at hstart
          obtain ⟨rfl, rfl⟩ := hstart
          exact Pager.serve_append _ _
        · simp at hstart
  · next p'' hstart =>
    have hb : p''.buffer = p.buffer := by
      unfold Pager.start Pager.proceed at hstart
      split at hstart
      · simp at hstart
      · split at hstart
        · simp at hstart
        · split at hstart
          · simp at hstart
          · simp only [Prod.mk.injEq, true_and] at hstart
            rw [← hstart]
    exact hb ▸ finish_eq_ok h

end Producer

end Concordance.Paging
