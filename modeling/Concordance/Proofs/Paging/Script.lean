import Concordance.Proofs.Paging.Serving
import Mathlib.Order.Bounds.Basic

/-! How many calls a read makes of a producer whose calls are written down beforehand. -/

namespace Concordance.Paging

namespace Producer

variable {σ ε α : Type} {producer : Producer σ ε α}

/-- The pager and its producer after reads one after another, whatever they come to. -/
def afterReads (producer : Producer σ ε α) : List Nat → Pager α × σ → Pager α × σ
  | [], now => now
  | limit :: limits, (p, s) => producer.afterReads limits (producer.read p s limit).2

/-- A producer that plays a script: each call comes to what stands next, and behind the last the
producer is exhausted. -/
def scripted : Producer (List (Except ε (List α))) ε α where
  next
    | [] => (.ok [], [])
    | batch :: script => (batch, script)
  left := List.length
  left_next_lt := by
    intro script hleft
    cases script with
    | nil => exact absurd rfl hleft
    | cons batch script => exact Nat.lt_succ_self _

variable {script batches left : List (Except ε (List α))} {buffer : List α} {limit calls : Nat}

theorem exhausted_scripted : scripted.exhausted script = true ↔ script = [] := by
  simp [exhausted, scripted]

/-- Calls take the script from the front. -/
theorem calls_scripted : scripted.Calls script batches left ↔ script = batches ++ left := by
  constructor
  · intro hcalls
    induction hcalls with
    | none => rfl
    | @call script left batches hmore _ ih =>
      cases script with
      | nil => cases hmore
      | cons batch script => exact congrArg (batch :: ·) ih
  · rintro rfl
    induction batches with
    | nil => exact .none left
    | cons batch batches ih => exact .call (s := batch :: (batches ++ left)) rfl ih

/-- What is buffered behind so many calls. -/
def held (buffer : List α) (script : List (Except ε (List α))) (calls : Nat) : List α :=
  buffer ++ (script.take calls).flatMap given

theorem held_append (buffer : List α) (batches left : List (Except ε (List α))) :
    held buffer (batches ++ left) batches.length = buffer ++ batches.flatMap given := by
  rw [held, List.take_left]

/-- A read that wants `limit` items makes no call behind so many. -/
inductive Rests (limit : Nat) (buffer : List α) (script : List (Except ε (List α)))
    (calls : Nat) : Prop where
  /-- as many items are buffered as it wants -/
  | enough : 0 < limit → limit ≤ (held buffer script calls).length → Rests limit buffer script calls
  /-- the script is used up -/
  | usedUp : calls = script.length → Rests limit buffer script calls
  /-- the last call failed -/
  | failed (e : ε) : (script.take calls).getLast? = some (.error e) →
      Rests limit buffer script calls

/-- Calls are the least to rest behind, if the buffer made none of them needless and none failed but
the last. -/
theorem isLeast_rests
    (hshort : ∀ k < batches.length,
      Pager.isEnough limit (buffer ++ (batches.take k).flatMap given) = false)
    (hgives : ∀ k < batches.length, ∀ e, .error e ∉ batches.take k)
    (hrests : Rests limit buffer (batches ++ left) batches.length) :
    IsLeast {k | Rests limit buffer (batches ++ left) k} batches.length := by
  refine ⟨hrests, ?_⟩
  intro k hk
  apply Nat.le_of_not_lt
  intro hlt
  have htake : (batches ++ left).take k = batches.take k :=
    List.take_append_of_le_length (Nat.le_of_lt hlt)
  cases hk with
  | enough hpos hlimit =>
    have hnot := hshort k hlt
    rw [held, htake] at hlimit
    rw [Pager.isEnough, Bool.and_eq_false_iff] at hnot
    rcases hnot with hzero | hmore
    · exact Nat.ne_of_gt hpos (by simpa using hzero)
    · exact of_decide_eq_false hmore hlimit
  | usedUp hend =>
    rw [List.length_append] at hend
    omega
  | failed e he =>
    rw [htake] at he
    exact hgives k hlt e (List.mem_of_getLast? he)

/-- What a read does that begins with this buffer and this script before it. -/
structure Fetches (limit : Nat) (buffer : List α) (script : List (Except ε (List α)))
    (result : Except (ReadError ε) (Page α)) (rest : List α) (left : List (Except ε (List α)))
    (calls : Nat) : Prop where
  /-- it makes as few calls as it may -/
  least : IsLeast {k | Rests limit buffer script k} calls
  /-- they come to what stands first in the script, and none is made when it is used up -/
  made : scripted.Calls script (script.take calls) left
  /-- a failed call ends it, and all that was buffered stays so -/
  fails : ∀ e, (script.take calls).getLast? = some (.error e) →
    result = .error (.producer e) ∧ rest = held buffer script calls
  /-- else it gives the first items that are buffered, and the others stay -/
  gives : (∀ e, (script.take calls).getLast? ≠ some (.error e)) →
    let items := held buffer script calls
    let count := if limit = 0 then items.length else min limit items.length
    result = .ok ⟨items.take count, calls⟩ ∧ rest = items.drop count

/-- A page is the first items, as many as are wanted and there. -/
theorem serve_eq_take_drop (limit : Nat) (items : List α) :
    let count := if limit = 0 then items.length else min limit items.length
    Pager.serve limit items = (items.take count, items.drop count) := by
  intro count
  by_cases hzero : limit = 0
  · simp [count, Pager.serve, hzero]
  · have hcount : count = min limit items.length := if_neg hzero
    rw [Pager.serve, if_neg hzero, hcount, List.take_eq_take_min, List.drop_eq_drop_min]

/-- No call fails, and the read stops because it has enough or the script is used up. -/
private theorem fetches_of_gives (hgives : ∀ e, .error e ∉ batches)
    (hshort : ∀ k < batches.length,
      Pager.isEnough limit (buffer ++ (batches.take k).flatMap given) = false)
    (hstop : (Pager.isEnough limit (buffer ++ batches.flatMap given) ||
      scripted.exhausted left) = true) :
    let (items, rest) := Pager.serve limit (buffer ++ batches.flatMap given)
    Fetches limit buffer (batches ++ left) (.ok ⟨items, batches.length⟩) rest left
      batches.length := by
  rw [serve_eq_take_drop, ← held_append buffer batches left]
  constructor
  · refine isLeast_rests hshort (fun k _ e he => hgives e (List.mem_of_mem_take he)) ?_
    rcases (Bool.or_eq_true _ _).mp hstop with henough | hend
    · rw [← held_append buffer batches left] at henough
      obtain ⟨hne, hle⟩ : limit ≠ 0 ∧
          limit ≤ (held buffer (batches ++ left) batches.length).length := by
        simpa [Pager.isEnough] using henough
      exact .enough (Nat.pos_of_ne_zero hne) hle
    · obtain rfl : left = [] := exhausted_scripted.mp hend
      exact .usedUp (by rw [List.append_nil])
  · rw [List.take_left]
    exact calls_scripted.mpr rfl
  · intro e he
    rw [List.take_left] at he
    exact absurd (List.mem_of_getLast? he) (hgives e)
  · intro _
    exact ⟨rfl, rfl⟩

/-- The last call fails, and none before it. -/
private theorem fetches_of_fails {before : List (Except ε (List α))} {e : ε}
    (hbatches : batches = before ++ [.error e]) (hgives : ∀ e', .error e' ∉ before)
    (hshort : ∀ k < batches.length,
      Pager.isEnough limit (buffer ++ (batches.take k).flatMap given) = false) :
    Fetches limit buffer (batches ++ left) (.error (.producer e))
      (buffer ++ before.flatMap given) left batches.length := by
  have hlast : ((batches ++ left).take batches.length).getLast? = some (.error e) := by
    rw [List.take_left, hbatches, List.getLast?_concat]
  constructor
  · refine isLeast_rests hshort ?_ (.failed e hlast)
    intro k hk e' he'
    have hle : k ≤ before.length := by
      rw [hbatches, List.length_append] at hk
      exact Nat.lt_succ_iff.mp hk
    rw [hbatches, List.take_append_of_le_length hle] at he'
    exact hgives e' (List.mem_of_mem_take he')
  · rw [List.take_left]
    exact calls_scripted.mpr rfl
  · intro e' he'
    rw [hlast] at he'
    cases he'
    refine ⟨rfl, ?_⟩
    rw [held_append, hbatches]
    simp
  · intro hnone
    exact absurd hlast (hnone e)

/-- A read of an idle pager fetches, and leaves it idle. -/
theorem fetches_of_read {p p' : Pager α} {result : Except (ReadError ε) (Page α)}
    (h : scripted.read p script limit = (result, p', left)) (hidle : p.pending = none) :
    (∃ calls, Fetches limit p.buffer script result p'.buffer left calls) ∧ p'.pending = none := by
  rw [read_eq_finish hidle (Int.natCast_nonneg limit)] at h
  obtain ⟨batches, hcalls, hshort, hends⟩ := finish_cases h
  rw [Int.toNat_natCast] at hshort hends
  obtain rfl : script = batches ++ left := calls_scripted.mp hcalls
  rcases hends with ⟨hgives, hstop, hresult, rfl⟩ | ⟨before, e, hbatches, hgives, rfl, rfl⟩
  · rw [Nat.zero_add] at hresult
    rw [hresult]
    exact ⟨⟨_, fetches_of_gives hgives hshort hstop⟩, rfl⟩
  · exact ⟨⟨_, fetches_of_fails hbatches hgives hshort⟩, rfl⟩

/-- Reads one after another leave the pager idle, and a rest of the script. -/
theorem idle_afterReads (limits : List Nat) {p : Pager α} (hidle : p.pending = none)
    (script : List (Except ε (List α))) :
    (scripted.afterReads limits (p, script)).1.pending = none ∧
      (scripted.afterReads limits (p, script)).2 <:+ script := by
  induction limits generalizing p script with
  | nil => exact ⟨hidle, List.suffix_rfl⟩
  | cons limit limits ih =>
    rcases hread : scripted.read p script limit with ⟨result, p', left⟩
    obtain ⟨⟨calls, hfetches⟩, hidle'⟩ := fetches_of_read hread hidle
    obtain ⟨hlater, hsuffix⟩ := ih hidle' left
    have hleft : left <:+ script := ⟨_, (calls_scripted.mp hfetches.made).symm⟩
    rw [afterReads, hread]
    exact ⟨hlater, hsuffix.trans hleft⟩

/-- Whatever a producer's calls come to, empty batches and failures among them, and whatever has
been read before, failed reads included: a read makes the least number of calls behind which it has
enough, nothing more will come or a call has failed; a failure takes nothing from the buffer; and a
page holds the first items, as many as are wanted and there. -/
theorem reads_fetch_least (script : List (Except ε (List α))) (limits : List Nat) (limit : Nat) :
    let (p, rest) := scripted.afterReads limits ({}, script)
    let (result, p', left) := scripted.read p rest limit
    p.pending = none ∧ rest <:+ script ∧
      ∃ calls, Fetches limit p.buffer rest result p'.buffer left calls := by
  obtain ⟨hidle, hsuffix⟩ := idle_afterReads limits (p := {}) rfl script
  exact ⟨hidle, hsuffix, (fetches_of_read rfl hidle).1⟩

/-- The empty batch does not end the first read, and the failure leaves two items to the third. -/
example :
    let script : List (Except String (List Nat)) :=
      [.ok [1, 2], .ok [], .ok [3, 4, 5], .error "down", .ok [6]]
    let (p, rest) := scripted.afterReads [3, 4] ({}, script)
    p.buffer = [4, 5] ∧ rest.length = 1 := by decide +kernel

end Producer

end Concordance.Paging
