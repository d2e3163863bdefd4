import Concordance.Proofs.Paging.Supply

/-! What a read serves out of what its producer still has. -/

namespace Concordance.Paging

namespace Pager

variable {α : Type}

theorem append_of_serve {limit : Nat} {buffer page rest : List α}
    (h : serve limit buffer = (page, rest)) : page ++ rest = buffer := by
  have happend := serve_append limit buffer
  rwa [h] at happend

/-- Items that come later are not on a page that was full without them. -/
theorem serve_fst_append {limit : Nat} {buffer : List α} (items : List α)
    (h : isEnough limit buffer = true) :
    (serve limit (buffer ++ items)).1 = (serve limit buffer).1 := by
  obtain ⟨hne, hle⟩ : limit ≠ 0 ∧ limit ≤ buffer.length := by simpa [isEnough] using h
  simp only [serve, if_neg hne]
  exact List.take_append_of_le_length hle

/-- An empty page is served only when nothing is left. -/
theorem eq_nil_of_serve_fst {limit : Nat} {buffer : List α} (h : (serve limit buffer).1 = []) :
    buffer = [] := by
  unfold serve at h
  split at h
  · exact h
  · next hne => exact (List.take_eq_nil_iff.mp h).resolve_left hne

theorem length_serve_fst_le {limit : Nat} (hlimit : limit ≠ 0) (buffer : List α) :
    (serve limit buffer).1.length ≤ limit := by
  simp only [serve, if_neg hlimit]
  exact List.length_take_le limit buffer

/-- A page that is not full leaves nothing. -/
theorem serve_snd_eq_nil {limit : Nat} {buffer : List α}
    (h : (serve limit buffer).1.length < limit) : (serve limit buffer).2 = [] := by
  have hlimit : limit ≠ 0 := Nat.ne_of_gt (Nat.lt_of_le_of_lt (Nat.zero_le _) h)
  simp only [serve, if_neg hlimit, List.length_take] at h ⊢
  exact List.drop_of_length_le (by omega)

end Pager

namespace Producer

variable {σ ε α : Type} {producer : Producer σ ε α}

/-- Called until it is exhausted, a producer never fails, and these are the items it gives. -/
inductive Supplies (producer : Producer σ ε α) : σ → List α → Prop where
  | done {s : σ} : producer.exhausted s = true → Supplies producer s []
  | batch {s s' : σ} {items rest : List α} :
      producer.exhausted s = false → producer.next s = (.ok items, s') →
      Supplies producer s' rest → Supplies producer s (items ++ rest)

/-- A waiting read serves what it would serve if all items were in the buffer. -/
theorem Supplies.finish {s : σ} {items : List α} (h : producer.Supplies s items) (read : Pending)
    (buffer : List α) :
    ∃ page, (producer.finish read buffer s).1 = .ok page ∧
      page.items = (Pager.serve read.limit (buffer ++ items)).1 := by
  induction h generalizing read buffer with
  | done hend =>
    rw [Producer.finish, dif_pos (by simp [hend]), List.append_nil]
    exact ⟨_, rfl, rfl⟩
  | @batch s s' items rest hleft hnext _ ih =>
    rw [Producer.finish]
    by_cases henough : Pager.isEnough read.limit buffer = true
    · rw [dif_pos (by simp [henough])]
      exact ⟨_, rfl, (Pager.serve_fst_append _ henough).symm⟩
    · rw [dif_neg (by simp [henough, hleft])]
      split
      · next e s'' hfails =>
        rw [hnext] at hfails
        cases hfails
      · next items' s'' hgives =>
        rw [hnext] at hgives
        cases hgives
        rw [← List.append_assoc]
        exact ih { read with pulled := read.pulled + 1 } (buffer ++ items)

/-- A waiting read for everything goes on until its producer is exhausted. -/
theorem exhausted_of_finish {read : Pending} {buffer : List α} {s s' : σ} {page : Page α}
    {p : Pager α} (hlimit : read.limit = 0)
    (h : producer.finish read buffer s = (.ok page, p, s')) : producer.exhausted s' = true := by
  obtain ⟨batches, -, -, ⟨-, hstop, -⟩ | ⟨_, e, -, -, hfails, -⟩⟩ := finish_cases h
  · simpa [Pager.isEnough, hlimit] using hstop
  · cases hfails

/-- A read that is not refused runs like one that has waited for nothing yet. -/
theorem read_eq_finish {p : Pager α} {s : σ} {limit : Int} (hidle : p.pending = none)
    (hlimit : 0 ≤ limit) :
    producer.read p s limit = producer.finish ⟨limit.toNat, 0⟩ p.buffer s := by
  unfold Producer.read
  rw [Pager.start_of_idle hidle hlimit]
  unfold Pager.proceed
  by_cases hend : (Pager.isEnough limit.toNat p.buffer || producer.exhausted s) = true
  · rw [if_pos hend, Producer.finish, dif_pos hend]
  · rw [if_neg hend]

/-- The same of a read from its beginning. -/
theorem Supplies.read {s : σ} {items : List α} (h : producer.Supplies s items) {p : Pager α}
    (hidle : p.pending = none) {limit : Int} (hlimit : 0 ≤ limit) :
    ∃ page, (producer.read p s limit).1 = .ok page ∧
      page.items = (Pager.serve limit.toNat (p.buffer ++ items)).1 := by
  rw [read_eq_finish hidle hlimit]
  exact h.finish ⟨limit.toNat, 0⟩ p.buffer

end Producer

end Concordance.Paging
