import Concordance.Proofs.Pattern.Interweave

/-! Of all ways to take a word at the front of a text, the search finds one that takes the most.
Ignorable characters may be wanted by a run and by a place at once, so this rests on an exchange:
where two ways have come equally far in the word, the one may go on as the other does. -/

namespace Concordance.Pattern

variable {ignorable place : List Char} {places : List (List Char)}

/-- What stands behind a front part is a text of the places that are left there. -/
theorem Interspersed.exists_of_append {u v : List Char}
    (h : Interspersed ignorable places (u ++ v)) :
    ∃ left, left <:+ places ∧ Interspersed ignorable left v := by
  induction u generalizing places with
  | nil => exact ⟨places, List.suffix_rfl, h⟩
  | cons c u ih =>
    cases h with
    | skip _ h => exact ih h
    | @take place places _ _ _ h =>
      obtain ⟨left, hsuf, hv⟩ := ih h
      exact ⟨left, hsuf.trans (List.suffix_cons place places), hv⟩

/-- Two ways through a text that begin with different numbers of places left meet where these
numbers agree: who has more places left reaches any end that is reached with fewer. -/
theorem Interspersed.exchange {fewer : List (List Char)} {u v : List Char}
    (h : Interspersed ignorable places u) (hf : Interspersed ignorable fewer (u ++ v))
    (hsuf : fewer <:+ places) : Interspersed ignorable places (u ++ v) := by
  induction h generalizing fewer with
  | nil => rwa [← List.suffix_nil.mp hsuf]
  | @skip places c w hc h ih =>
    cases hf with
    | skip _ hf => exact .skip hc (ih hf hsuf)
    | @take q qs _ _ hq hf => exact .skip hc (ih hf ((List.suffix_cons q qs).trans hsuf))
  | @take p ps c w hc h ih =>
    rcases List.suffix_cons_iff.mp hsuf with rfl | hsuf
    · exact hf
    · cases hf with
      | skip _ hf => exact .take hc (ih hf hsuf)
      | @take q qs _ _ hq hf => exact .take hc (ih hf ((List.suffix_cons q qs).trans hsuf))

section Steps

variable {β : Type}

theorem interweave_nil (next : List Char → Option β) :
    interweave ignorable places [] next = if places = [] then next [] else none := by
  cases places <;> simp [interweave, skipRun, takePlace]

/-- A character is skipped if it can be and that leads on; it is taken in its place otherwise. -/
theorem interweave_cons (c : Char) (s : List Char) (next : List Char → Option β) :
    interweave ignorable places (c :: s) next =
      (if c ∈ ignorable then interweave ignorable places s next else none).or
        (match places with
        | [] => next (c :: s)
        | place :: places =>
          if c ∈ place then interweave ignorable places s next else none) := by
  cases places <;> by_cases hc : c ∈ ignorable <;> simp [interweave, skipRun, takePlace, hc]

/-- What is taken is a text of the word. -/
theorem exists_of_interweave_eq_some {s : List Char} {next : List Char → Option β} {b : β}
    (h : interweave ignorable places s next = some b) :
    ∃ w rest, s = w ++ rest ∧ Interspersed ignorable places w ∧ next rest = some b := by
  induction s generalizing places with
  | nil =>
    rw [interweave_nil] at h
    split at h
    · next he => exact ⟨[], [], rfl, he ▸ .nil, h⟩
    · cases h
  | cons c s ih =>
    rw [interweave_cons] at h
    rcases Option.or_eq_some_iff.mp h with hskip | ⟨-, htake⟩
    · split at hskip
      · next hc =>
        obtain ⟨w, rest, rfl, hw, hb⟩ := ih hskip
        exact ⟨c :: w, rest, rfl, .skip hc hw, hb⟩
      · cases hskip
    · cases places with
      | nil => exact ⟨[], c :: s, rfl, .nil, htake⟩
      | cons place places =>
        simp only at htake
        split at htake
        · next hc =>
          obtain ⟨w, rest, rfl, hw, hb⟩ := ih htake
          exact ⟨c :: w, rest, rfl, .take hc hw, hb⟩
        · cases htake

end Steps

private theorem exists_of_interweave_guard {ok : List Char → Bool} {s rest : List Char}
    (h : interweave ignorable places s (Option.guard ok) = some rest) :
    ∃ w, s = w ++ rest ∧ Interspersed ignorable places w ∧ ok rest := by
  obtain ⟨w, r, rfl, hw, hr⟩ := exists_of_interweave_eq_some h
  obtain ⟨rfl, hok⟩ := Option.guard_eq_some_iff.mp hr
  exact ⟨w, rfl, hw, hok⟩

/-- If a text of the word stands at the front and leaves an acceptable rest, then one is found that
is at least as long. -/
theorem interweave_guard_of_interspersed {ok : List Char → Bool} {w rest : List Char}
    (hw : Interspersed ignorable places w) (hok : ok rest) :
    ∃ w' rest', w ++ rest = w' ++ rest' ∧ w.length ≤ w'.length ∧
      interweave ignorable places (w ++ rest) (Option.guard ok) = some rest' := by
  generalize hs : w ++ rest = s
  induction s generalizing places w with
  | nil =>
    obtain ⟨rfl, rfl⟩ := List.append_eq_nil_iff.mp hs
    cases hw
    exact ⟨[], [], rfl, Nat.le_refl 0, by simp [interweave_nil, hok]⟩
  | cons c s ih =>
    rw [interweave_cons]
    cases hfirst :
        if c ∈ ignorable then interweave ignorable places s (Option.guard ok) else none with
    | some r =>
      -- The character is skipped. What is found behind it is no shorter than what is left of `w`,
      -- because by the exchange the places can go on from here as `w` does.
      have hc : c ∈ ignorable := Decidable.byContradiction fun hc => by simp [hc] at hfirst
      rw [if_pos hc] at hfirst
      obtain ⟨v, rfl, hv, -⟩ := exists_of_interweave_guard hfirst
      refine ⟨c :: v, r, rfl, Nat.le_of_not_lt fun hlt => ?_, by simp⟩
      have hlonger {u : List Char} (hu : u ++ rest = v ++ r)
          (hi : Interspersed ignorable places u) : u.length ≤ v.length := by
        obtain ⟨u', r', hu', hle, hr'⟩ := ih hi hu
        obtain rfl : r = r' := by simpa [hfirst] using hr'
        rwa [List.append_cancel_right hu']
      cases hw with
      | nil => simp at hlt
      | skip _ hw =>
        have hle := hlonger (List.cons_eq_cons.mp hs).2 hw
        simp only [List.length_cons] at hlt
        omega
      | @take place places d u hd hw =>
        obtain ⟨-, hu⟩ := List.cons_eq_cons.mp hs
        simp only [List.length_cons] at hlt
        obtain ⟨x, rfl, -⟩ | ⟨x, rfl, -⟩ := List.append_eq_append_iff.mp hu
        · rw [List.length_append] at hlt
          omega
        · have hle := hlonger hu (hv.exchange hw (List.suffix_cons place places))
          omega
    | none =>
      rw [Option.none_or]
      cases hw with
      | nil =>
        obtain rfl : rest = c :: s := hs
        exact ⟨[], c :: s, rfl, Nat.le_refl 0, by simp [hok]⟩
      | skip hd hw =>
        obtain ⟨rfl, hu⟩ := List.cons_eq_cons.mp hs
        obtain ⟨-, r', -, -, hr'⟩ := ih hw hu
        simp [hd, hr'] at hfirst
      | @take place places d u hd hw =>
        obtain ⟨rfl, hu⟩ := List.cons_eq_cons.mp hs
        obtain ⟨u', r', hu', hle, hr'⟩ := ih hw hu
        exact ⟨d :: u', r', by simp [hu'], by simpa using hle, by simp [hd, hr']⟩

/-- The search leaves an acceptable rest behind the longest text of the word that has one. -/
theorem interweave_guard_eq_some_iff {ok : List Char → Bool} {s rest : List Char} :
    interweave ignorable places s (Option.guard ok) = some rest ↔
      ∃ w, s = w ++ rest ∧ Interspersed ignorable places w ∧ ok rest ∧
        ∀ w' rest', s = w' ++ rest' → Interspersed ignorable places w' → ok rest' →
          w'.length ≤ w.length := by
  constructor
  · intro h
    obtain ⟨w, rfl, hw, hok⟩ := exists_of_interweave_guard h
    refine ⟨w, rfl, hw, hok, ?_⟩
    intro w' rest' hs hw' hok'
    obtain ⟨v, r, hv, hle, hr⟩ := interweave_guard_of_interspersed hw' hok'
    rw [← hs, h] at hr
    obtain rfl := Option.some.inj hr
    rwa [List.append_cancel_right (hs.trans hv)]
  · rintro ⟨w, rfl, hw, hok, hmax⟩
    obtain ⟨v, r, hv, hle, hr⟩ := interweave_guard_of_interspersed hw hok
    obtain ⟨u, hu, hi, hokr⟩ := exists_of_interweave_guard hr
    have hv' : Interspersed ignorable places v :=
      List.append_cancel_right (hu.symm.trans hv) ▸ hi
    have hlen : v.length ≤ w.length := hmax v r hv hv' hokr
    obtain ⟨-, rfl⟩ := List.append_inj hv (Nat.le_antisymm hle hlen)
    exact hr

theorem interweave_guard_eq_none_iff {ok : List Char → Bool} {s : List Char} :
    interweave ignorable places s (Option.guard ok) = none ↔
      ∀ w rest, s = w ++ rest → Interspersed ignorable places w → ¬ ok rest := by
  constructor
  · rintro h w rest rfl hw hok
    obtain ⟨-, r, -, -, hr⟩ := interweave_guard_of_interspersed hw hok
    rw [h] at hr
    cases hr
  · intro h
    apply Option.eq_none_iff_forall_ne_some.mpr
    intro r hr
    obtain ⟨w, hs, hw, hok⟩ := exists_of_interweave_guard hr
    exact h w r hs hw hok

theorem interweave_guard_isSome_iff {ok : List Char → Bool} {s : List Char} :
    (interweave ignorable places s (Option.guard ok)).isSome ↔
      ∃ w rest, s = w ++ rest ∧ Interspersed ignorable places w ∧ ok rest := by
  constructor
  · intro h
    obtain ⟨rest, hrest⟩ := Option.isSome_iff_exists.mp h
    obtain ⟨w, hs, hw, hok⟩ := exists_of_interweave_guard hrest
    exact ⟨w, rest, hs, hw, hok⟩
  · rintro ⟨w, rest, rfl, hw, hok⟩
    obtain ⟨-, r, -, -, hr⟩ := interweave_guard_of_interspersed hw hok
    rw [hr]
    rfl

theorem endsLine_iff {rest : List Char} : endsLine rest ↔ rest = [] ∨ rest = ['\n'] := by
  simp [endsLine]

/-- What may stand behind a match: anything, unless the pattern is for whole lines. -/
def Options.mayPrecede (o : Options) (rest : List Char) : Bool := !o.wholeLine || endsLine rest

/-- A match of a word at the front of a text, character by character. -/
theorem Options.matchAt_pattern (o : Options) (word : List Char) (atStart : Bool) (s : List Char) :
    (o.pattern word).matchAt atStart s =
      if o.wholeLine && !atStart then none
      else interweave o.ignore (o.places word) s (Option.guard o.mayPrecede) := by
  have hline : (o.pattern word).wholeLine = o.wholeLine := rfl
  unfold WordPattern.matchAt
  simp only [hline, o.runAll_parts]
  cases hw : o.wholeLine <;> cases atStart <;>
    simp [Option.guard_def, Options.mayPrecede, hw]

end Concordance.Pattern
