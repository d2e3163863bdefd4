import Concordance.Pattern.Placement
import Concordance.Proofs.Pattern.Interweave
import Mathlib.Data.List.Forall2

/-! Which group stands at each place of a text, and which places hold one and the same group. -/

namespace Concordance.Pattern

/-- The characters have the same first class, or are the same character and have none. -/
def Shares (classes : List (List Char)) (c d : Char) : Prop :=
  (∃ cls, classOf? [c] classes = some cls ∧ classOf? [d] classes = some cls) ∨
    classOf? [c] classes = none ∧ classOf? [d] classes = none ∧ c = d

variable {classes : List (List Char)} {text : List Char} {c d : Char} {i j : Nat}

theorem idxOf_eq_iff_of_classOf? {cls cls' : List Char} (hc : classOf? [c] classes = some cls) :
    classes.idxOf cls = classes.idxOf cls' ↔ cls = cls' :=
  List.idxOf_inj (mem_of_classOf?_eq_some hc).1

theorem origin_eq_iff (classes : List (List Char)) (c d : Char) :
    (placeChar (classes.map (Group.ofChars · .once)) c).origin =
      (placeChar (classes.map (Group.ofChars · .once)) d).origin ↔ Shares classes c d := by
  unfold placeChar Shares
  rw [groupFor?_ofChars, groupFor?_ofChars]
  cases hc : classOf? [c] classes <;> cases hd : classOf? [d] classes
  case some.some => simp [idxOf_eq_iff_of_classOf? hc, eq_comm]
  all_goals simp

namespace Placement

/-- The number of the group of a character. -/
def number? (classes : List (List Char)) (p : Placement) (c : Char) : Option Nat :=
  ((classOf? [c] classes).map (classes.idxOf ·)).or (p.own.lookup c)

/-- What holds once a text has been placed. The groups of the classes are the first that were made,
and a group kept for a character is its own. -/
structure Sound (classes : List (List Char)) (text : List Char) (p : Placement) : Prop where
  made : ∃ more, p.made = classes.map (Group.ofChars · .once) ++ more
  own : ∀ c i, p.own.lookup c = some i →
    classes.length ≤ i ∧ p.made[i]? = some (.ofChars [c] .once)
  places : List.Forall₂ (fun c i => p.number? classes c = some i) text p.places

variable {p : Placement}

theorem sound_ofClasses (classes : List (List Char)) : Sound classes [] (ofClasses classes) where
  made := ⟨[], (List.append_nil _).symm⟩
  own := by
    intro c i h
    cases h
  places := .nil

/-- A number stays when more groups are kept. -/
theorem number?_of_own_append {p' : Placement} {more : List (Char × Nat)}
    (hown : p'.own = p.own ++ more) (h : p.number? classes c = some i) :
    p'.number? classes c = some i := by
  unfold number? at h ⊢
  rw [hown, List.lookup_append, ← Option.or_assoc, h, Option.some_or]

section Step

private theorem lookup_singleton_eq_some_iff {n : Nat} :
    [(c, n)].lookup d = some i ↔ d = c ∧ n = i := by
  by_cases hdc : d = c
  · simp [hdc]
  · have hbeq : (d == c) = false := beq_eq_false_iff_ne.mpr hdc
    simp [List.lookup_cons, hbeq, hdc]

variable (p) in
theorem place_of_classOf? {cls : List Char} (hc : classOf? [c] classes = some cls) :
    p.place (classes.map (Group.ofChars · .once)) c =
      { p with places := p.places ++ [classes.idxOf cls] } := by
  rw [Placement.place, groupFor?_ofChars, hc]
  rfl

theorem place_of_kept (hc : classOf? [c] classes = none) (hi : p.own.lookup c = some i) :
    p.place (classes.map (Group.ofChars · .once)) c =
      { p with made := p.made ++ [.ofChars [c] .once], places := p.places ++ [i] } := by
  rw [Placement.place, groupFor?_ofChars, hc, hi]
  rfl

theorem place_of_new (hc : classOf? [c] classes = none) (hi : p.own.lookup c = none) :
    p.place (classes.map (Group.ofChars · .once)) c =
      { made := p.made ++ [.ofChars [c] .once], own := p.own ++ [(c, p.made.length)],
        places := p.places ++ [p.made.length] } := by
  rw [Placement.place, groupFor?_ofChars, hc, hi]
  rfl

end Step

/-- One character more is placed soundly. -/
theorem Sound.place (h : Sound classes text p) (c : Char) :
    Sound classes (text ++ [c]) (p.place (classes.map (Group.ofChars · .once)) c) := by
  obtain ⟨⟨more, hmade⟩, hown, hplaces⟩ := h
  have hmore : p.made ++ [Group.ofChars [c] .once] =
      classes.map (Group.ofChars · .once) ++ (more ++ [Group.ofChars [c] .once]) := by
    rw [hmade, List.append_assoc]
  have hkept : ∀ (d : Char) (i : Nat), p.own.lookup d = some i →
      classes.length ≤ i ∧ (p.made ++ [.ofChars [c] .once])[i]? = some (.ofChars [d] .once) := by
    intro d i hd
    obtain ⟨hi, hgroup⟩ := hown d i hd
    have hlt := (List.getElem?_eq_some_iff.mp hgroup).1
    exact ⟨hi, (List.getElem?_append_left hlt).trans hgroup⟩
  cases hc : classOf? [c] classes with
  | some cls =>
    rw [place_of_classOf? p hc]
    refine ⟨⟨more, hmade⟩, hown, List.rel_append hplaces (.cons ?_ .nil)⟩
    simp [number?, hc]
  | none =>
    cases hfound : p.own.lookup c with
    | some i =>
      rw [place_of_kept hc hfound]
      refine ⟨⟨_, hmore⟩, hkept, List.rel_append hplaces (.cons ?_ .nil)⟩
      simp [number?, hc, hfound]
    | none =>
      rw [place_of_new hc hfound]
      refine ⟨⟨_, hmore⟩, ?own, List.rel_append ?before (.cons ?here .nil)⟩
      case own =>
        intro d i hd
        rw [List.lookup_append, Option.or_eq_some_iff] at hd
        obtain hd | ⟨-, hd⟩ := hd
        · exact hkept d i hd
        · obtain ⟨rfl, rfl⟩ := lookup_singleton_eq_some_iff.mp hd
          exact ⟨by simp [hmade], List.getElem?_concat_length⟩
      case before => exact hplaces.imp fun _ _ => number?_of_own_append rfl
      case here => simp [number?, hc, hfound, List.lookup_append]

theorem Sound.foldl (h : Sound classes text p) (more : List Char) :
    Sound classes (text ++ more)
      (more.foldl (Placement.place (classes.map (Group.ofChars · .once))) p) := by
  induction more generalizing text p with
  | nil => rwa [List.append_nil]
  | cons c more ih =>
    have hstep := ih (h.place c)
    rwa [List.append_assoc, List.singleton_append] at hstep

theorem sound_ofText (text : List Char) (classes : List (List Char)) :
    Sound classes text (ofText text classes) :=
  (sound_ofClasses classes).foldl text

/-- The group of a character is that of its first class, or holds nothing but the character. -/
theorem Sound.made_of_number? (h : Sound classes text p) (hi : p.number? classes c = some i) :
    p.made[i]? = some (.ofChars ((classOf? [c] classes).getD [c]) .once) := by
  unfold number? at hi
  cases hc : classOf? [c] classes with
  | some cls =>
    obtain rfl : classes.idxOf cls = i := by simpa [hc] using hi
    obtain ⟨more, hmade⟩ := h.made
    have hget : classes[classes.idxOf cls]? = some cls :=
      List.getElem?_idxOf (mem_of_classOf?_eq_some hc).1
    have hlt := (List.getElem?_eq_some_iff.mp hget).1
    rw [hmade, List.getElem?_append_left (by rwa [List.length_map]), List.getElem?_map, hget]
    rfl
  | none =>
    rw [hc] at hi
    exact (h.own c i hi).2

theorem Sound.number?_lt_iff (h : Sound classes text p) (hi : p.number? classes c = some i) :
    i < classes.length ↔ (classOf? [c] classes).isSome := by
  unfold number? at hi
  cases hc : classOf? [c] classes with
  | some cls =>
    obtain rfl : classes.idxOf cls = i := by simpa [hc] using hi
    simpa using List.idxOf_lt_length_of_mem (mem_of_classOf?_eq_some hc).1
  | none =>
    rw [hc] at hi
    simpa using (h.own c i hi).1

private theorem eq_of_ofChars_eq (h : Group.ofChars [c] .once = Group.ofChars [d] .once) :
    c = d := by
  have hc : [c] ∈ (Group.ofChars [d] .once).tokens :=
    h ▸ mem_tokens_ofChars.mpr ⟨c, List.mem_singleton_self c, rfl⟩
  obtain ⟨d', hd', heq⟩ := mem_tokens_ofChars.mp hc
  rw [List.mem_singleton] at hd'
  exact (List.singleton_inj.mp heq).symm.trans hd'

/-- Two characters have the same group if and only if they share it. -/
theorem Sound.number?_eq_iff (h : Sound classes text p) (hi : p.number? classes c = some i)
    (hj : p.number? classes d = some j) : i = j ↔ Shares classes c d := by
  have hclass := h.number?_lt_iff hi
  have hclass' := h.number?_lt_iff hj
  have hgroup := h.made_of_number? hi
  have hgroup' := h.made_of_number? hj
  unfold Shares
  cases hc : classOf? [c] classes <;> cases hd : classOf? [d] classes
  case none.none =>
    constructor
    · rintro rfl
      rw [hgroup, hc, hd] at hgroup'
      exact .inr ⟨rfl, rfl, eq_of_ofChars_eq (Option.some.inj hgroup')⟩
    · rintro (⟨_, hcls, -⟩ | ⟨-, -, rfl⟩)
      · cases hcls
      · exact Option.some.inj (hi.symm.trans hj)
  case some.some cls cls' =>
    obtain rfl : classes.idxOf cls = i := by simpa [number?, hc] using hi
    obtain rfl : classes.idxOf cls' = j := by simpa [number?, hd] using hj
    simp [idxOf_eq_iff_of_classOf? hc, eq_comm]
  -- Groups of classes were made before all others.
  all_goals
    have hne : i ≠ j := by
      rintro rfl
      simp [hclass, hc, hd] at hclass'
    simp [hne]

private theorem filterMap_eq_of_forall₂ {α β γ : Type} {f : α → γ} {g : β → Option γ}
    {xs : List α} {ys : List β} (h : List.Forall₂ (fun x y => g y = some (f x)) xs ys) :
    ys.filterMap g = xs.map f := by
  induction h with
  | nil => rfl
  | cons hxy _ ih => rw [List.filterMap_cons_some hxy, ih, List.map_cons]

theorem Sound.groups_eq (h : Sound classes text p) :
    p.groups = text.map fun c => .ofChars ((classOf? [c] classes).getD [c]) .once :=
  filterMap_eq_of_forall₂ (h.places.imp fun _ _ => h.made_of_number?)

theorem Sound.exists_number? (h : Sound classes text p) (k : Fin text.length) :
    ∃ i, p.places[(k : Nat)]? = some i ∧ p.number? classes text[k] = some i := by
  obtain ⟨hlength, hget⟩ := List.forall₂_iff_get.mp h.places
  have hk : (k : Nat) < p.places.length := hlength ▸ k.isLt
  exact ⟨p.places[(k : Nat)], List.getElem?_eq_getElem hk, hget k k.isLt hk⟩

/-- Each place of a text holds the group of its character's first class, or that of the character
alone; it is one and the same group wherever the characters share it. So the groups of a text that
is put together from two are those of its parts. -/
theorem ofText_groups (text : List Char) (classes : List (List Char)) :
    let p := ofText text classes
    p.groups = text.map (fun c => .ofChars ((classOf? [c] classes).getD [c]) .once) ∧
      p.places.length = text.length ∧
      (∀ j k : Fin text.length,
        p.places[(j : Nat)]? = p.places[(k : Nat)]? ↔ Shares classes text[j] text[k]) ∧
      ∀ more,
        (ofText (text ++ more) classes).groups = p.groups ++ (ofText more classes).groups := by
  intro p
  have hsound : ∀ text, Sound classes text (ofText text classes) :=
    fun text => sound_ofText text classes
  refine ⟨(hsound text).groups_eq, (hsound text).places.length_eq.symm, ?_, ?_⟩
  · intro j k
    obtain ⟨i, hi, hci⟩ := (hsound text).exists_number? j
    obtain ⟨i', hi', hdi⟩ := (hsound text).exists_number? k
    rw [hi, hi', Option.some_inj]
    exact (hsound text).number?_eq_iff hci hdi
  · intro more
    rw [(hsound _).groups_eq, (hsound _).groups_eq, (hsound _).groups_eq, List.map_append]

example : (ofText ['a', 'c', 'a'] [['c', 'ç']]).places = [1, 0, 1] := by decide

section Origins

/-- Placing one character after another gives the groups of `placeChars`. -/
theorem placeChars_groups (text : List Char) (classes : List (List Char)) :
    (placeChars text classes).map (·.group) = (ofText text classes).groups := by
  rw [(sound_ofText text classes).groups_eq, placeChars, List.map_map]
  exact List.map_congr_left fun c _ => placeChar_group classes c

private theorem findIdx_eq_idxOf_of_forall₂ {α : Type} {R : α → Nat → Prop} {xs : List α}
    {is : List Nat} {n : Nat} {holds : α → Bool} (h : List.Forall₂ R xs is)
    (hR : ∀ x i, R x i → (holds x = true ↔ i = n)) : xs.findIdx holds = is.idxOf n := by
  induction h with
  | nil => rfl
  | @cons x i _ _ hxi _ ih =>
    have hhead : holds x = (i == n) := by rw [Bool.eq_iff_iff, hR x i hxi, beq_iff_eq]
    rw [List.findIdx_cons, List.idxOf_cons, ih, hhead]

/-- The origin of a place stands for the number of its group. -/
theorem shared_placeChars (text : List Char) (classes : List (List Char)) :
    shared (placeChars text classes) =
      (ofText text classes).places.map fun i => (ofText text classes).places.idxOf i := by
  have hsound := sound_ofText text classes
  unfold shared placeChars
  rw [List.map_map, ← List.forall₂_eq_eq_eq, List.forall₂_map_left_iff, List.forall₂_map_right_iff]
  refine hsound.places.imp fun c i hi => ?_
  rw [Function.comp_apply, List.findIdx_map]
  refine findIdx_eq_idxOf_of_forall₂ hsound.places fun d j hj => ?_
  rw [Function.comp_apply, decide_eq_true_iff, origin_eq_iff]
  exact (hsound.number?_eq_iff hj hi).symm

end Origins

end Placement

end Concordance.Pattern
