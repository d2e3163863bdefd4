import Concordance.Proofs.Pattern.Components
import Mathlib.Data.Finset.Max
import Mathlib.Data.List.Pairwise

/-! In which order classes stand, and in which order the members of a class. -/

namespace Concordance.Pattern

variable {α : Type} {pairs : List (α × α)} {classes : List (List α)} {cls : List α} {x y a b : α}

/-- Two elements that are mentioned but not linked, so that a pair of them joins two classes. -/
def Bridges (pairs : List (α × α)) (x y : α) : Prop :=
  x ∈ mentioned pairs ∧ y ∈ mentioned pairs ∧ ¬ Linked pairs x y

theorem Bridges.symm (h : Bridges pairs x y) : Bridges pairs y x :=
  ⟨h.2.1, h.1, fun hlinked => h.2.2 hlinked.symm⟩

variable [DecidableEq α]

private theorem rel_or_rel_of_pairwise {β : Type} {R : β → β → Prop} {l : List β} {c d : β}
    (h : l.Pairwise R) (hc : c ∈ l) (hd : d ∈ l) (hne : c ≠ d) : R c d ∨ R d c := by
  have : Std.Symm fun c d => R c d ∨ R d c := ⟨fun _ _ => Or.symm⟩
  have heither : l.Pairwise fun c d => R c d ∨ R d c := h.imp Or.inl
  exact heither.forall hc hd hne

/-- Each member of the second class has a member of the first one before it. -/
def Leads (pairs : List (α × α)) (c d : List α) : Prop :=
  ∀ b ∈ d, ∃ a ∈ c, SeenBefore (mentioned pairs) a b

/-- The members of a class stand in the order in which the pairs first mention them. -/
def InFirstSeenOrder (pairs : List (α × α)) (cls : List α) : Prop :=
  cls.Pairwise (SeenBefore (mentioned pairs))

instance (pairs : List (α × α)) (cls : List α) : Decidable (InFirstSeenOrder pairs cls) :=
  inferInstanceAs (Decidable (cls.Pairwise _))

/-- What is linked with one element is all seen before what is linked with the other. -/
def GrewApart (pairs : List (α × α)) (x y : α) : Prop :=
  (∀ a b, Linked pairs x a → Linked pairs y b → SeenBefore (mentioned pairs) a b) ∨
    ∀ a b, Linked pairs x a → Linked pairs y b → SeenBefore (mentioned pairs) b a

theorem GrewApart.symm (h : GrewApart pairs x y) : GrewApart pairs y x :=
  (Or.symm h).imp (fun h a b ha hb => h b a hb ha) fun h a b ha hb => h b a hb ha

/-- Whenever a pair joins the class with another one, the two have grown one after the other. -/
def JoinedInTurn (pairs : List (α × α)) (cls : List α) : Prop :=
  ∀ before x y after, pairs = before ++ (x, y) :: after → x ∈ cls → Bridges before x y →
    GrewApart before x y

theorem joinedInTurn_append_singleton :
    JoinedInTurn (pairs ++ [(x, y)]) cls ↔
      JoinedInTurn pairs cls ∧ (x ∈ cls → Bridges pairs x y → GrewApart pairs x y) := by
  constructor
  · intro h
    refine ⟨fun before u v after hsplit => ?_, h pairs x y [] rfl⟩
    exact h before u v (after ++ [(x, y)]) (by rw [hsplit, List.append_assoc, List.cons_append])
  · rintro ⟨hold, hlast⟩ before u v after hsplit
    rcases List.eq_nil_or_concat after with rfl | ⟨after, p, rfl⟩
    · obtain ⟨rfl, hp⟩ := List.append_inj' hsplit rfl
      obtain ⟨rfl, rfl⟩ := Prod.mk.inj (List.cons_eq_cons.mp hp).1
      exact hlast
    · rw [List.concat_eq_append, ← List.cons_append, ← List.append_assoc] at hsplit
      exact hold before u v after (List.append_inj' hsplit rfl).1

theorem mem_merged_of_mem (hcls : cls ∈ classes.filter (touches x y)) (ha : a ∈ cls) :
    a ∈ merged classes x y :=
  List.mem_eraseDups.mpr (List.mem_append_left _ (List.mem_flatten.mpr ⟨cls, hcls, ha⟩))

namespace AreComponents

/-- A class that a pair touches holds all that is linked with the element of the pair in it. -/
theorem linkedWith_iff (h : AreComponents pairs classes) (ha : a ∈ mentioned pairs) :
    LinkedWith pairs x y a ↔ ∃ cls ∈ classes.filter (touches x y), a ∈ cls := by
  constructor
  · intro hlinked
    obtain ⟨cls, hcls, ha⟩ := h.exists_mem ha
    refine ⟨cls, List.mem_filter.mpr ⟨hcls, touches_iff.mpr ?_⟩, ha⟩
    exact hlinked.imp (fun hx => (h.mem_iff cls hcls a ha x).mpr hx.symm)
      fun hy => (h.mem_iff cls hcls a ha y).mpr hy.symm
  · rintro ⟨cls, hcls, ha⟩
    obtain ⟨hcls, htouches⟩ := List.mem_filter.mp hcls
    exact (touches_iff.mp htouches).imp (fun hx => (h.mem_iff cls hcls x hx a).mp ha)
      fun hy => (h.mem_iff cls hcls y hy a).mp ha

theorem leads_append (h : AreComponents pairs classes) (more : List (α × α)) {c d : List α}
    (hc : c ∈ classes) (hd : d ∈ classes) (hlead : Leads pairs c d) :
    Leads (pairs ++ more) c d := by
  intro b hb
  obtain ⟨a, ha, hab⟩ := hlead b hb
  refine ⟨a, ha, ?_⟩
  rw [mentioned_append]
  exact (seenBefore_append (h.mem_mentioned hc ha) (h.mem_mentioned hd hb)).mpr hab

/-- What a pair makes of the classes that it touches is led by the classes in front of them. -/
theorem leads_merged (h : AreComponents pairs classes) {c : List α} (hc : c ∈ classes)
    (hlead : ∀ d ∈ classes.filter (touches x y), Leads pairs c d) :
    Leads (pairs ++ [(x, y)]) c (merged classes x y) := by
  intro b hb
  by_cases hmentioned : b ∈ mentioned pairs
  · obtain ⟨d, hd, hbd⟩ := (h.linkedWith_iff hmentioned).mp (h.mem_merged.mp hb)
    exact h.leads_append _ hc (List.mem_filter.mp hd).1 (hlead d hd) b hbd
  · obtain ⟨a, ha⟩ := List.exists_mem_of_ne_nil c (h.ne_nil c hc)
    refine ⟨a, ha, ?_⟩
    rw [mentioned_append]
    exact seenBefore_append_of_notMem (h.mem_mentioned hc ha) hmentioned

/-- A pair keeps the order of the classes: what it makes of those that it touches begins as early as
the first of them. -/
theorem pairwise_leads_join (h : AreComponents pairs classes)
    (horder : classes.Pairwise (Leads pairs)) (x y : α) :
    (joinPair classes (x, y)).Pairwise (Leads (pairs ++ [(x, y)])) := by
  obtain ⟨front, back, rfl, hfront, hback, heq⟩ := exists_joinPair_eq classes x y
  have hkept : (front ++ back).Pairwise (Leads (pairs ++ [(x, y)])) :=
    horder.imp_of_mem fun hc hd hlead => h.leads_append _ hc hd hlead
  obtain ⟨hfrontOrder, hbackOrder, hacross⟩ := List.pairwise_append.mp hkept
  rw [heq, List.pairwise_append, List.pairwise_cons]
  refine ⟨hfrontOrder, ⟨?_, hbackOrder.sublist List.filter_sublist⟩, ?_⟩
  · intro d hd b hb
    obtain ⟨hd, hfree⟩ := List.mem_filter.mp hd
    cases back with
    | nil => cases hd
    | cons first rest =>
      have htouches := hback first rfl
      rcases List.mem_cons.mp hd with rfl | hd
      · simp [htouches] at hfree
      · obtain ⟨a, ha, hab⟩ := (List.pairwise_cons.mp hbackOrder).1 d hd b hb
        refine ⟨a, mem_merged_of_mem (List.mem_filter.mpr ⟨?_, htouches⟩) ha, hab⟩
        exact List.mem_append_right front List.mem_cons_self
  · intro c hc d hd
    rcases List.mem_cons.mp hd with rfl | hd
    · refine h.leads_merged (List.mem_append_left back hc) fun d hd => ?_
      obtain ⟨hd, htouches⟩ := List.mem_filter.mp hd
      rcases List.mem_append.mp hd with hd | hd
      · simp [hfront d hd] at htouches
      · exact (List.pairwise_append.mp horder).2.2 c hc d hd
    · exact hacross c hc d (List.mem_filter.mp hd).1

end AreComponents

theorem pairwise_leads_equivalenceClasses (pairs : List (α × α)) :
    (equivalenceClasses pairs).Pairwise (Leads pairs) := by
  induction pairs using List.reverseRec with
  | nil => exact .nil
  | append_singleton pairs p ih =>
    rw [equivalenceClasses_append_singleton]
    exact (areComponents_equivalenceClasses pairs).pairwise_leads_join ih p.1 p.2

namespace AreComponents

theorem mem_flatten_touching (h : AreComponents pairs classes) (ha : LinkedWith pairs x y a) :
    a ∈ (classes.filter (touches x y)).flatten ↔ a ∈ mentioned pairs := by
  rw [List.mem_flatten]
  constructor
  · rintro ⟨cls, hcls, ha⟩
    exact h.mem_mentioned (List.mem_filter.mp hcls).1 ha
  · exact fun hmentioned => (h.linkedWith_iff hmentioned).mp ha

/-- What a pair makes of classes is what they were, one behind the other, and then what is new. -/
theorem merged_eq (h : AreComponents pairs classes) (x y : α) :
    merged classes x y = (classes.filter (touches x y)).flatten ++
      ([x, y].removeAll (mentioned pairs)).eraseDups := by
  have hnodup : (classes.filter (touches x y)).flatten.Nodup := by
    have hall := h.nodup
    rw [← (List.filter_append_perm (touches x y) classes).flatten.nodup_iff,
      List.flatten_append] at hall
    exact hall.of_append_left
  have hnew : [x, y].removeAll (classes.filter (touches x y)).flatten =
      [x, y].removeAll (mentioned pairs) := by
    apply List.filter_congr
    intro z hz
    have hlinked : LinkedWith pairs x y z := by
      rcases List.mem_pair.mp hz with rfl | rfl
      · exact .inl (.refl z)
      · exact .inr (.refl z)
    simp only [List.elem_eq_mem, h.mem_flatten_touching hlinked]
  rw [merged, List.eraseDups_append, eraseDups_of_nodup hnodup, hnew]

theorem inFirstSeenOrder_append (h : AreComponents pairs classes) (hcls : cls ∈ classes)
    (more : List (α × α)) :
    InFirstSeenOrder (pairs ++ more) cls ↔ InFirstSeenOrder pairs cls := by
  unfold InFirstSeenOrder
  rw [mentioned_append]
  apply List.Pairwise.iff_of_mem
  intro a b ha hb
  exact seenBefore_append (h.mem_mentioned hcls ha) (h.mem_mentioned hcls hb)

/-- What a pair makes of classes is in first-seen order if and only if they are, each of them and
one after the other. -/
theorem inFirstSeenOrder_merged_iff (h : AreComponents pairs classes) :
    InFirstSeenOrder (pairs ++ [(x, y)]) (merged classes x y) ↔
      (∀ cls ∈ classes.filter (touches x y), InFirstSeenOrder pairs cls) ∧
      (classes.filter (touches x y)).Pairwise fun c d =>
        ∀ a ∈ c, ∀ b ∈ d, SeenBefore (mentioned pairs) a b := by
  have hold : ∀ a ∈ (classes.filter (touches x y)).flatten, a ∈ mentioned pairs := by
    intro a ha
    obtain ⟨cls, hcls, ha⟩ := List.mem_flatten.mp ha
    exact h.mem_mentioned (List.mem_filter.mp hcls).1 ha
  have hnew := pairwise_seenBefore_eraseDups (mentioned (pairs ++ [(x, y)]))
  have hread : mentioned (pairs ++ [(x, y)]) = mentioned pairs ++ [x, y] := mentioned_append _ _
  rw [hread, List.eraseDups_append] at hnew
  rw [InFirstSeenOrder, h.merged_eq, hread, List.pairwise_append]
  have hflatten : (classes.filter (touches x y)).flatten.Pairwise
      (SeenBefore (mentioned pairs ++ [x, y])) ↔
      (classes.filter (touches x y)).flatten.Pairwise (SeenBefore (mentioned pairs)) :=
    List.Pairwise.iff_of_mem fun {a b} ha hb => seenBefore_append (hold a ha) (hold b hb)
  rw [hflatten, List.pairwise_flatten]
  constructor
  · exact fun hall => hall.1
  · intro hall
    refine ⟨hall, (List.pairwise_append.mp hnew).2.1, ?_⟩
    intro a ha b hb
    refine seenBefore_append_of_notMem (hold a ha) ?_
    simpa using (List.mem_filter.mp (List.mem_eraseDups.mp hb)).2

private theorem seenBefore_of_leads (h : AreComponents pairs classes) {c d : List α}
    (hc : c ∈ classes) (hd : d ∈ classes) (hlead : Leads pairs c d) (hx : x ∈ c) (hy : y ∈ d)
    (hgrew : GrewApart pairs x y) (ha : a ∈ c) (hb : b ∈ d) :
    SeenBefore (mentioned pairs) a b := by
  have hfirst {a : α} (ha : a ∈ c) : Linked pairs x a := (h.mem_iff c hc x hx a).mp ha
  have hsecond {b : α} (hb : b ∈ d) : Linked pairs y b := (h.mem_iff d hd y hy b).mp hb
  rcases hgrew with hgrew | hgrew
  · exact hgrew a b (hfirst ha) (hsecond hb)
  · obtain ⟨a, ha, hay⟩ := hlead y hy
    exact absurd (hgrew a y (hfirst ha) (.refl y)) hay.asymm

/-- The classes that a pair touches are at most two, so they stand one after the other if and only
if they have grown so. -/
theorem pairwise_touching_iff (h : AreComponents pairs classes)
    (horder : classes.Pairwise (Leads pairs)) :
    ((classes.filter (touches x y)).Pairwise fun c d =>
        ∀ a ∈ c, ∀ b ∈ d, SeenBefore (mentioned pairs) a b) ↔
      (Bridges pairs x y → GrewApart pairs x y) := by
  have hdisjoint := (List.nodup_flatten.mp h.nodup).2
  constructor
  · rintro hseen ⟨hx, hy, hapart⟩
    obtain ⟨c, hc, hx⟩ := h.exists_mem hx
    obtain ⟨d, hd, hy⟩ := h.exists_mem hy
    have hne : c ≠ d := by
      rintro rfl
      exact hapart ((h.mem_iff c hc x hx y).mp hy)
    have hcT : c ∈ classes.filter (touches x y) :=
      List.mem_filter.mpr ⟨hc, touches_iff.mpr (.inl hx)⟩
    have hdT : d ∈ classes.filter (touches x y) :=
      List.mem_filter.mpr ⟨hd, touches_iff.mpr (.inr hy)⟩
    have hfirst {a : α} (ha : Linked pairs x a) : a ∈ c := (h.mem_iff c hc x hx a).mpr ha
    have hsecond {b : α} (hb : Linked pairs y b) : b ∈ d := (h.mem_iff d hd y hy b).mpr hb
    rcases rel_or_rel_of_pairwise hseen hcT hdT hne with hcd | hdc
    · exact .inl fun a b ha hb => hcd a (hfirst ha) b (hsecond hb)
    · exact .inr fun a b ha hb => hdc b (hsecond hb) a (hfirst ha)
  · intro hgrew
    apply ((hdisjoint.and horder).sublist List.filter_sublist).imp_of_mem
    rintro c d hcT hdT ⟨hdisjoint, hlead⟩ a ha b hb
    obtain ⟨hc, hcTouches⟩ := List.mem_filter.mp hcT
    obtain ⟨hd, hdTouches⟩ := List.mem_filter.mp hdT
    have hbridges {x y : α} (hx : x ∈ c) (hy : y ∈ d) : Bridges pairs x y :=
      ⟨h.mem_mentioned hc hx, h.mem_mentioned hd hy, fun hlinked =>
        hdisjoint ((h.mem_iff c hc x hx y).mpr hlinked) hy⟩
    -- Of two classes that the pair touches each holds one of its elements, in either order.
    rcases touches_iff.mp hcTouches with hx | hy
    · rcases touches_iff.mp hdTouches with hx' | hy
      · exact absurd hx' (hdisjoint hx)
      · exact h.seenBefore_of_leads hc hd hlead hx hy (hgrew (hbridges hx hy)) ha hb
    · rcases touches_iff.mp hdTouches with hx | hy'
      · have hgrew := (hgrew (hbridges hy hx).symm).symm
        exact h.seenBefore_of_leads hc hd hlead hy hx hgrew ha hb
      · exact absurd hy' (hdisjoint hy)

/-- What a pair makes of classes has been joined in turn if each of them has. -/
theorem joinedInTurn_merged_iff (h : AreComponents pairs classes) :
    JoinedInTurn pairs (merged classes x y) ↔
      ∀ cls ∈ classes.filter (touches x y), JoinedInTurn pairs cls := by
  constructor
  · intro hmerged cls hcls before u v after hsplit hu
    exact hmerged before u v after hsplit (mem_merged_of_mem hcls hu)
  · intro hall before u v after hsplit hu
    have hmentioned : u ∈ mentioned pairs :=
      Pattern.mem_mentioned.mpr ⟨(u, v), by simp [hsplit], .inl rfl⟩
    obtain ⟨cls, hcls, hu⟩ := (h.linkedWith_iff hmentioned).mp (h.mem_merged.mp hu)
    exact hall cls hcls before u v after hsplit hu

end AreComponents

theorem inFirstSeenOrder_iff (hcls : cls ∈ equivalenceClasses pairs) :
    InFirstSeenOrder pairs cls ↔ JoinedInTurn pairs cls := by
  induction pairs using List.reverseRec generalizing cls with
  | nil => cases hcls
  | append_singleton pairs p ih =>
    obtain ⟨x, y⟩ := p
    have h := areComponents_equivalenceClasses pairs
    have horder := pairwise_leads_equivalenceClasses pairs
    rw [equivalenceClasses_append_singleton] at hcls
    rw [joinedInTurn_append_singleton]
    -- The last pair has either made the class or left it alone.
    rcases mem_joinPair.mp hcls with rfl | ⟨hold, hx, -⟩
    · have hx : x ∈ merged (equivalenceClasses pairs) x y := h.mem_merged.mpr (.inl (.refl x))
      have heach : (∀ cls ∈ (equivalenceClasses pairs).filter (touches x y),
          InFirstSeenOrder pairs cls) ↔
          JoinedInTurn pairs (merged (equivalenceClasses pairs) x y) := by
        rw [h.joinedInTurn_merged_iff]
        exact forall₂_congr fun cls hcls => ih (List.mem_filter.mp hcls).1
      rw [h.inFirstSeenOrder_merged_iff, h.pairwise_touching_iff horder, heach]
      simp [hx]
    · rw [h.inFirstSeenOrder_append hold, ih hold]
      simp [hx]

/-- Classes stand in the order in which their earliest members are first seen. The members of a
class do so as well if and only if no pair has joined the class from two parts that grew by
turns. -/
theorem equivalenceClasses_order (pairs : List (α × α)) :
    ((equivalenceClasses pairs).Pairwise fun c d =>
      ∃ a ∈ c, ∀ b ∈ d, SeenBefore (mentioned pairs) a b) ∧
    ∀ cls ∈ equivalenceClasses pairs, InFirstSeenOrder pairs cls ↔ JoinedInTurn pairs cls := by
  refine ⟨?_, fun cls => inFirstSeenOrder_iff⟩
  have h := areComponents_equivalenceClasses pairs
  apply (pairwise_leads_equivalenceClasses pairs).imp_of_mem
  intro c d hc hd hlead
  obtain ⟨a, ha, hearliest⟩ := c.toFinset.exists_min_image (mentioned pairs).idxOf
    (List.toFinset_nonempty_iff c |>.mpr (h.ne_nil c hc))
  refine ⟨a, List.mem_toFinset.mp ha, fun b hb => ?_⟩
  obtain ⟨a', ha', hab⟩ := hlead b hb
  exact Nat.lt_of_le_of_lt (hearliest a' (List.mem_toFinset.mpr ha')) hab

/-- Two classes grow by turns, `a` and `b` before `c` and `d` but `e` behind them, and are joined
then. The one class that they make has `e` in front of `c`. -/
theorem members_out_of_first_seen_order :
    let pairs := [('a', 'b'), ('c', 'd'), ('a', 'e'), ('a', 'c')]
    ¬ ∀ cls ∈ equivalenceClasses pairs, InFirstSeenOrder pairs cls := by
  decide

end Concordance.Pattern
