import Concordance.Proofs.Pattern.Interweave

/-! Texts of a word without their ignorable characters. -/

namespace Concordance.Pattern

variable {ignorable w : List Char} {places : List (List Char)}

/-- The characters of a text of the word are ignorable or accepted in a place. -/
theorem Interspersed.mem_or_mem (h : Interspersed ignorable places w) :
    ∀ c ∈ w, c ∈ ignorable ∨ ∃ place ∈ places, c ∈ place := by
  induction h with
  | nil => simp
  | @skip places c w hc h ih => simpa [hc] using ih
  | @take place places c w hc h ih =>
    intro d hd
    rcases List.mem_cons.mp hd with rfl | hd
    · exact .inr ⟨place, List.mem_cons_self, hc⟩
    · rcases ih d hd with hi | ⟨q, hq, hdq⟩
      · exact .inl hi
      · exact .inr ⟨q, List.mem_cons_of_mem place hq, hdq⟩

/-- Where no place accepts an ignorable character, a text of the word has one other character for
each place. -/
theorem Interspersed.length_strip (h : Interspersed ignorable places w)
    (hdisjoint : ∀ place ∈ places, ∀ c ∈ place, c ∉ ignorable) :
    (strip ignorable w).length = places.length := by
  induction h with
  | nil => rfl
  | @skip places c w hc h ih => simpa [strip, hc] using ih hdisjoint
  | @take place places c w hc h ih =>
    have hnot : c ∉ ignorable := hdisjoint place List.mem_cons_self c hc
    simpa [strip, hnot] using ih fun q hq => hdisjoint q (List.mem_cons_of_mem place hq)

/-- Where the places accept ignorable characters only, the texts of the word have no others. -/
theorem Interspersed.mem_ignorable (h : Interspersed ignorable places w)
    (hsubset : ∀ place ∈ places, ∀ c ∈ place, c ∈ ignorable) : ∀ c ∈ w, c ∈ ignorable := by
  induction h with
  | nil => simp
  | @skip places c w hc h ih => simpa [hc] using ih hsubset
  | @take place places c w hc h ih =>
    have hmem : c ∈ ignorable := hsubset place List.mem_cons_self c hc
    simpa [hmem] using ih fun q hq => hsubset q (List.mem_cons_of_mem place hq)

/-- Without ignorable characters in classes, the places of a word accept no ignorable characters, or
no others if the word has no others. -/
theorem Options.places_disjoint_or_subset {o : Options}
    (hclasses : ∀ cls ∈ o.equivalent, ∀ c ∈ cls, c ∉ o.ignore) (word : List Char) :
    (∀ place ∈ o.places word, ∀ c ∈ place, c ∉ o.ignore) ∨
      ∀ place ∈ o.places word, ∀ c ∈ place, c ∈ o.ignore := by
  by_cases hword : ∃ c ∈ word, o.mandatory c = true
  · left
    intro place hplace
    rw [places_eq_of_mandatory hword] at hplace
    obtain ⟨c, hc, rfl⟩ := List.mem_map.mp hplace
    have hmandatory := (List.mem_filter.mp hc).2
    unfold accepted
    cases hcls : classOf? [c] o.equivalent with
    | some cls => exact hclasses cls (mem_of_classOf?_eq_some hcls).1
    | none =>
      have hnot : c ∉ o.ignore := by simpa [Options.mandatory, hcls] using hmandatory
      simpa using hnot
  · right
    have hnone : ∀ c ∈ word, o.mandatory c = false := by simpa using hword
    intro place hplace
    rw [places_eq_of_not_mandatory hnone] at hplace
    obtain ⟨c, hc, rfl⟩ := List.mem_map.mp hplace
    exact fun d hd => accepted_subset_of_not_mandatory (hnone c hc) hd

end Concordance.Pattern
