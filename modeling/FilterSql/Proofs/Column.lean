import FilterSql.Column

/-!
# The characters of a column

A column, a select list or an order has no characters but those of its names, those of the language
and the few of `Column.added`, which are the quotes, what joins a word to its language, and what is
written between the parts of a list.
-/

namespace FilterSql

namespace Text

variable {x q : Char}

/-- The code of a small letter is 32 more than the code of the capital one. -/
theorem toNat_toLower (c : Char) :
    c.toLower.toNat = if 65 ≤ c.toNat ∧ c.toNat ≤ 90 then c.toNat + 32 else c.toNat := by
  unfold Char.toLower
  simp only [UInt32.le_iff_toNat_le, Char.toNat]
  split
  · rename_i h
    rw [UInt32.toNat_add]
    refine (Nat.mod_eq_of_lt ?_).trans (if_pos h).symm
    have hlast : c.val.toNat ≤ 90 := h.2
    show c.val.toNat + 32 < 2 ^ 32
    omega
  · rename_i h
    exact (if_neg h).symm

/-- Only the character itself has a character as its small letter that is no letter. -/
theorem toLower_eq_iff {c : Char} (hx : x.isAlpha = false) : c.toLower = x ↔ c = x := by
  have hcode : (decide (65 ≤ x.val ∧ x.val ≤ 90) ||
      (decide (97 ≤ x.val) && decide (x.val ≤ 122))) = false := hx
  have hletter : ¬ (65 ≤ x.toNat ∧ x.toNat ≤ 90) ∧ ¬ (97 ≤ x.toNat ∧ x.toNat ≤ 122) := by
    simpa [UInt32.le_iff_toNat_le] using hcode
  rw [← Char.toNat_inj, ← Char.toNat_inj, toNat_toLower]
  split <;> omega

theorem mem_double {cs : List Char} (h : x ∈ double q cs) : x ∈ cs := by
  induction cs with
  | nil => exact h
  | cons c cs ih =>
    rw [double] at h
    by_cases hc : c = q
    · rw [if_pos hc, List.mem_cons, List.mem_cons] at h
      rcases h with rfl | rfl | h
      · simp [hc]
      · simp [hc]
      · exact List.mem_cons_of_mem _ (ih h)
    · rw [if_neg hc, List.mem_cons] at h
      rcases h with rfl | h
      · exact List.mem_cons_self
      · exact List.mem_cons_of_mem _ (ih h)

theorem mem_enclose {cs : List Char} (h : x ∈ enclose q cs) : x = q ∨ x ∈ cs := by
  rw [enclose, List.mem_cons, List.mem_append, List.mem_singleton] at h
  rcases h with rfl | h | rfl
  · exact .inl rfl
  · exact .inr (mem_double h)
  · exact .inl rfl

theorem mem_intercalate {separator : String} {l : List String}
    (h : x ∈ (String.intercalate separator l).toList) :
    x ∈ separator.toList ∨ ∃ s ∈ l, x ∈ s.toList := by
  induction l with
  | nil => simp at h
  | cons s l ih =>
    cases l with
    | nil => exact .inr ⟨s, by simp, by simpa using h⟩
    | cons t l =>
      rw [String.intercalate_cons_cons, String.toList_append, String.toList_append,
        List.mem_append, List.mem_append] at h
      rcases h with (h | h) | h
      · exact .inr ⟨s, by simp, h⟩
      · exact .inl h
      · rcases ih h with h | ⟨u, hu, h⟩
        · exact .inl h
        · exact .inr ⟨u, by simp [hu], h⟩

end Text

namespace Column

open Text

/-- The characters that columns and lists of them have besides those of names and language. -/
def added : List Char := " \"_,ASCDE".toList

variable {x : Char}

theorem mem_localized {language : List Char} {named : Bool} {word : List Char}
    (h : x ∈ localized language named word) : x ∈ language ∨ x ∈ word ∨ x ∈ added := by
  have hquote : '"' ∈ added := by decide
  have hsuffix : ∀ y ∈ suffix language, y ∈ language ∨ y ∈ added := by
    intro y hy
    unfold suffix at hy
    split at hy
    · simp at hy
    · rcases List.mem_cons.mp hy with rfl | hy
      · exact .inr (by decide)
      · exact .inl hy
  rw [localized, List.mem_append] at h
  rcases h with h | h
  · rcases mem_enclose h with rfl | h
    · exact .inr (.inr hquote)
    · rcases List.mem_append.mp h with h | h
      · exact .inr (.inl h)
      · exact (hsuffix x h).elim .inl fun h => .inr (.inr h)
  · split at h
    · rcases List.mem_append.mp h with h | h
      · have has : [' ', 'A', 'S', ' '] ⊆ added := by decide
        exact .inr (.inr (has h))
      · rcases mem_enclose h with rfl | h
        · exact .inr (.inr hquote)
        · exact .inr (.inl h)
    · simp at h

/-- Replacing marked words brings in no characters but those of the language and the added ones. -/
theorem mem_replaceMarked {language : List Char} {named : Bool} {word cs : List Char}
    (h : x ∈ replaceMarked language named word cs) :
    x ∈ language ∨ x ∈ word ∨ x ∈ cs ∨ x ∈ added := by
  induction cs generalizing word with
  | nil => exact .inr (.inl h)
  | cons c cs ih =>
    rw [replaceMarked] at h
    split at h
    · -- A character of a word goes on to the word.
      rcases ih h with h | h | h | h
      · exact .inl h
      · rcases List.mem_append.mp h with h | h
        · exact .inr (.inl h)
        · exact .inr (.inr (.inl (by simp [List.mem_singleton.mp h])))
      · exact .inr (.inr (.inl (List.mem_cons_of_mem _ h)))
      · exact .inr (.inr (.inr h))
    · split at h
      · -- A marker ends a marked word.
        rcases List.mem_append.mp h with h | h
        · rcases mem_localized h with h | h | h
          · exact .inl h
          · exact .inr (.inl h)
          · exact .inr (.inr (.inr h))
        · rcases ih h with h | h | h | h
          · exact .inl h
          · simp at h
          · exact .inr (.inr (.inl (List.mem_cons_of_mem _ h)))
          · exact .inr (.inr (.inr h))
      · -- Any other character ends a word without a marker.
        rcases List.mem_append.mp h with h | h
        · exact .inr (.inl h)
        · rcases List.mem_cons.mp h with rfl | h
          · exact .inr (.inr (.inl List.mem_cons_self))
          · rcases ih h with h | h | h | h
            · exact .inl h
            · simp at h
            · exact .inr (.inr (.inl (List.mem_cons_of_mem _ h)))
            · exact .inr (.inr (.inr h))

theorem mem_quoteIdentifier {name : String} (h : x ∈ (quoteIdentifier name).toList) :
    x ∈ name.toList ∨ x ∈ added := by
  rw [quoteIdentifier, String.toList_ofList] at h
  rcases mem_enclose h with rfl | h
  · exact .inr (by decide)
  · exact .inl h

theorem mem_sqlOf {named : Bool} {language name : String}
    (h : x ∈ (sqlOf named language name).toList) :
    x ∈ language.toList ∨ x ∈ name.toList ∨ x ∈ added := by
  unfold sqlOf at h
  split at h
  · rw [localize, String.toList_ofList] at h
    rcases mem_replaceMarked h with h | h | h | h
    · exact .inl h
    · simp at h
    · exact .inr (.inl h)
    · exact .inr (.inr h)
  · split at h
    · exact .inr (.inl h)
    · exact .inr (mem_quoteIdentifier h)

/-- Putting back the last underscore between its two sides gives the text. -/
theorem eq_append_of_splitLast? {cs name ending : List Char}
    (h : splitLast? cs = some (name, ending)) : cs = name ++ '_' :: ending := by
  unfold splitLast? at h
  split at h
  · simp at h
  · rename_i c before hdrop
    obtain ⟨rfl, rfl⟩ : before.reverse = name ∧ _ = ending := by simpa using h
    have hlast := List.head?_dropWhile_not (· ≠ '_') cs.reverse
    rw [hdrop] at hlast
    obtain rfl : c = '_' := by simpa using hlast
    have hsides := List.takeWhile_append_dropWhile (p := (· ≠ '_')) (l := cs.reverse)
    rw [hdrop] at hsides
    simpa using congrArg List.reverse hsides.symm

theorem mem_splitSort {cs : List Char} (h : x ∈ (splitSort cs).1) : x ∈ cs := by
  unfold splitSort at h
  split at h
  · exact h
  · rename_i name ending hsplit
    split at h
    · rw [eq_append_of_splitLast? hsplit]
      exact List.mem_append_left _ h
    · exact h

theorem mem_sortKey {language token : String} (h : x ∈ (sortKey language token).toList) :
    x ∈ language.toList ∨ x ∈ token.toList ∨ x ∈ added := by
  unfold sortKey at h
  simp only [String.toList_append, List.mem_append] at h
  rcases h with h | h
  · rcases mem_sqlOf h with h | h | h
    · exact .inl h
    · rw [String.toList_ofList] at h
      exact .inr (.inl (mem_splitSort h))
    · exact .inr (.inr h)
  · have hdesc : " DESC".toList ⊆ added := by decide
    have hasc : " ASC".toList ⊆ added := by decide
    split at h
    · exact .inr (.inr (hdesc h))
    · exact .inr (.inr (hasc h))

/-- A list brings in no characters but those of the language and the added ones if none of its
members does. -/
theorem mem_commaList {language : String} {sql : String → String} {l : List String}
    (hsql : ∀ s, x ∈ (sql s).toList → x ∈ language.toList ∨ x ∈ s.toList ∨ x ∈ added)
    (h : x ∈ (String.intercalate "," (l.map sql)).toList) :
    x ∈ language.toList ∨ (∃ s ∈ l, x ∈ s.toList) ∨ x ∈ added := by
  rcases mem_intercalate h with h | ⟨t, ht, h⟩
  · obtain rfl : x = ',' := by simpa using h
    exact .inr (.inr (by decide))
  · obtain ⟨s, hs, rfl⟩ := List.mem_map.mp ht
    rcases hsql s h with h | h | h
    · exact .inl h
    · exact .inr (.inl ⟨s, hs, h⟩)
    · exact .inr (.inr h)

theorem mem_fieldList {language : String} {fields : List String}
    (h : x ∈ (fieldList language fields).toList) :
    x ∈ language.toList ∨ (∃ f ∈ fields, x ∈ f.toList) ∨ x ∈ added :=
  mem_commaList (fun _ => mem_sqlOf) h

theorem mem_sortList {language : String} {tokens : List String}
    (h : x ∈ (sortList language tokens).toList) :
    x ∈ language.toList ∨ (∃ t ∈ tokens, x ∈ t.toList) ∨ x ∈ added :=
  mem_commaList (fun _ => mem_sortKey) h

end Column

end FilterSql
