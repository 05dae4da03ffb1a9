import FilterSql.Proofs.Placeholder.Filter
import Mathlib.Data.List.Forall2
import Mathlib.Data.List.Infix

/-!
# What a search finds

A search compares a column with a pattern of LIKE. `Like.accepts` says which texts a pattern
matches: a percent sign stands for any text, an underscore for any one character, and every other
character for itself. The percent signs of a term are taken out and upper case brings in none, so
that the only percent signs of a search's pattern are those of its anchor. Underscores stay. Both
follow from one fact on upper case, that no other character has one of the two signs in its upper
case (`mem_upper_iff`).

A part of a pattern without percent signs is compared character by character (`accepts_append`),
which gives what the patterns of the three anchors match (`accepts_pattern`), and with it what a
search finds (`accepts_search`): a term without an underscore is found where it stands, and a term
with one also where another character stands in its place (`not_accepts_iff_stands`).
-/

namespace FilterSql

/-! ## Upper case -/

namespace Text

/-- Whether a character stands for other text in a pattern. -/
def isWildcard (c : Char) : Bool :=
  c == '%' || c == '_'

/-- Only the character with code point 0 is also written with numbers that are no code points. -/
theorem eq_toNat_of_ofNat_eq {n : Nat} {c : Char} (h : Char.ofNat n = c) (hc : c.toNat ≠ 0) :
    n = c.toNat := by
  subst h
  by_cases hvalid : n.isValidChar
  · have hchar : Char.ofNat n = Char.ofNatAux n hvalid := dif_pos hvalid
    rw [hchar]
    rfl
  · have hzero : Char.ofNat n = '\x00' := dif_neg hvalid
    exact absurd (congrArg Char.toNat hzero) hc

theorem toNat_of_isWildcard {c : Char} (h : isWildcard c) : c.toNat = 0x25 ∨ c.toNat = 0x5F := by
  rcases (Bool.or_eq_true _ _).mp h with h | h
  · rw [eq_of_beq h]
    exact .inl rfl
  · rw [eq_of_beq h]
    exact .inr rfl

theorem upperChar_of_isWildcard {c : Char} (h : isWildcard c) : upperChar c = [c] := by
  rcases (Bool.or_eq_true _ _).mp h with h | h
  · rw [eq_of_beq h]
    rfl
  · rw [eq_of_beq h]
    rfl

theorem toUpper_of_isWildcard_toUpper :
    ∀ n < 0x80, isWildcard (Char.ofNat n).toUpper → (Char.ofNat n).toUpper = Char.ofNat n := by
  decide +kernel

theorem all_upperExpansions :
    upperExpansions.all fun e => e.2.all fun n => !isWildcard (Char.ofNat n) := by
  decide +kernel

theorem all_upperRuns : (upperRunsLow ++ upperRunsHigh).all fun r => [0x25, 0x5F].all fun n =>
    decide (¬ (r.first + r.shift ≤ n ∧ n ≤ r.last + r.shift)) := by
  decide +kernel

/-- A wildcard is in the upper case of no other character. -/
theorem eq_of_mem_upperChar {x c : Char} (hx : isWildcard x) (h : x ∈ upperChar c) : x = c := by
  have hcode := toNat_of_isWildcard hx
  unfold upperChar at h
  simp only at h
  split at h
  · rename_i hc
    have hascii := toUpper_of_isWildcard_toUpper c.toNat hc
    rw [Char.ofNat_toNat, ← List.mem_singleton.mp h] at hascii
    exact hascii hx
  · -- Above ASCII the tables have no wildcard, and a character without an entry is kept.
    split at h
    · rename_i ns hlookup
      obtain ⟨before, after, hentries, -⟩ := List.lookup_eq_some_iff.mp hlookup
      have hentry : (c.toNat, ns) ∈ upperExpansions := by rw [hentries]; simp
      obtain ⟨n, hn, rfl⟩ := List.mem_map.mp h
      have hnone := List.all_eq_true.mp (List.all_eq_true.mp all_upperExpansions _ hentry) n hn
      rw [hx] at hnone
      cases hnone
    · split at h
      · rename_i m hm
        obtain ⟨r, hr, himage⟩ := List.exists_of_findSome?_eq_some hm
        have hmcode := eq_toNat_of_ofNat_eq (List.mem_singleton.mp h).symm (by omega)
        have hrun := List.all_eq_true.mp all_upperRuns r hr
        simp only [List.all_cons, List.all_nil, Bool.and_true, Bool.and_eq_true,
          decide_eq_true_eq] at hrun
        unfold CaseRun.image? at himage
        split at himage
        · rename_i hrange
          have himage := Option.some.inj himage
          omega
        · cases himage
      · exact List.mem_singleton.mp h

/-- A text has the wildcards of its upper case. -/
theorem mem_upper_iff {x : Char} (hx : isWildcard x) (cs : List Char) :
    x ∈ upper cs ↔ x ∈ cs := by
  rw [upper, List.mem_flatMap]
  constructor
  · rintro ⟨c, hc, h⟩
    rw [eq_of_mem_upperChar hx h]
    exact hc
  · intro h
    exact ⟨x, h, by rw [upperChar_of_isWildcard hx]; exact List.mem_singleton_self x⟩

end Text

/-! ## Patterns -/

namespace Like

/-- Whether a text matches a pattern. -/
def accepts : (pattern text : List Char) → Bool
  | [], cs => cs.isEmpty
  | p :: ps, cs =>
    if p = '%' then cs.tails.any (accepts ps)
    else match cs with
      | [] => false
      | c :: cs => (p = '_' || p = c) && accepts ps cs

/-- Whether a text is a term with any characters in the place of its underscores. -/
def Fits (term cs : List Char) : Prop :=
  List.Forall₂ (fun t c => t = '_' ∨ t = c) term cs

/-- A percent sign stands for any text. -/
theorem accepts_percent (ps cs : List Char) :
    accepts ('%' :: ps) cs ↔ ∃ before rest, cs = before ++ rest ∧ accepts ps rest := by
  have htails : accepts ('%' :: ps) cs = cs.tails.any (accepts ps) := by cases cs <;> rfl
  rw [htails, List.any_eq_true]
  constructor
  · rintro ⟨rest, hrest, h⟩
    obtain ⟨before, rfl⟩ := (List.mem_tails _ _).mp hrest
    exact ⟨before, rest, rfl, h⟩
  · rintro ⟨before, rest, rfl, h⟩
    exact ⟨rest, (List.mem_tails _ _).mpr (List.suffix_append before rest), h⟩

/-- What follows no percent sign is compared from the start of the text. -/
theorem accepts_append {term : List Char} (h : '%' ∉ term) (ps cs : List Char) :
    accepts (term ++ ps) cs ↔
      ∃ part rest, cs = part ++ rest ∧ Fits term part ∧ accepts ps rest := by
  induction term generalizing cs with
  | nil =>
    constructor
    · intro hrest
      exact ⟨[], cs, rfl, .nil, hrest⟩
    · rintro ⟨part, rest, rfl, hfits, hrest⟩
      cases hfits
      exact hrest
  | cons t ts ih =>
    have ht : t ≠ '%' := fun e => h (by rw [e]; exact List.mem_cons_self)
    have hts : '%' ∉ ts := fun hmem => h (List.mem_cons_of_mem t hmem)
    rw [List.cons_append]
    cases cs with
    | nil =>
      rw [accepts, if_neg ht]
      refine iff_of_false Bool.false_ne_true ?_
      rintro ⟨part, rest, hnil, hfits, -⟩
      obtain ⟨rfl, -⟩ := List.append_eq_nil_iff.mp hnil.symm
      cases hfits
    | cons c cs =>
      rw [accepts, if_neg ht, Bool.and_eq_true, Bool.or_eq_true, decide_eq_true_eq,
        decide_eq_true_eq, ih hts]
      constructor
      · rintro ⟨hc, part, rest, rfl, hfits, hrest⟩
        exact ⟨c :: part, rest, rfl, .cons hc hfits, hrest⟩
      · rintro ⟨part, rest, hcs, hfits, hrest⟩
        cases hfits with
        | cons hc hfits =>
          obtain ⟨rfl, rfl⟩ := List.cons.inj hcs
          exact ⟨hc, _, rest, rfl, hfits, hrest⟩

/-- A term without percent signs matches what fits it. -/
theorem accepts_iff_fits {term : List Char} (h : '%' ∉ term) (cs : List Char) :
    accepts term cs ↔ Fits term cs := by
  have happend := accepts_append h [] cs
  rw [List.append_nil] at happend
  rw [happend]
  constructor
  · rintro ⟨part, rest, rfl, hfits, hrest⟩
    rw [List.isEmpty_iff.mp hrest, List.append_nil]
    exact hfits
  · intro hfits
    exact ⟨cs, [], (List.append_nil cs).symm, hfits, rfl⟩

/-- Only the term itself fits a term without underscores. -/
theorem fits_iff_eq {term : List Char} (h : '_' ∉ term) (cs : List Char) :
    Fits term cs ↔ term = cs := by
  unfold Fits
  rw [← List.forall₂_eq_eq_eq]
  constructor
  · intro hfits
    induction hfits with
    | nil => exact .nil
    | @cons t c ts cs hc hrest ih =>
      have ht : t ≠ '_' := fun e => h (by rw [e]; exact List.mem_cons_self)
      exact .cons (hc.resolve_left ht) (ih fun hmem => h (List.mem_cons_of_mem t hmem))
  · exact fun heq => heq.imp fun t c => Or.inr

end Like

/-! ## Anchors -/

namespace Anchor

open Like

/-- What a search looks for: its term without percent signs, in upper case. -/
def searched (term : String) : List Char :=
  Text.upper (term.toList.filter (· ≠ '%'))

/-- Whether a part stands in a text where an anchor wants it. -/
def Stands : (a : Anchor) → (part cs : List Char) → Prop
  | start, part, cs => part <+: cs
  | finish, part, cs => part <:+ cs
  | anywhere, part, cs => part <:+: cs

theorem percent_notMem_searched (term : String) : '%' ∉ searched term := by
  intro h
  have hterm := (Text.mem_upper_iff rfl _).mp h
  simp at hterm

/-- The underscores of a term stay. -/
theorem underscore_mem_searched_iff (term : String) :
    '_' ∈ searched term ↔ '_' ∈ term.toList := by
  unfold searched
  rw [Text.mem_upper_iff rfl]
  simp

/-- A pattern matches the texts in which something that fits the term stands where the anchor wants
it. -/
theorem accepts_pattern (a : Anchor) (term : String) (cs : List Char) :
    accepts (a.pattern term).toList cs ↔ ∃ part, a.Stands part cs ∧ Fits (searched term) part := by
  have hplain := percent_notMem_searched term
  have hrest : ∀ rest, accepts ['%'] rest = true := fun rest =>
    (accepts_percent [] rest).mpr ⟨rest, [], (List.append_nil rest).symm, rfl⟩
  unfold pattern
  rw [String.toList_ofList]
  cases a with
  | start =>
    change accepts (searched term ++ ['%']) cs ↔ _
    simp only [accepts_append hplain, hrest, and_true, Stands]
    constructor
    · rintro ⟨part, rest, rfl, hfits⟩
      exact ⟨part, List.prefix_append part rest, hfits⟩
    · rintro ⟨part, ⟨rest, rfl⟩, hfits⟩
      exact ⟨part, rest, rfl, hfits⟩
  | finish =>
    change accepts ('%' :: searched term) cs ↔ _
    simp only [accepts_percent, accepts_iff_fits hplain, Stands]
    constructor
    · rintro ⟨before, part, rfl, hfits⟩
      exact ⟨part, List.suffix_append before part, hfits⟩
    · rintro ⟨part, ⟨before, rfl⟩, hfits⟩
      exact ⟨before, part, rfl, hfits⟩
  | anywhere =>
    change accepts ('%' :: (searched term ++ ['%'])) cs ↔ _
    simp only [accepts_percent, accepts_append hplain, hrest, and_true, Stands]
    constructor
    · rintro ⟨before, _, rfl, part, rest, rfl, hfits⟩
      exact ⟨part, ⟨before, rest, List.append_assoc before part rest⟩, hfits⟩
    · rintro ⟨part, ⟨before, rest, rfl⟩, hfits⟩
      exact ⟨before, part ++ rest, List.append_assoc before part rest, part, rest, rfl, hfits⟩

/-- A term without underscores is found where it stands itself. -/
theorem accepts_pattern_of_notMem {term : String} (h : '_' ∉ term.toList) (a : Anchor)
    (cs : List Char) :
    accepts (a.pattern term).toList cs ↔ a.Stands (searched term) cs := by
  have hterm : '_' ∉ searched term := fun hmem => h ((underscore_mem_searched_iff term).mp hmem)
  simp only [accepts_pattern, fits_iff_eq hterm, exists_eq_right']

end Anchor

/-- A search compares its column with one bound pattern. The pattern matches the texts in which,
where the anchor wants it, the term stands without its percent signs and in upper case, with any
characters in the place of underscores; if there are none, the texts in which the term itself
stands there. -/
theorem Condition.accepts_search (language : String) (strict : Bool) (name term : String)
    (anchor : Anchor) (s : Session) :
    ∃ clause pattern,
      ((search name term anchor).resolve language strict).outcome s = .ok (some clause) ∧
      clause.fragment =
        [.text ("UPPER(" ++ s.column language name ++ ") LIKE "), .value (.text pattern)] ∧
      ∀ x : String,
        (Like.accepts pattern.toList x.toList ↔
          ∃ part, anchor.Stands part x.toList ∧ Like.Fits (Anchor.searched term) part) ∧
        ('_' ∉ term.toList →
          (Like.accepts pattern.toList x.toList ↔
            anchor.Stands (Anchor.searched term) x.toList)) := by
  refine ⟨.test (.like (s.column language name) (anchor.pattern term)), anchor.pattern term, ?_,
    Clause.fragment_test _, fun x => ⟨anchor.accepts_pattern term x.toList, fun h => ?_⟩⟩
  · rw [resolve]
    simp only [bind_pure_comp, Compile.outcome_map, Compile.outcome_column]
    rfl
  · exact anchor.accepts_pattern_of_notMem h x.toList

/-- A term with an underscore is also found where another character stands in its place. -/
theorem Condition.not_accepts_iff_stands :
    ¬ ∀ (term : String) (anchor : Anchor) (pattern x : String),
      (search "name" term anchor).bound = [.text pattern] →
        (Like.accepts pattern.toList x.toList ↔ anchor.Stands (Anchor.searched term) x.toList) := by
  intro h
  have hpattern : Anchor.anywhere.pattern "a_b" = "%A_B%" := by decide +kernel
  have hsearched : Anchor.searched "a_b" = ['A', '_', 'B'] := by decide +kernel
  have hsame := h "a_b" .anywhere "%A_B%" "AXB" (by rw [bound, hpattern])
  have hstands := hsame.mp (by decide +kernel)
  rw [hsearched] at hstands
  exact absurd hstands (by decide : ¬ ['A', '_', 'B'] <:+: ['A', 'X', 'B'])

end FilterSql
