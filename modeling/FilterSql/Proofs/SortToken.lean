import FilterSql.Proofs.Column
import FilterSql.Proofs.History
import Mathlib.Data.List.Forall2

/-!
# How sort tokens are read

A sort token is a name with an underscore and a direction after it, or a name alone. Both the name
and the text as a whole can have underscores in them, and a name can end like a direction itself, so
`Reads` says what a token stands for without saying where it is split: a token stands for a name and
a direction if it is the name, an underscore and a spelling of the direction, and for itself,
ascending, if there is no way to write it so.

No direction has an underscore in it (`direction?_eq_none`), so what stands before a direction is
split off at the last underscore (`splitSort_append`), and what is split off can be put back
(`eq_append_of_splitLast?`). So each token stands for one name and one direction, those that
`splitSort` finds (`splitSort_of_reads`, `exists_reads`), and an order is the list of its tokens
read in this way (`sortList_of_reads`).
-/

namespace FilterSql

/-! ## Letters in either case -/

namespace Text

theorem toNat_toUpper (c : Char) :
    c.toUpper.toNat = if 97 ≤ c.toNat ∧ c.toNat ≤ 122 then c.toNat - 32 else c.toNat := by
  unfold Char.toUpper
  simp only [UInt32.le_iff_toNat_le, Char.toNat]
  split
  · rename_i h
    have hsmall : 97 ≤ c.val.toNat ∧ c.val.toNat ≤ 122 := h
    rw [if_pos hsmall, UInt32.toNat_add]
    -- Taking 32 away is adding a number that wraps around.
    show (c.val.toNat + 4294967264) % 2 ^ 32 = c.val.toNat - 32
    omega
  · rename_i h
    exact (if_neg h).symm

/-- A small letter is the small letter of itself and of its capital, and of nothing else. -/
theorem toLower_eq_iff_of_isLower {c letter : Char} (h : letter.isLower) :
    c.toLower = letter ↔ c = letter ∨ c = letter.toUpper := by
  have hcode : (decide (97 ≤ letter.val) && decide (letter.val ≤ 122)) = true := h
  have hsmall : 97 ≤ letter.toNat ∧ letter.toNat ≤ 122 := by
    simpa [UInt32.le_iff_toNat_le] using hcode
  rw [← Char.toNat_inj, ← Char.toNat_inj, ← Char.toNat_inj, toNat_toLower, toNat_toUpper,
    if_pos hsmall]
  split <;> omega

/-- A text becomes a word in small letters if each of its characters is the letter of the word at
its place, small or capital. -/
theorem map_toLower_eq_iff {word : List Char} (h : ∀ letter ∈ word, letter.isLower)
    {cs : List Char} :
    cs.map Char.toLower = word ↔
      List.Forall₂ (fun letter c => c = letter ∨ c = letter.toUpper) word cs := by
  induction word generalizing cs with
  | nil => rw [List.map_eq_nil_iff, List.forall₂_nil_left_iff]
  | cons letter letters ih =>
    obtain ⟨hletter, hletters⟩ := List.forall_mem_cons.mp h
    cases cs with
    | nil => simp
    | cons c cs =>
      rw [List.map_cons, List.cons_eq_cons, toLower_eq_iff_of_isLower hletter, ih hletters,
        List.forall₂_cons]

end Text

namespace Column

open Text

variable {name ending token : String} {descending : Bool}

/-! ## Directions -/

/-- The word of a direction, in small letters. -/
def directionWord (descending : Bool) : List Char :=
  if descending then "desc".toList else "asc".toList

/-- Whether a text is the word of a direction, with each letter small or capital. -/
def Spells (descending : Bool) (cs : List Char) : Prop :=
  List.Forall₂ (fun letter c => c = letter ∨ c = letter.toUpper) (directionWord descending) cs

instance (descending : Bool) (cs : List Char) : Decidable (Spells descending cs) :=
  inferInstanceAs (Decidable (List.Forall₂ _ _ _))

/-- The directions are found in their spellings, and in nothing else. -/
theorem direction?_eq_some_iff {cs : List Char} :
    direction? cs = some descending ↔ Spells descending cs := by
  have hsmall : ∀ letter ∈ directionWord descending, letter.isLower := by
    cases descending <;> exact List.all_eq_true.mp (by decide)
  rw [Spells, ← map_toLower_eq_iff hsmall]
  unfold direction?
  split
  · rename_i h
    rw [h]
    cases descending <;> decide
  · rename_i h
    rw [h]
    cases descending <;> decide
  · rename_i hdesc hasc
    refine iff_of_false (by simp) fun h => ?_
    cases descending with
    | false => exact hasc h
    | true => exact hdesc h

/-- A direction has no underscore and no marker in it. -/
theorem direction?_eq_none {ending : List Char} {c : Char} (hmem : c ∈ ending)
    (hc : c = '_' ∨ c = marker) : direction? ending = none := by
  have hlower : c.toLower ∈ ending.map Char.toLower := List.mem_map_of_mem hmem
  unfold direction?
  split
  · rename_i h
    rw [h] at hlower
    obtain rfl | rfl := hc <;> exact absurd hlower (by decide)
  · rename_i h
    rw [h] at hlower
    obtain rfl | rfl := hc <;> exact absurd hlower (by decide)
  · rfl

/-! ## Where a token is split -/

/-- A text without an underscore is split off after the last one. -/
theorem splitLast?_append (name : List Char) {ending : List Char} (h : '_' ∉ ending) :
    splitLast? (name ++ '_' :: ending) = some (name, ending) := by
  have hother : ∀ c ∈ ending.reverse, decide (c ≠ '_') = true := by
    intro c hc
    rw [decide_eq_true_eq]
    rintro rfl
    exact h (List.mem_reverse.mp hc)
  unfold splitLast?
  rw [List.reverse_append, List.reverse_cons, List.append_assoc, List.singleton_append,
    List.dropWhile_append_of_pos hother, List.takeWhile_append_of_pos hother,
    List.dropWhile_cons_of_neg (by simp), List.takeWhile_cons_of_neg (by simp)]
  simp

/-- A direction is split off whatever is before its underscore. -/
theorem splitSort_append (name : String) (h : direction? ending.toList = some descending) :
    splitSort (name ++ "_" ++ ending).toList = (name.toList, descending) := by
  have hnot : '_' ∉ ending.toList := by
    intro hmem
    rw [direction?_eq_none hmem (.inl rfl)] at h
    cases h
  have hchars : (name ++ "_" ++ ending).toList = name.toList ++ '_' :: ending.toList := by
    rw [String.toList_append, String.toList_append, List.append_assoc]
    rfl
  rw [hchars, splitSort, splitLast?_append name.toList hnot]
  simp only [h]

/-- A token that does not end in an underscore and a direction is left as it is. -/
theorem splitSort_eq_self (h : ∀ (name ending : String) (descending : Bool),
    direction? ending.toList = some descending → token ≠ name ++ "_" ++ ending) :
    splitSort token.toList = (token.toList, false) := by
  unfold splitSort
  split
  · rfl
  · rename_i name ending hsplit
    split
    · rename_i descending hdirection
      have htoken : token = String.ofList name ++ "_" ++ String.ofList ending := by
        rw [← String.toList_inj, eq_append_of_splitLast? hsplit]
        simp
      exact absurd htoken (h _ _ descending (by rwa [String.toList_ofList]))
    · rfl

/-! ## Readings -/

/-- What a sort token stands for: a name, and whether it is descending. -/
inductive Reads : String → String × Bool → Prop where
  | directed {name ending : String} {descending : Bool} (spells : Spells descending ending.toList) :
      Reads (name ++ "_" ++ ending) (name, descending)
  | plain {token : String} (undirected : ∀ (name ending : String) (descending : Bool),
      Spells descending ending.toList → token ≠ name ++ "_" ++ ending) : Reads token (token, false)

variable {language : String} {reading : String × Bool}

/-- Every token stands for something. -/
theorem exists_reads (token : String) : ∃ reading, Reads token reading := by
  by_cases h : ∃ (name ending : String) (descending : Bool),
      Spells descending ending.toList ∧ token = name ++ "_" ++ ending
  · obtain ⟨name, ending, descending, hspells, rfl⟩ := h
    exact ⟨_, .directed hspells⟩
  · refine ⟨_, .plain fun name ending descending hspells htoken => h ?_⟩
    exact ⟨name, ending, descending, hspells, htoken⟩

/-- Splitting a token finds what it stands for. -/
theorem splitSort_of_reads (h : Reads token reading) :
    splitSort token.toList = (reading.1.toList, reading.2) := by
  cases h with
  | directed spells => exact splitSort_append _ (direction?_eq_some_iff.mpr spells)
  | plain undirected =>
    refine splitSort_eq_self fun name ending descending hdirection => ?_
    exact undirected name ending descending (direction?_eq_some_iff.mp hdirection)

/-- No token can be read in two ways. -/
theorem existsUnique_reads (token : String) : ∃! reading, Reads token reading := by
  obtain ⟨reading, hreads⟩ := exists_reads token
  refine ⟨reading, hreads, fun other hother => ?_⟩
  have hsame := (splitSort_of_reads hother).symm.trans (splitSort_of_reads hreads)
  rw [Prod.mk.injEq, String.toList_inj] at hsame
  exact Prod.ext hsame.1 hsame.2

/-- The SQL of what a sort token stands for. -/
def sqlOfReading (language : String) (reading : String × Bool) : String :=
  resolve language reading.1 ++ if reading.2 then " DESC" else " ASC"

theorem sortKey_of_reads (h : Reads token reading) :
    sortKey language token = sqlOfReading language reading := by
  unfold sortKey sqlOfReading
  rw [splitSort_of_reads h]
  simp only [String.ofList_toList]

theorem sortList_of_reads {tokens : List String} {readings : List (String × Bool)}
    (h : List.Forall₂ Reads tokens readings) :
    sortList language tokens =
      String.intercalate "," (readings.map (sqlOfReading language)) := by
  have hmap : tokens.map (sortKey language) = readings.map (sqlOfReading language) := by
    induction h with
    | nil => rfl
    | cons hreads _ ih => rw [List.map_cons, List.map_cons, sortKey_of_reads hreads, ih]
  rw [sortList, hmap]

theorem exists_readings (tokens : List String) :
    ∃ readings, List.Forall₂ Reads tokens readings := by
  induction tokens with
  | nil => exact ⟨[], .nil⟩
  | cons token tokens ih =>
    obtain ⟨reading, hreads⟩ := exists_reads token
    obtain ⟨readings, hrest⟩ := ih
    exact ⟨reading :: readings, .cons hreads hrest⟩

/-- An order that is looked up is its own SQL after any history of calls, unless another order of
the history has its key. -/
theorem outcome_sortList_session (settings : Settings) {history : List Call} {tokens : List String}
    (h : ∀ l ∈ history.flatMap Call.lists,
      l.key = (NameList.order language tokens).key → l = .order language tokens) :
    (Compile.sortList language tokens).outcome (settings.session history) =
      .ok (sortList language tokens) := by
  have hfaithful := settings.faithful_session history
  have hkept := Session.kept_of_faithful hfaithful (l := .order language tokens)
    fun l hl hkey => (h l hl hkey.symm).symm
  rw [Compile.outcome_sortList]
  exact congrArg Except.ok hkept

/-- A direction in any case after an underscore is split off the name before it, whatever the name
is, and a token without one is a name as a whole, in ascending order; every token is of one of the
two kinds and can be read in one way. An order is, token by token, the columns of the names with
their directions and commas between them; and it is looked up as such unless another order with its
key was looked up before. -/
theorem sortList_of_readings :
    (∀ (name ending : String) (descending : Bool), Spells descending ending.toList →
      splitSort (name ++ "_" ++ ending).toList = (name.toList, descending)) ∧
    (∀ token : String, (∀ (name ending : String) (descending : Bool),
        Spells descending ending.toList → token ≠ name ++ "_" ++ ending) →
      splitSort token.toList = (token.toList, false)) ∧
    (∀ token : String, ∃! reading, Reads token reading) ∧
    ∀ (language : String) (tokens : List String), ∃ readings,
      List.Forall₂ Reads tokens readings ∧
      sortList language tokens = String.intercalate "," (readings.map fun (name, descending) =>
        resolve language name ++ if descending then " DESC" else " ASC") ∧
      ∀ (settings : Settings) (history : List Call),
        (∀ l ∈ history.flatMap Call.lists,
          l.key = (NameList.order language tokens).key → l = .order language tokens) →
        (Compile.sortList language tokens).outcome (settings.session history) =
          .ok (sortList language tokens) := by
  refine ⟨fun name ending descending hspells => splitSort_of_reads (.directed hspells),
    fun token hundirected => splitSort_of_reads (.plain hundirected), existsUnique_reads,
    fun language tokens => ?_⟩
  obtain ⟨readings, hreads⟩ := exists_readings tokens
  exact ⟨readings, hreads, sortList_of_reads hreads, fun settings _ h =>
    outcome_sortList_session settings h⟩

/-- A name that ends like a direction, one without a direction, and a marked one. -/
private def sampleTokens : List String :=
  ["a_desc_Asc", "created_at", "title§_DESC"]

/-- A call that looks up an order of the same tokens, two of them taken as one with a comma. -/
private def sampleOrder : Call :=
  .compile
    { table := "t"
      exec := .list
      sort := some ["a_desc_Asc,created_at", "title§_DESC"]
      language := some "en" }

/-- Only the last direction of a token is split off, and what only looks like one stays. -/
theorem sortList_of_readings_directions :
    Spells false "Asc".toList ∧
    splitSort "a_desc_Asc".toList = ("a_desc".toList, false) ∧
    splitSort "created_at".toList = ("created_at".toList, false) ∧
    sortList "en" sampleTokens = "\"a_desc\" ASC,\"created_at\" ASC,\"title_en\" DESC" ∧
    (Compile.sortList "en" sampleTokens).outcome (Settings.session {} [sampleOrder]) =
      .ok (sortList "en" sampleTokens) := by
  obtain ⟨hdirected, hplain, -, horder⟩ := sortList_of_readings
  have hspells : Spells false "Asc".toList := by decide
  refine ⟨hspells, hdirected "a_desc" "Asc" false hspells, hplain "created_at" ?_, ?_, ?_⟩
  · -- Before a direction there would be less than the whole token, which is what is split off.
    intro name ending descending h htoken
    have hwhole : splitSort "created_at".toList = ("created_at".toList, false) := by decide
    have hsplit := hdirected name ending descending h
    rw [← htoken, hwhole, Prod.mk.injEq, String.toList_inj] at hsplit
    rw [← hsplit.1] at htoken
    have hlength := congrArg String.length htoken
    have hunderscore : "_".length = 1 := by decide
    rw [String.length_append, String.length_append] at hlength
    omega
  · decide +kernel
  · obtain ⟨-, -, -, hlookup⟩ := horder "en" sampleTokens
    exact hlookup {} [sampleOrder] (by decide)

end Column

end FilterSql
