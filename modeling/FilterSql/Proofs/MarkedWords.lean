import FilterSql.Proofs.Localized
import Mathlib.Data.List.Chain

/-!
# Marked words in a text

A marked word is a run of word characters with the marker after it, as long as it can be.
`Column.Rewrites` says which text comes of replacing the marked words of another, without saying how
they are found, and localizing a text is the one way to do it (`Column.rewrites_iff`).

A language is written inside the quotes of a column. `Text.skeleton?` reads a text with quoted
identifiers and leaves of these only where they stand. Two languages are read in step: whatever is
before a column, the reading of it ends after a quote in both, and what follows is the same text
(`Column.exists_skeleton`).
-/

namespace FilterSql

namespace Text

/-! ## Text outside quoted identifiers -/

/-- Where the reading of a text with quoted identifiers stands. -/
inductive Side where
  | outside
  | inside
  /-- After a quote inside an identifier, which ends it unless another quote follows. -/
  | closing

/-- The rest of a text outside its quoted identifiers, with a gap where each of them starts. There
is none if the text ends inside one. -/
def skeletonFrom : Side → List Char → Option (List (Option Char))
  | .outside, [] => some []
  | .inside, [] => none
  | .closing, [] => some []
  | .outside, c :: cs =>
    if c = '"' then (skeletonFrom .inside cs).map (none :: ·)
    else (skeletonFrom .outside cs).map (some c :: ·)
  | .inside, c :: cs => if c = '"' then skeletonFrom .closing cs else skeletonFrom .inside cs
  | .closing, c :: cs =>
    if c = '"' then skeletonFrom .inside cs else (skeletonFrom .outside cs).map (some c :: ·)

/-- A text outside its quoted identifiers, with a gap for each of them, if it does not end inside
one. -/
def skeleton? (cs : List Char) : Option (List (Option Char)) :=
  skeletonFrom .outside cs

/-- The gap that an identifier leaves. An identifier right after another goes on in the gap of it,
as its first quote and the last one before it are read as a quote of the name. -/
def Side.gap : Side → List (Option Char)
  | outside => [none]
  | inside | closing => []

/-- Text without quotes is left as it is. -/
theorem skeletonFrom_append {side : Side} (hside : side ≠ .inside) {t : List Char} (hne : t ≠ [])
    (hquote : '"' ∉ t) (rest : List Char) :
    skeletonFrom side (t ++ rest) = (skeletonFrom .outside rest).map (t.map some ++ ·) := by
  induction t generalizing side with
  | nil => exact absurd rfl hne
  | cons c cs ih =>
    obtain ⟨hc, hcs⟩ := not_or.mp (List.mem_cons.not.mp hquote)
    have hcons : skeletonFrom side (c :: (cs ++ rest)) =
        (skeletonFrom .outside (cs ++ rest)).map (some c :: ·) := by
      cases side with
      | inside => exact absurd rfl hside
      | outside | closing => rw [skeletonFrom, if_neg (Ne.symm hc)]
    rw [List.cons_append, hcons]
    cases cs with
    | nil => rfl
    | cons d ds =>
      rw [ih (by simp) (by simp) hcs, Option.map_map]
      rfl

/-- From inside an identifier the rest of its name is read to the quote after it. -/
theorem skeletonFrom_double (cs rest : List Char) :
    skeletonFrom .inside (double '"' cs ++ '"' :: rest) = skeletonFrom .closing rest := by
  induction cs with
  | nil => rw [double, List.nil_append, skeletonFrom, if_pos rfl]
  | cons c cs ih =>
    rw [double]
    by_cases hc : c = '"'
    · rw [if_pos hc, List.cons_append, List.cons_append, skeletonFrom, if_pos rfl, skeletonFrom,
        if_pos rfl, ih]
    · rw [if_neg hc, List.cons_append, skeletonFrom, if_neg hc, ih]

/-- A quoted identifier leaves a gap. -/
theorem skeletonFrom_enclose {side : Side} (hside : side ≠ .inside) (cs rest : List Char) :
    skeletonFrom side (enclose '"' cs ++ rest) =
      (skeletonFrom .closing rest).map (side.gap ++ ·) := by
  rw [enclose, List.cons_append, List.append_assoc, List.singleton_append]
  cases side with
  | inside => exact absurd rfl hside
  | outside =>
    rw [skeletonFrom, if_pos rfl, skeletonFrom_double]
    rfl
  | closing =>
    rw [skeletonFrom, if_pos rfl, skeletonFrom_double]
    exact Option.map_id'.symm

/-- A quote in a name is no end of it, and two identifiers without anything between them are one. -/
example :
    skeleton? "p.\"a\"\"b\",c".toList = some [some 'p', some '.', none, some ',', some 'c'] :=
  rfl

end Text

namespace Column

open Text

/-! ## Replacing marked words -/

/-- Whether no word character of a text has the marker after it. -/
def Unmarked (cs : List Char) : Prop :=
  cs.IsChain fun a b => isWord a → b ≠ marker

/-- Whether a text ends outside a word. -/
def EndsApart (cs : List Char) : Prop :=
  ∀ c ∈ cs.getLast?, isWord c = false

/-- What comes of a text by replacing its marked words: all words of word characters that cannot be
made longer at the front and have the marker after them. Everything else stays, markers without a
word among it. -/
inductive Rewrites (replacement : List Char → List Char) : List Char → List Char → Prop where
  | verbatim {t : List Char} (unmarked : Unmarked t) : Rewrites replacement t t
  | word {t w rest rest' : List Char} (unmarked : Unmarked t) (apart : EndsApart t)
      (nonempty : w ≠ []) (letters : ∀ c ∈ w, isWord c)
      (after : Rewrites replacement rest rest') :
      Rewrites replacement (t ++ w ++ marker :: rest) (t ++ replacement w ++ rest')

/-- The column that a marked word is replaced by. Under `named` a column of some language is given
back the word as its name. -/
def columnOf (language : String) (named : Bool) (word : String) : String :=
  physical language word ++
    if named ∧ language ≠ "" then " AS " ++ quoteIdentifier word else ""

theorem toList_columnOf (language : String) (named : Bool) (word : List Char) :
    (columnOf language named (String.ofList word)).toList =
      localized language.toList named word := by
  rw [columnOf, String.toList_append, toList_physical, localized, String.toList_ofList]
  by_cases hlanguage : language = ""
  · simp [hlanguage]
  · cases named <;> simp [hlanguage, quoteIdentifier]

theorem isWord_marker : isWord marker = false := by decide

theorem letters_nil : ∀ c ∈ ([] : List Char), isWord c := by simp

/-- A word has no marker in it. -/
theorem unmarked_of_word {w : List Char} (h : ∀ c ∈ w, isWord c) : Unmarked w := by
  induction w with
  | nil => exact .nil
  | cons c cs ih =>
    obtain ⟨-, hcs⟩ := List.forall_mem_cons.mp h
    cases cs with
    | nil => exact .singleton c
    | cons d ds =>
      refine List.isChain_cons_cons.mpr ⟨fun _ hd => ?_, ih hcs⟩
      have hletter := hcs d List.mem_cons_self
      rw [hd, isWord_marker] at hletter
      cases hletter

/-- A word that ends outside a word is empty. -/
theorem eq_nil_of_endsApart {w : List Char} (h : ∀ c ∈ w, isWord c) (hapart : EndsApart w) :
    w = [] := by
  refine List.getLast?_eq_none_iff.mp (Option.eq_none_iff_forall_not_mem.mpr fun c hc => ?_)
  have hletter := h c (List.mem_of_mem_getLast? hc)
  rw [hapart c hc] at hletter
  cases hletter

/-- Text that ends outside a word can be put in front. -/
theorem Rewrites.append_left {replacement : List Char → List Char} {t s s' : List Char}
    (h : Rewrites replacement s s') (hmark : Unmarked t) (hapart : EndsApart t) :
    Rewrites replacement (t ++ s) (t ++ s') := by
  have hchain : ∀ u, Unmarked u → Unmarked (t ++ u) := by
    intro u hu
    refine List.isChain_append.mpr ⟨hmark, hu, fun c hc d _ hword => ?_⟩
    rw [hapart c hc] at hword
    cases hword
  cases h with
  | verbatim unmarked => exact .verbatim (hchain s unmarked)
  | @word u w rest rest' unmarked apart nonempty letters after =>
    have happend : EndsApart (t ++ u) := by
      intro c hc
      rw [List.getLast?_append] at hc
      cases hlast : u.getLast? with
      | none => exact hapart c (by simpa [hlast] using hc)
      | some d =>
        obtain rfl : d = c := by simpa [hlast] using hc
        exact apart d hlast
    simpa [List.append_assoc] using
      Rewrites.word (hchain u unmarked) happend nonempty letters after

section Localize

variable (language : List Char) (named : Bool)

/-- Text without marked words is written as it is, if it is not cut off inside a word. -/
theorem replaceMarked_append {word t rest : List Char} (hword : ∀ c ∈ word, isWord c)
    (hmark : Unmarked (word ++ t)) (hend : rest = [] ∨ EndsApart (word ++ t)) :
    replaceMarked language named word (t ++ rest) =
      word ++ t ++ replaceMarked language named [] rest := by
  induction t generalizing word with
  | nil =>
    rcases hend with rfl | hapart
    · simp [replaceMarked]
    · obtain rfl := eq_nil_of_endsApart hword (List.append_nil word ▸ hapart)
      rfl
  | cons c cs ih =>
    rw [List.cons_append, replaceMarked]
    have hshift : word ++ c :: cs = (word ++ [c]) ++ cs := by simp
    by_cases hc : isWord c
    · rw [if_pos hc, hshift]
      rw [hshift] at hmark hend
      refine ih (fun d hd => ?_) hmark hend
      rcases List.mem_append.mp hd with hd | hd
      · exact hword d hd
      · exact List.mem_singleton.mp hd ▸ hc
    · -- A marker here has no word before it, for the text has no marked word.
      have hplain : ¬ (c = marker ∧ word ≠ []) := by
        rintro ⟨rfl, hne⟩
        obtain ⟨before, d, rfl⟩ := List.eq_nil_or_concat word |>.resolve_left hne
        have hcross := (List.isChain_append.mp hmark).2.2 d (by simp) marker (by simp)
        exact hcross (hword d (by simp)) rfl
      have hrest : Unmarked cs :=
        (List.isChain_append.mp (hshift ▸ hmark)).2.1
      have hrestEnd : rest = [] ∨ EndsApart ([] ++ cs) := by
        refine hend.imp_right fun hapart d hd => hapart d ?_
        rw [List.nil_append] at hd
        rw [hshift, List.getLast?_append, hd]
        rfl
      rw [if_neg hc, if_neg hplain, ih letters_nil hrest hrestEnd]
      simp

/-- Localizing a text replaces its marked words, after a word that has been read. -/
theorem rewrites_replaceMarked {word : List Char} (hword : ∀ c ∈ word, isWord c) (cs : List Char) :
    Rewrites (localized language named) (word ++ cs) (replaceMarked language named word cs) := by
  induction cs generalizing word with
  | nil =>
    rw [List.append_nil, replaceMarked]
    exact .verbatim (unmarked_of_word hword)
  | cons c cs ih =>
    rw [replaceMarked]
    by_cases hc : isWord c
    · rw [if_pos hc]
      have hlonger : ∀ d ∈ word ++ [c], isWord d := by
        simpa [or_imp, forall_and] using ⟨hword, hc⟩
      simpa using ih hlonger
    · rw [if_neg hc]
      have hrest : Rewrites (localized language named) cs (replaceMarked language named [] cs) :=
        ih letters_nil
      by_cases hmarked : c = marker ∧ word ≠ []
      · -- The word that has been read is the marked one, with nothing before it.
        obtain ⟨rfl, hne⟩ := hmarked
        rw [if_pos ⟨rfl, hne⟩]
        have hnil : EndsApart [] := by simp [EndsApart]
        exact .word .nil hnil hne hword hrest
      · -- The word and what ends it are put in front of the rest, whose first word they leave.
        rw [if_neg hmarked]
        have hapart : EndsApart (word ++ [c]) := by
          simpa [EndsApart] using hc
        have hunmarked : Unmarked (word ++ [c]) := by
          have hunmarked := unmarked_of_word hword
          refine List.isChain_append.mpr ⟨hunmarked, .singleton c, fun d hd e he _ => ?_⟩
          obtain rfl : c = e := by simpa using he
          rintro rfl
          exact hmarked ⟨rfl, List.ne_nil_of_mem (List.mem_of_mem_getLast? hd)⟩
        simpa using hrest.append_left hunmarked hapart

/-- The text that comes of replacing the marked words of another is the localized text. -/
theorem eq_replaceMarked_of_rewrites {s s' : List Char}
    (h : Rewrites (localized language named) s s') : s' = replaceMarked language named [] s := by
  induction h with
  | @verbatim t unmarked =>
    have htext := replaceMarked_append language named letters_nil unmarked (.inl rfl)
    simpa [replaceMarked] using htext.symm
  | @word t w rest rest' unmarked apart nonempty letters after ih =>
    have htext := fun after => @replaceMarked_append language named [] t after letters_nil unmarked
      (.inr apart)
    rw [List.append_assoc t w, htext, replaceMarked_word language named letters, List.nil_append,
      List.nil_append, replaceMarked, if_neg (by simp [isWord_marker]), if_pos ⟨rfl, nonempty⟩, ih,
      List.append_assoc]

end Localize

/-- A text is localized exactly by replacing its marked words by their columns. -/
theorem rewrites_iff (language : String) (named : Bool) (s s' : String) :
    Rewrites (fun w => (columnOf language named (String.ofList w)).toList) s.toList s'.toList ↔
      s' = localize language named s := by
  simp only [toList_columnOf]
  rw [localize, ← String.toList_inj, String.toList_ofList]
  constructor
  · exact eq_replaceMarked_of_rewrites language.toList named
  · rintro h
    rw [h]
    exact rewrites_replaceMarked language.toList named letters_nil s.toList

/-! ## Languages stay inside quotes -/

/-- A column of some language leaves the same gap whatever the language is. -/
theorem skeletonFrom_localized {language : List Char} (hlanguage : language ≠ []) (named : Bool)
    {side : Side} (hside : side ≠ .inside) (word rest : List Char) :
    skeletonFrom side (localized language named word ++ rest) =
      (skeletonFrom .closing rest).map
        (side.gap ++ (if named then [' ', 'A', 'S', ' '].map some ++ [none] else []) ++ ·) := by
  have hclosing : Side.closing ≠ .inside := by simp
  have houtside : Side.outside ≠ .inside := by simp
  rw [localized, List.append_assoc, skeletonFrom_enclose hside]
  cases named with
  | false => simp
  | true =>
    have hnonempty : language.isEmpty = false := by simpa using hlanguage
    rw [hnonempty, Bool.not_false, Bool.and_self, if_pos rfl, List.append_assoc,
      skeletonFrom_append hclosing (by simp) (by decide), skeletonFrom_enclose houtside,
      Option.map_map, Option.map_map]
    congr 1
    funext sk
    simp [Side.gap]

/-- Replacing the marked words of a text without quotes gives texts that are the same outside quotes
in any two languages, and that end outside quotes. -/
theorem exists_skeleton {language language' : List Char} (hlanguage : language ≠ [])
    (hlanguage' : language' ≠ []) (named : Bool) {side : Side} (hside : side ≠ .inside)
    {word cs : List Char} (hword : '"' ∉ word) (hcs : '"' ∉ cs) :
    ∃ sk, skeletonFrom side (replaceMarked language named word cs) = some sk ∧
      skeletonFrom side (replaceMarked language' named word cs) = some sk := by
  have hclosing : Side.closing ≠ .inside := by simp
  have houtside : Side.outside ≠ .inside := by simp
  have hempty : '"' ∉ ([] : List Char) := by simp
  induction cs generalizing side word with
  | nil =>
    cases word with
    | nil =>
      cases side with
      | inside => exact absurd rfl hside
      | outside | closing => exact ⟨[], rfl, rfl⟩
    | cons w ws =>
      have htext := skeletonFrom_append hside (List.cons_ne_nil w ws) hword []
      rw [List.append_nil] at htext
      exact ⟨_, htext, htext⟩
  | cons c cs ih =>
    obtain ⟨hc, hcs⟩ := not_or.mp (List.mem_cons.not.mp hcs)
    rw [replaceMarked, replaceMarked]
    by_cases hletter : isWord c
    · rw [if_pos hletter, if_pos hletter]
      exact ih hside (by simpa using ⟨hword, hc⟩) hcs
    · rw [if_neg hletter, if_neg hletter]
      by_cases hmarked : c = marker ∧ word ≠ []
      · -- Both texts go on after the quote that closes the column.
        obtain ⟨sk, hsk, hsk'⟩ := ih hclosing hempty hcs
        rw [if_pos hmarked, if_pos hmarked, skeletonFrom_localized hlanguage named hside,
          skeletonFrom_localized hlanguage' named hside, hsk, hsk']
        exact ⟨_, rfl, rfl⟩
      · obtain ⟨sk, hsk, hsk'⟩ := ih houtside hempty hcs
        have hplain : '"' ∉ word ++ [c] := by simpa using ⟨hword, hc⟩
        have htext : ∀ rest, skeletonFrom side (word ++ c :: rest) =
            (skeletonFrom .outside rest).map ((word ++ [c]).map some ++ ·) := by
          intro rest
          rw [← skeletonFrom_append hside (by simp) hplain, List.append_assoc,
            List.singleton_append]
        rw [if_neg hmarked, if_neg hmarked, htext, htext, hsk, hsk']
        exact ⟨_, rfl, rfl⟩

/-- The SQL of a name without quotes is the same outside quotes in any two languages, and ends
outside quotes. -/
theorem exists_skeleton_sqlOf {name language language' : String} (hname : '"' ∉ name.toList)
    (hlanguage : language ≠ "") (hlanguage' : language' ≠ "") (named : Bool) :
    ∃ sk, skeleton? (sqlOf named language name).toList = some sk ∧
      skeleton? (sqlOf named language' name).toList = some sk := by
  have houtside : Side.outside ≠ .inside := by simp
  unfold sqlOf skeleton?
  split
  · rw [localize, localize, String.toList_ofList, String.toList_ofList]
    exact exists_skeleton (by simpa using hlanguage) (by simpa using hlanguage') named houtside
      (by simp) hname
  · -- Where nothing is marked the language is not written.
    split
    · rename_i hexpression
      have hne : name.toList ≠ [] := by
        intro hnil
        rw [isExpression, hnil] at hexpression
        cases hexpression
      have htext := skeletonFrom_append houtside hne hname []
      rw [List.append_nil] at htext
      exact ⟨_, htext, htext⟩
    · have hquoted := skeletonFrom_enclose houtside name.toList []
      rw [List.append_nil] at hquoted
      rw [quoteIdentifier, String.toList_ofList]
      exact ⟨_, hquoted, hquoted⟩

/-- Localizing a text is replacing its marked words by their columns, and nothing else. The SQL of a
name without quotes, also in a select list, is the same outside quotes in any two languages, and
ends outside quotes. -/
theorem localize_marked_words :
    (∀ (language : String) (named : Bool) (s s' : String),
      Rewrites (fun w => (columnOf language named (String.ofList w)).toList) s.toList s'.toList ↔
        s' = localize language named s) ∧
    ∀ name language language' : String, '"' ∉ name.toList → language ≠ "" → language' ≠ "" →
      (∃ sk, skeleton? (resolve language name).toList = some sk ∧
        skeleton? (resolve language' name).toList = some sk) ∧
      ∃ sk, skeleton? (field language name).toList = some sk ∧
        skeleton? (field language' name).toList = some sk :=
  ⟨rewrites_iff, fun _ _ _ hname hlanguage hlanguage' =>
    ⟨exists_skeleton_sqlOf hname hlanguage hlanguage' false,
      exists_skeleton_sqlOf hname hlanguage hlanguage' true⟩⟩

/-- A language with a quote in it is still inside the quotes of a column. -/
theorem localize_marked_words_quote :
    localize "d\" OR \"e" false "p.title§" = "p.\"title_d\"\" OR \"\"e\"" ∧
      ∃ sk, skeleton? (resolve "en" "p.title§").toList = some sk ∧
        skeleton? (resolve "d\" OR \"e" "p.title§").toList = some sk := by
  have hfields := localize_marked_words.2 "p.title§" "en" "d\" OR \"e" (by decide) (by decide)
    (by decide)
  exact ⟨by decide +kernel, hfields.1⟩

end Column

end FilterSql
