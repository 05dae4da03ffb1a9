import FilterSql.Proofs.Places
import FilterSql.Text.Word
import Mathlib.Data.List.DropRight
import Mathlib.Data.List.TakeWhile

/-!
# The words of a template without a clause

Without a clause a place is taken out of its template together with the blanks before it, and the
blanks after it come down to one. The blanks before it are put back as one only where there are
blanks after it too. So the words on both sides of a place are put together where the one after it
starts right behind the token, whatever blanks stand before the token (`joint`), and nowhere else:
the words of the result are those of the template with a blank for each token, with as many pairs of
neighbours put together as there are such places (`joins_fill`).

The words of a text are those of the texts on both sides of a character that is not in a word
(`words_append_cons`). All else about words follows from this.
-/

namespace FilterSql

namespace Text

/-! ## Words -/

/-- The words of a text: what is left of it between the characters that are in no word. -/
def words (cs : List Char) : List (List Char) :=
  (cs.splitOnP (!isWord ·)).filter (· ≠ [])

/-- Whether a text starts with a character of a word. -/
def startsInWord (cs : List Char) : Bool :=
  cs.head?.any isWord

/-- Whether a text ends in a character of a word. -/
def endsInWord (cs : List Char) : Bool :=
  cs.getLast?.any isWord

theorem words_nil : words [] = [] := by
  simp [words]

/-- A character that is in no word parts the words of a text. -/
theorem words_append_cons {c : Char} (hc : isWord c = false) (x y : List Char) :
    words (x ++ c :: y) = words x ++ words y := by
  unfold words
  rw [List.splitOnP_append_cons x y (by simp [hc]), List.filter_append]

theorem words_cons {c : Char} (hc : isWord c = false) (y : List Char) :
    words (c :: y) = words y := by
  rw [← List.nil_append (c :: y), words_append_cons hc, words_nil, List.nil_append]

/-- A text of word characters is one word. -/
theorem words_of_forall {w : List Char} (hne : w ≠ []) (h : ∀ c ∈ w, isWord c) :
    words w = [w] := by
  unfold words
  rw [List.splitOnP_eq_singleton fun c hc => by simp [h c hc]]
  simp [hne]

/-- Two texts have the words of both where no word goes from the one to the other. -/
theorem words_append {x y : List Char} (h : ¬ (endsInWord x ∧ startsInWord y)) :
    words (x ++ y) = words x ++ words y := by
  by_cases hy : startsInWord y
  · have hx : endsInWord x = false := by simpa [hy] using h
    rcases List.eq_nil_or_concat x with rfl | ⟨before, c, rfl⟩
    · rw [words_nil, List.nil_append, List.nil_append]
    · have hc : isWord c = false := by simpa [endsInWord] using hx
      rw [List.concat_eq_append, List.append_assoc, List.singleton_append, words_append_cons hc,
        words_append_cons hc, words_nil, List.append_nil]
  · cases y with
    | nil => rw [words_nil, List.append_nil, List.append_nil]
    | cons c y =>
      have hc : isWord c = false := by simpa [startsInWord] using hy
      rw [words_append_cons hc, words_cons hc]

/-- A blank is in no word. -/
theorem isWord_of_isBlank {c : Char} (h : isBlank c) : isWord c = false := by
  let blanks := List.range' 9 5 ++ List.range' 0x2000 11 ++
    [0x20, 0x85, 0xA0, 0x1680, 0x2028, 0x2029, 0x202F, 0x205F, 0x3000]
  have hblanks : ∀ n ∈ blanks, isWord (Char.ofNat n) = false := by decide +kernel
  have hmem : c.toNat ∈ blanks := by
    simp only [isBlank, Bool.or_eq_true, Bool.and_eq_true, decide_eq_true_eq, beq_iff_eq] at h
    simp only [blanks, List.mem_append, List.mem_range'_1, List.mem_cons, List.not_mem_nil]
    omega
  have hc := hblanks _ hmem
  rwa [Char.ofNat_toNat] at hc

section Blanks

variable {bs : List Char}

theorem words_of_blanks (h : ∀ c ∈ bs, isBlank c) : words bs = [] := by
  induction bs with
  | nil => exact words_nil
  | cons c bs ih =>
    obtain ⟨hc, hbs⟩ := List.forall_mem_cons.mp h
    rw [words_cons (isWord_of_isBlank hc), ih hbs]

/-- Blanks are in no word. -/
theorem endsInWord_of_blanks (h : ∀ c ∈ bs, isBlank c) : endsInWord bs = false := by
  cases hlast : bs.getLast? with
  | none => simp [endsInWord, hlast]
  | some c => simp [endsInWord, hlast, isWord_of_isBlank (h c (List.mem_of_getLast? hlast))]

theorem startsInWord_of_blanks (h : ∀ c ∈ bs, isBlank c) : startsInWord bs = false := by
  cases hfirst : bs.head? with
  | none => simp [startsInWord, hfirst]
  | some c => simp [startsInWord, hfirst, isWord_of_isBlank (h c (List.mem_of_head? hfirst))]

theorem words_trimEnd (cs : List Char) : words (trimEnd cs) = words cs := by
  have hblanks : ∀ c ∈ cs.rtakeWhile isBlank, isBlank c := fun c hc => List.mem_rtakeWhile_imp hc
  have hwords := words_append (x := trimEnd cs) (y := cs.rtakeWhile isBlank)
    (by simp [startsInWord_of_blanks hblanks])
  have hsplit : trimEnd cs ++ cs.rtakeWhile isBlank = cs := List.rdropWhile_append_rtakeWhile ..
  rw [hsplit, words_of_blanks hblanks, List.append_nil] at hwords
  exact hwords.symm

theorem words_trimStart_append (t y : List Char) : words (trimStart t ++ y) = words (t ++ y) := by
  have hblanks : ∀ c ∈ t.takeWhile isBlank, isBlank c := fun c hc => List.mem_takeWhile_imp hc
  have hwords := words_append (x := t.takeWhile isBlank) (y := trimStart t ++ y)
    (by simp [endsInWord_of_blanks hblanks])
  rw [← List.append_assoc, trimStart, List.takeWhile_append_dropWhile, words_of_blanks hblanks,
    List.nil_append] at hwords
  exact hwords.symm

end Blanks

/-! ## Neighbours -/

/-- Whether words are those of a list with a number of pairs of neighbours put together. -/
inductive Joins : Nat → List (List Char) → List (List Char) → Prop
  | refl (ws : List (List Char)) : Joins 0 ws ws
  | step {k : Nat} {ws before after : List (List Char)} {u v : List Char}
    (h : Joins k ws (before ++ (u ++ v) :: after)) : Joins (k + 1) ws (before ++ u :: v :: after)

namespace Joins

variable {j k : Nat} {us ws ws' : List (List Char)}

theorem trans (h : Joins j us ws) (h' : Joins k ws ws') : Joins (j + k) us ws' := by
  induction h' with
  | refl => exact h
  | step _ ih => exact step (ih h)

/-- Each pair that is put together is one word less. -/
theorem length_eq (h : Joins k ws ws') : ws.length + k = ws'.length := by
  induction h with
  | refl => rfl
  | step _ ih => simp at ih ⊢; omega

theorem eq_iff (h : Joins k ws ws') : ws = ws' ↔ k = 0 := by
  constructor
  · rintro rfl
    have := h.length_eq
    omega
  · rintro rfl
    cases h
    rfl

end Joins

/-- A text that ends in a word is a text before the word, and the word. -/
theorem exists_of_endsInWord {x : List Char} (h : endsInWord x) :
    ∃ before w, x = before ++ w ∧ w ≠ [] ∧ (∀ c ∈ w, isWord c) ∧ endsInWord before = false := by
  refine ⟨x.rdropWhile isWord, x.rtakeWhile isWord, (List.rdropWhile_append_rtakeWhile ..).symm, ?_,
    fun c => List.mem_rtakeWhile_imp, ?_⟩
  · intro hnil
    rcases List.eq_nil_or_concat x with rfl | ⟨before, c, rfl⟩
    · cases h
    · have hc : isWord c := by simpa [endsInWord] using h
      rw [List.concat_eq_append, List.rtakeWhile_concat_pos _ _ _ hc] at hnil
      simp at hnil
  · by_cases hnil : x.rdropWhile isWord = []
    · rw [hnil]
      rfl
    · have hlast := List.rdropWhile_last_not isWord x hnil
      simpa [endsInWord, List.getLast?_eq_some_getLast hnil] using hlast

/-- A text that starts in a word is the word, and a text after it. -/
theorem exists_of_startsInWord {y : List Char} (h : startsInWord y) :
    ∃ w after, y = w ++ after ∧ w ≠ [] ∧ (∀ c ∈ w, isWord c) ∧ startsInWord after = false := by
  cases y with
  | nil => cases h
  | cons c y =>
    have hc : isWord c := by simpa [startsInWord] using h
    refine ⟨(c :: y).takeWhile isWord, (c :: y).dropWhile isWord,
      List.takeWhile_append_dropWhile.symm, ?_, fun x => List.mem_takeWhile_imp, ?_⟩
    · rw [List.takeWhile_cons_of_pos hc]
      exact List.cons_ne_nil _ _
    · have hnot := List.head?_dropWhile_not isWord (c :: y)
      unfold startsInWord
      cases hhead : ((c :: y).dropWhile isWord).head? with
      | none => rfl
      | some x => simpa [hhead] using hnot

/-- A word at the end of a text and one at the start of the next are put together. -/
theorem joins_append {x y : List Char} (hx : endsInWord x) (hy : startsInWord y) :
    Joins 1 (words (x ++ y)) (words x ++ words y) := by
  obtain ⟨before, u, rfl, hu, huword, hbefore⟩ := exists_of_endsInWord hx
  obtain ⟨v, after, rfl, hv, hvword, hafter⟩ := exists_of_startsInWord hy
  have huv : ∀ c ∈ u ++ v, isWord c := fun c hc =>
    (List.mem_append.mp hc).elim (huword c) (hvword c)
  have hleft : words (before ++ u) = words before ++ [u] := by
    rw [words_append (by simp [hbefore]), words_of_forall hu huword]
  have hright : words (v ++ after) = v :: words after := by
    rw [words_append (by simp [hafter]), words_of_forall hv hvword]
    rfl
  have htogether : words (before ++ u ++ (v ++ after)) =
      words before ++ (u ++ v) :: words after := by
    rw [List.append_assoc, ← List.append_assoc u, words_append (by simp [hbefore]),
      words_append (by simp [hafter]), words_of_forall (by simp [hu]) huv]
    rfl
  rw [hleft, hright, htogether, List.append_assoc]
  exact .step (.refl _)

end Text

namespace Template

open Text

/-! ## Joints -/

/-- The last character of a text that is not blank. -/
def lastSolid? (cs : List Char) : Option Char :=
  cs.reverse.find? (!isBlank ·)

/-- Whether the text before a token and the text after it are put together: the one ends in a word,
but for blanks, and the other starts in one. As a number. -/
def joint (before after : List Char) : Nat :=
  if (lastSolid? before).any isWord ∧ startsInWord after then 1 else 0

/-- The number of tokens whose texts are put together, with `before` before the first of them and
the others after them. -/
def joints (before : List Char) : List (List Char) → Nat
  | [] => 0
  | t :: ts => joint before t + joints (before ++ t) ts

@[simp]
theorem joint_nil (before : List Char) : joint before [] = 0 := by
  simp [joint, startsInWord]

theorem lastSolid?_append (x y : List Char) :
    lastSolid? (x ++ y) = (lastSolid? y).or (lastSolid? x) := by
  rw [lastSolid?, List.reverse_append, List.find?_append]
  rfl

theorem lastSolid?_of_blanks {bs : List Char} (h : ∀ c ∈ bs, isBlank c) : lastSolid? bs = none := by
  simpa [lastSolid?] using h

theorem lastSolid?_trimEnd (cs : List Char) : lastSolid? (trimEnd cs) = lastSolid? cs := by
  have hsplit : trimEnd cs ++ cs.rtakeWhile isBlank = cs := List.rdropWhile_append_rtakeWhile ..
  have hblanks : lastSolid? (cs.rtakeWhile isBlank) = none :=
    lastSolid?_of_blanks fun c => List.mem_rtakeWhile_imp
  rw [← hsplit, lastSolid?_append, hblanks, hsplit]
  rfl

theorem lastSolid?_trimStart (cs : List Char) : lastSolid? (trimStart cs) = lastSolid? cs := by
  have hblanks : lastSolid? (cs.takeWhile isBlank) = none :=
    lastSolid?_of_blanks fun c => List.mem_takeWhile_imp
  have happend := lastSolid?_append (cs.takeWhile isBlank) (trimStart cs)
  rw [trimStart, List.takeWhile_append_dropWhile, hblanks, Option.or_none] at happend
  exact happend.symm

/-- A trimmed text ends in its last character that is not blank. -/
theorem endsInWord_trimEnd (cs : List Char) :
    endsInWord (trimEnd cs) = (lastSolid? cs).any isWord := by
  rw [endsInWord, trimEnd, List.getLast?_reverse, lastSolid?, List.find?_not_eq_head?_dropWhile]

/-- Of the text before the joints only its last character that is not blank counts. -/
theorem joints_congr {before before' : List Char} (h : lastSolid? before = lastSolid? before')
    (ts : List (List Char)) : joints before ts = joints before' ts := by
  induction ts generalizing before before' with
  | nil => rfl
  | cons t ts ih =>
    have htail : joints (before ++ t) ts = joints (before' ++ t) ts :=
      ih (by rw [lastSolid?_append, lastSolid?_append, h])
    rw [joints, joints, joint, joint, h, htail]

/-- A trimmed text and the next, with nothing and with a blank between them. -/
theorem joins_joint (cs t : List Char) :
    Joins (joint cs t) (words (trimEnd cs ++ t)) (words cs ++ words t) := by
  unfold joint
  rw [← endsInWord_trimEnd, ← words_trimEnd cs]
  split
  · rename_i h
    exact joins_append h.1 h.2
  · rename_i h
    rw [words_append h]
    exact .refl _

/-! ## Templates without their tokens -/

/-- Texts with a blank before each but the first. -/
def blanked (texts : List Char × List (List Char)) : List Char :=
  texts.1 ++ texts.2.flatMap (' ' :: ·)

/-- Whether after each part that is blank there is no word character, but a place, a brace or the
end. -/
def Separated : List Part → Prop
  | [] => True
  | .slot :: ps => Separated ps
  | .text t :: ps =>
    (trimStart t = [] → startsInWord (blanked (split ps)) = false) ∧ Separated ps

/-- What starts with a brace starts with a token or with the brace as a text. -/
theorem startsInWord_brace (cs : List Char) :
    startsInWord (blanked (split (parts ('\x7b' :: cs)))) = false := by
  cases h : stripWord? token ('\x7b' :: cs) with
  | some rest =>
    have hblank : isWord ' ' = false := by decide
    simp [parts_of_stripWord? h, split, blanked, startsInWord, hblank]
  | none =>
    have hbrace : isWord '\x7b' = false := by decide
    simp [split_parts_cons h, blanked, startsInWord, hbrace]

/-- A text goes on to the next brace. -/
theorem separated_parts (cs : List Char) : Separated (parts cs) := by
  fun_induction parts cs with
  | case1 => trivial
  | case2 c cs rest hstrip ih => exact ih
  | case3 cs hstrip ih => exact ⟨fun h => absurd h (by decide), ih⟩
  | case4 c cs hstrip hc ih =>
    refine ⟨fun _ => ?_, ih⟩
    have hnot := List.head?_dropWhile_not (· ≠ '\x7b') cs
    generalize cs.dropWhile (· ≠ '\x7b') = rest at hnot
    cases rest with
    | nil =>
      rw [parts]
      rfl
    | cons d ds =>
      obtain rfl : d = '\x7b' := by simpa using hnot
      exact startsInWord_brace ds

theorem startsInWord_append_flatMap (t : List Char) (ts : List (List Char)) :
    startsInWord (t ++ ts.flatMap (' ' :: ·)) = startsInWord t := by
  have hblank : isWord ' ' = false := by decide
  cases t with
  | nil => cases ts <;> simp [startsInWord, hblank]
  | cons c t => rfl

theorem blanked_text (t : List Char) (ps : List Part) :
    blanked (split (.text t :: ps)) = t ++ blanked (split ps) := by
  rw [split, blanked, blanked, List.append_assoc]

theorem blanked_slot (ps : List Part) :
    blanked (split (.slot :: ps)) = ' ' :: blanked (split ps) := rfl

/-- What is written before a text that starts with a blank, where a place was just taken out. -/
def gap (written t : List Char) : List Char :=
  if written.isEmpty || (trimStart t).isEmpty then [] else [' ']

theorem isBlank_of_mem_gap {written t : List Char} : ∀ c ∈ gap written t, isBlank c := by
  unfold gap
  split
  · simp
  · simpa using (by decide : isBlank ' ')

theorem lastSolid?_gap (before t : List Char) :
    lastSolid? (trimEnd before ++ gap (trimEnd before) t ++ trimStart t) =
      lastSolid? (before ++ t) := by
  rw [lastSolid?_append, lastSolid?_append, lastSolid?_append, lastSolid?_trimEnd,
    lastSolid?_trimStart, lastSolid?_of_blanks isBlank_of_mem_gap, Option.none_or]

/-- The gap keeps the words of both sides apart. Without one there are none on a side, or what comes
next parts them. -/
theorem words_gap {t rest : List Char} (hrest : trimStart t = [] → startsInWord rest = false)
    (before : List Char) :
    words (trimEnd before ++ gap (trimEnd before) t ++ trimStart t ++ rest) =
      words before ++ words (t ++ rest) := by
  rw [← words_trimEnd before, ← words_trimStart_append t, List.append_assoc]
  by_cases hempty : trimEnd before = []
  · rw [hempty, gap, if_pos (by simp), words_nil, List.nil_append, List.nil_append, List.nil_append]
  · by_cases ht : trimStart t = []
    · rw [ht, gap, if_pos (by simp [ht]), List.append_nil, List.nil_append,
        words_append (by simp [hrest ht])]
    · rw [gap, if_neg (by simp [hempty, ht]), List.append_assoc, List.singleton_append,
        words_append_cons (by decide)]

/-- Taking the places out of parts puts words together at the joints. Where a place was just taken
out the text before it is trimmed, and the next may be joined to it. -/
theorem joins_assemble {ps : List Part} (hps : Separated ps) (before : List Char) :
    Joins (joints (before ++ (split ps).1) (split ps).2) (words (assemble [] before false ps))
      (words (before ++ blanked (split ps))) ∧
    Joins (joint before (split ps).1 + joints (before ++ (split ps).1) (split ps).2)
      (words (assemble [] (trimEnd before) true ps))
      (words before ++ words (blanked (split ps))) := by
  induction ps generalizing before with
  | nil =>
    constructor
    · simpa [split, blanked, assemble, joints] using Joins.refl (words before)
    · simpa [split, blanked, assemble, joints, words_nil, words_trimEnd] using
        Joins.refl (words before)
  | cons p ps ih =>
    cases p with
    | slot =>
      have hdropped := (ih hps before).2
      have htrim : trimEnd (trimEnd before) = trimEnd before := List.rdropWhile_idempotent ..
      rw [assemble, if_pos List.isEmpty_nil, assemble, if_pos List.isEmpty_nil, htrim, blanked_slot,
        words_append_cons (by decide), words_cons (by decide), split, List.append_nil, joints,
        joint_nil, Nat.zero_add]
      exact ⟨hdropped, hdropped⟩
    | text t =>
      obtain ⟨hblank, hps⟩ := hps
      rw [blanked_text, split, ← List.append_assoc, ← List.append_assoc]
      refine ⟨?_, ?_⟩
      · rw [assemble, if_neg (by simp)]
        exact (ih hps (before ++ t)).1
      · rw [assemble]
        split
        · -- There is a blank after the token: nothing is joined.
          rename_i hstart
          have hrec := (ih hps (trimEnd before ++ gap (trimEnd before) t ++ trimStart t)).1
          have hlast : lastSolid? (trimEnd before ++ gap (trimEnd before) t ++ trimStart t ++
              (split ps).1) = lastSolid? (before ++ t ++ (split ps).1) := by
            rw [lastSolid?_append, lastSolid?_gap, ← lastSolid?_append]
          rw [words_gap hblank, joints_congr hlast] at hrec
          have hzero : joint before (t ++ (split ps).1) = 0 := by
            obtain ⟨c, t, rfl⟩ : ∃ c t', t = c :: t' := List.exists_cons_of_ne_nil (by
              rintro rfl
              simp at hstart)
            have hc : isBlank c := by simpa using hstart
            simp [joint, startsInWord, isWord_of_isBlank hc]
          rw [hzero, Nat.zero_add]
          exact hrec
        · -- The text after the token is written right after the text before it.
          have hrec := (ih hps (trimEnd before ++ t)).1
          have hlast : lastSolid? (trimEnd before ++ t ++ (split ps).1) =
              lastSolid? (before ++ t ++ (split ps).1) := by
            simp only [lastSolid?_append, lastSolid?_trimEnd]
          rw [joints_congr hlast] at hrec
          have hjoint := joins_joint before (t ++ blanked (split ps))
          have hsame :
              joint before (t ++ blanked (split ps)) = joint before (t ++ (split ps).1) := by
            rw [joint, joint, blanked, ← List.append_assoc, startsInWord_append_flatMap]
          rw [hsame, ← List.append_assoc] at hjoint
          rw [Nat.add_comm]
          exact hrec.trans hjoint

theorem Cut.filled_blank {template : List Char} (cut : Cut template) :
    cut.filled [' '] = blanked (cut.first, cut.places.map Prod.snd) := by
  rw [blanked, filled, List.flatMap_map]
  rfl

/-- Without a clause the words of a template are those that it has with a blank for each token, but
for the words that are put together at the joints: where a text starts in a word right after its
token and what is before the token ends in one, apart from blanks. So all words are left as they are
exactly where there is no joint. -/
theorem joins_fill (template : String) {clause : String} (hclause : trimStart clause.toList = []) :
    Nonempty (Cut template.toList) ∧ ∀ cut : Cut template.toList,
      let joined := joints cut.first (cut.places.map Prod.snd)
      let apart := words (cut.filled [' '])
      let filled := words (fill template clause).toList
      Joins joined filled apart ∧ filled.length + joined = apart.length ∧
        (filled = apart ↔ joined = 0) := by
  refine ⟨nonempty_cut _, fun cut => ?_⟩
  intro joined apart filled
  have hjoins : Joins joined filled apart := by
    by_cases htoken : HasToken template.toList
    · have hassemble := (joins_assemble (separated_parts template.toList) []).1
      rw [split_parts_eq cut, ← cut.filled_blank, List.nil_append, List.nil_append] at hassemble
      have htext : filled = words (assemble [] [] false (parts template.toList)) := by
        simp only [filled, fill, fillChars, (contains_slot_iff cut).mpr htoken, hclause, if_true,
          String.toList_ofList, words_trimEnd]
      rwa [htext]
    · -- A template without a token is left as it is.
      have hplaces : cut.places = [] := by simpa [cut.hasToken_iff] using htoken
      have htemplate : cut.first = template.toList := by simpa [hplaces] using cut.text_eq
      have hnone : joined = 0 := by simp [joined, hplaces, joints]
      have hslot : ¬ (parts template.toList).contains .slot := fun hslot =>
        htoken ((contains_slot_iff cut).mp hslot)
      have htext : filled = apart := by
        simp only [filled, apart, fill, fillChars, if_neg hslot, hclause, Cut.filled, hplaces,
          htemplate, List.isEmpty_nil, if_true, String.toList_ofList, List.flatMap_nil,
          List.append_nil]
      rw [hnone, htext]
      exact .refl _
  exact ⟨hjoins, hjoins.length_eq, hjoins.eq_iff⟩

/-- The words on both sides of a token with blanks around it stay apart. -/
theorem joins_fill_apart :
    trimStart "".toList = [] ∧ ∀ cut : Cut "SELECT * FROM a \x7bwhere\x7d ORDER BY x".toList,
      joints cut.first (cut.places.map Prod.snd) = 0 ∧
      words (fill "SELECT * FROM a \x7bwhere\x7d ORDER BY x" "").toList =
        words (cut.filled [' ']) := by
  have hempty : trimStart "".toList = [] := rfl
  refine ⟨hempty, fun cut => ?_⟩
  obtain ⟨-, hall⟩ := joins_fill "SELECT * FROM a \x7bwhere\x7d ORDER BY x" hempty
  obtain ⟨-, -, hiff⟩ := hall cut
  have hsplit : split (parts "SELECT * FROM a \x7bwhere\x7d ORDER BY x".toList) =
      ("SELECT * FROM a ".toList, [" ORDER BY x".toList]) := by
    decide +kernel
  obtain ⟨hfirst, hplaces⟩ := Prod.mk.inj ((split_parts_eq cut).symm.trans hsplit)
  have hzero : joints cut.first (cut.places.map Prod.snd) = 0 := by
    rw [hfirst, hplaces]
    decide +kernel
  exact ⟨hzero, hiff.mpr hzero⟩

/-- The blank before a token is lost where none is after it, and two words become one. -/
theorem not_words_fill_after_blank :
    trimStart "".toList = [] ∧ ∃ cut : Cut "SELECT * FROM a \x7bwhere\x7dORDER BY x".toList,
      fill "SELECT * FROM a \x7bwhere\x7dORDER BY x" "" = "SELECT * FROM aORDER BY x" ∧
      words (fill "SELECT * FROM a \x7bwhere\x7dORDER BY x" "").toList ≠
        words (cut.filled [' ']) := by
  obtain ⟨cut⟩ := nonempty_cut "SELECT * FROM a \x7bwhere\x7dORDER BY x".toList
  have hsplit : split (parts "SELECT * FROM a \x7bwhere\x7dORDER BY x".toList) =
      ("SELECT * FROM a ".toList, ["ORDER BY x".toList]) := by
    decide +kernel
  have hfill : fill "SELECT * FROM a \x7bwhere\x7dORDER BY x" "" = "SELECT * FROM aORDER BY x" := by
    decide +kernel
  refine ⟨rfl, cut, hfill, ?_⟩
  rw [hfill, cut.filled_blank, ← split_parts_eq cut, hsplit]
  decide +kernel

end Template

end FilterSql
