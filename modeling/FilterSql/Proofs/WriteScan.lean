import FilterSql.Proofs.Placeholder.Scan
import FilterSql.WriteScan

/-!
# What the scan for writes does not see

The scan tells neither the lead of a placeholder from that of another dialect (`scan_oneLead`) nor
one page from another: what comes after a blank is scanned by itself (`scan_append_blank`), a page
is empty or starts with a blank, and there is no write in it (`isWrite_append_page`).

What is scanned is cut at characters that no keyword has (`scan_append_cons`). No other word starts
where one goes on, so that a text with which no keyword starts is scanned alike after a word and
after anything else, `Fresh`.
-/

namespace FilterSql.WriteScan

open Text Template

/-- A write starts with a keyword and a gap. -/
theorem startsWrite_iff (cs : List Char) :
    startsWrite cs ↔ ∃ k ∈ keywords, ((stripWord? k cs).bind List.head?).any isGap := by
  unfold startsWrite
  rw [List.any_eq_true]
  refine exists_congr fun k => and_congr_right fun _ => ?_
  cases stripWord? k cs with
  | none => rfl
  | some rest => cases rest <;> rfl

theorem startsWrite_congr {cs cs' : List Char}
    (h : ∀ k ∈ keywords, ((stripWord? k cs).bind List.head?).any isGap =
      ((stripWord? k cs').bind List.head?).any isGap) :
    startsWrite cs = startsWrite cs' := by
  rw [Bool.eq_iff_iff, startsWrite_iff, startsWrite_iff]
  exact exists_congr fun k => and_congr_right fun hk => by rw [h k hk]

/-! ## Leads -/

/-- A character, with one lead of placeholders standing for both. -/
def oneLead (c : Char) : Char :=
  if c = '$' then ':' else c

theorem oneLead_cases (c : Char) : (c = '$' ∧ oneLead c = ':') ∨ oneLead c = c := by
  unfold oneLead
  split
  · exact .inl ⟨‹_›, rfl⟩
  · exact .inr rfl

/-- A character that is the same for `$` and `:` is the same for both leads. -/
theorem oneLead_of_eq {α : Type} (f : Char → α) (h : f ':' = f '$') (c : Char) :
    f (oneLead c) = f c := by
  rcases oneLead_cases c with ⟨rfl, hc⟩ | hc
  · rw [hc, h]
  · rw [hc]

/-- Neither lead is in a keyword. -/
theorem stripWord?_oneLead {k : List Char} (hk : k ∈ keywords) (cs : List Char) :
    stripWord? k (cs.map oneLead) = (stripWord? k cs).map (List.map oneLead) := by
  -- A keyword is not gone on with at either lead, so that it does not matter which it is.
  have hleads : ∀ k ∈ keywords, k.all fun w => ':'.toLower ≠ w ∧ '$'.toLower ≠ w := by decide
  have hw : ∀ w ∈ k, (':'.toLower = w) = ('$'.toLower = w) := by
    intro w hw
    obtain ⟨hcolon, hdollar⟩ := of_decide_eq_true (List.all_eq_true.mp (hleads k hk) w hw)
    exact (eq_false hcolon).trans (eq_false hdollar).symm
  clear hleads hk
  induction k generalizing cs with
  | nil => rfl
  | cons w ws ih =>
    obtain ⟨hw, hws⟩ := List.forall_mem_cons.mp hw
    cases cs with
    | nil => rfl
    | cons c cs =>
      rw [List.map_cons, stripWord?, stripWord?]
      have hc : ((oneLead c).toLower = w) = (c.toLower = w) :=
        oneLead_of_eq (fun c => c.toLower = w) hw c
      simp only [hc]
      split
      · exact ih cs hws
      · rfl

theorem startsWrite_oneLead (cs : List Char) : startsWrite (cs.map oneLead) = startsWrite cs := by
  refine startsWrite_congr fun k hk => ?_
  rw [stripWord?_oneLead hk]
  cases stripWord? k cs with
  | none => rfl
  | some rest =>
    cases rest with
    | nil => rfl
    | cons c rest => exact oneLead_of_eq isGap rfl c

/-- The scan takes the leads of placeholders for one. -/
theorem scan_oneLead (inWord : Bool) (cs : List Char) :
    scan inWord (cs.map oneLead) = scan inWord cs := by
  induction cs generalizing inWord with
  | nil => rfl
  | cons c cs ih =>
    have hword : isWord (oneLead c) = isWord c := oneLead_of_eq isWord (by decide) c
    rw [List.map_cons, scan, scan, ih, hword, ← List.map_cons, startsWrite_oneLead]

/-! ## Cutting a text -/

/-- Whether a character is in no keyword. -/
def isForeign (c : Char) : Bool :=
  keywords.all fun k => c.toLower ∉ k

/-- Whether no keyword starts with a character. -/
def isLate (c : Char) : Bool :=
  keywords.all fun k => k.head? ≠ some c.toLower

/-- What is scanned alike after a word and after anything else. -/
def Fresh (rest : List Char) : Prop :=
  scan true rest = scan false rest

theorem startsWrite_of_isLate {c : Char} (h : isLate c) (cs : List Char) :
    startsWrite (c :: cs) = false := by
  rw [Bool.eq_false_iff, Ne, startsWrite_iff]
  rintro ⟨k, hk, hgap⟩
  have hfirst : k.head? ≠ some c.toLower := by simpa using List.all_eq_true.mp h k hk
  have hne : ∀ k ∈ keywords, k ≠ [] := by decide
  obtain ⟨w, ws, rfl⟩ := List.exists_cons_of_ne_nil (hne k hk)
  rw [stripWord?, if_neg fun hw => hfirst (by rw [hw]; rfl)] at hgap
  exact absurd hgap (by decide)

theorem scan_cons_of_isLate {c : Char} (h : isLate c) (inWord : Bool) (cs : List Char) :
    scan inWord (c :: cs) = scan (isWord c) cs := by
  rw [scan, startsWrite_of_isLate h, Bool.and_false, Bool.false_or]

theorem fresh_nil : Fresh [] := rfl

theorem fresh_cons {c : Char} (h : isLate c) (cs : List Char) : Fresh (c :: cs) := by
  rw [Fresh, scan_cons_of_isLate h, scan_cons_of_isLate h]

/-- A text of which no character starts a keyword has no write. -/
theorem scan_append_of_isLate {cs rest : List Char} (h : ∀ c ∈ cs, isLate c) (hrest : Fresh rest)
    (inWord : Bool) : scan inWord (cs ++ rest) = scan false rest := by
  induction cs generalizing inWord with
  | nil =>
    cases inWord with
    | true => exact hrest
    | false => rfl
  | cons c cs ih =>
    obtain ⟨hc, hcs⟩ := List.forall_mem_cons.mp h
    rw [List.cons_append, scan_cons_of_isLate hc, ih hcs]

/-- Within a word no write starts. -/
theorem scan_word {w : List Char} (h : ∀ c ∈ w, isWord c) (rest : List Char) :
    scan true (w ++ rest) = scan true rest := by
  induction w with
  | nil => rfl
  | cons c w ih =>
    obtain ⟨hc, hw⟩ := List.forall_mem_cons.mp h
    rw [List.cons_append, scan, hc, ih hw]
    rfl

/-- A keyword ends before a character that is in none. -/
theorem stripWord?_append_cons {word : List Char} {c : Char} (h : c.toLower ∉ word)
    (cs rest : List Char) :
    stripWord? word (cs ++ c :: rest) = (stripWord? word cs).map (· ++ c :: rest) := by
  induction word generalizing cs with
  | nil => rfl
  | cons w ws ih =>
    obtain ⟨hw, hws⟩ : c.toLower ≠ w ∧ c.toLower ∉ ws := by simpa using h
    cases cs with
    | nil => exact if_neg hw
    | cons d cs =>
      rw [List.cons_append, stripWord?, stripWord?]
      split
      · exact ih hws cs
      · rfl

theorem startsWrite_append_cons {c : Char} (h : isForeign c) (cs rest : List Char) :
    startsWrite (cs ++ c :: rest) = startsWrite (cs ++ [c]) := by
  refine startsWrite_congr fun k hk => ?_
  have hnot : c.toLower ∉ k := by simpa using List.all_eq_true.mp h k hk
  rw [stripWord?_append_cons hnot, stripWord?_append_cons hnot]
  cases stripWord? k cs with
  | none => rfl
  | some left => cases left <;> rfl

theorem isLate_of_isForeign {c : Char} (h : isForeign c) : isLate c := by
  rw [isLate, List.all_eq_true]
  intro k hk
  have hnot : c.toLower ∉ k := by simpa using List.all_eq_true.mp h k hk
  cases k with
  | nil => rfl
  | cons w ws =>
    have hne : w ≠ c.toLower := fun hw => hnot (by simp [hw])
    simpa using hne

/-- What comes after a character that is in no keyword is scanned by itself. -/
theorem scan_append_cons {c : Char} (h : isForeign c) (inWord : Bool) (cs rest : List Char) :
    scan inWord (cs ++ c :: rest) = (scan inWord (cs ++ [c]) || scan (isWord c) rest) := by
  induction cs generalizing inWord with
  | nil =>
    rw [List.nil_append, List.nil_append, scan_cons_of_isLate (isLate_of_isForeign h),
      scan_cons_of_isLate (isLate_of_isForeign h)]
    cases isWord c <;> rfl
  | cons d cs ih =>
    rw [List.cons_append, List.cons_append, scan, scan, ih, ← List.cons_append, ← List.cons_append,
      startsWrite_append_cons h, Bool.or_assoc]

/-! ## Digits and blanks -/

/-- A digit or a blank, with which no keyword starts. -/
def isInert (c : Char) : Bool :=
  c.isDigit || c == ' '

theorem toLower_of_isInert {c : Char} (h : isInert c) : c.toLower = c := by
  rw [isInert, Bool.or_eq_true] at h
  rcases h with h | h
  · unfold Char.toLower
    simp only [Char.isDigit, ge_iff_le, Bool.and_eq_true, decide_eq_true_eq] at *
    grind
  · rw [eq_of_beq h]
    rfl

theorem isLate_of_isInert {c : Char} (h : isInert c) : isLate c := by
  have hinitial : ∀ k ∈ keywords, k.head?.all (!isInert ·) := by decide
  rw [isLate, List.all_eq_true]
  intro k hk
  have hfirst := hinitial k hk
  cases hhead : k.head? with
  | none => rfl
  | some w =>
    have hne : w ≠ c := by
      rintro rfl
      simp [hhead, h] at hfirst
    simpa [toLower_of_isInert h] using hne

/-- There is no write in digits and blanks. -/
theorem scan_of_isInert {cs : List Char} (h : ∀ c ∈ cs, isInert c) (inWord : Bool) :
    scan inWord cs = false := by
  have hscan := scan_append_of_isLate (fun c hc => isLate_of_isInert (h c hc)) fresh_nil inWord
  simpa [scan] using hscan

/-- What comes after a blank is scanned by itself. -/
theorem scan_append_blank (inWord : Bool) (cs rest : List Char) :
    scan inWord (cs ++ ' ' :: rest) = (scan inWord (cs ++ [' ']) || scan false rest) := by
  have hword : isWord ' ' = false := by decide
  rw [scan_append_cons (by decide), hword]

/-! ## Pages -/

/-- Whether there is no write in a word, also where a blank follows. -/
def Quiet (word : List Char) : Prop :=
  scan false word = false ∧ scan false (word ++ [' ']) = false

instance (word : List Char) : Decidable (Quiet word) :=
  inferInstanceAs (Decidable (_ ∧ _))

theorem quiet_toDigits (n : Nat) : Quiet (Nat.toDigits 10 n) := by
  have hdigits : ∀ c ∈ Nat.toDigits 10 n, isInert c := fun c hc => by
    simp [isInert, isDigit_of_mem_toDigits hc]
  refine ⟨scan_of_isInert hdigits false, scan_of_isInert (fun c hc => ?_) false⟩
  rcases List.mem_append.mp hc with hc | hc
  · exact hdigits c hc
  · rw [List.mem_singleton.mp hc]
    rfl

/-- Quiet words after blanks add no write to a text, and whether there is one in the text depends
only on there being words. -/
theorem scan_append_words (inWord : Bool) (cs : List Char) {words : List (List Char)}
    (h : ∀ w ∈ words, Quiet w) :
    scan inWord (cs ++ words.flatMap (' ' :: ·)) =
      scan inWord (cs ++ if words.isEmpty then [] else [' ']) := by
  induction words generalizing inWord cs with
  | nil => rfl
  | cons w ws ih =>
    obtain ⟨⟨hword, hblank⟩, hws⟩ := List.forall_mem_cons.mp h
    -- A word is scanned with the blank of the next, or without one if it is the last.
    have hrest : scan false (w ++ ws.flatMap (' ' :: ·)) = false := by
      rw [ih false w hws]
      cases ws with
      | nil => exact (congrArg _ (List.append_nil w)).trans hword
      | cons u us => exact hblank
    rw [List.flatMap_cons, List.cons_append, scan_append_blank, hrest, Bool.or_false]
    rfl

/-- A page is made of quiet words after blanks. -/
theorem exists_words_page (d : Dialect) (take skip : Option Nat) :
    ∃ words : List (List Char), (d.page take skip).toList = words.flatMap (' ' :: ·) ∧
      (∀ w ∈ words, Quiet w) ∧ words.isEmpty = (take.isNone && skip.isNone) := by
  obtain ⟨hoffset, hrows, hfetch, hnext, hfirst, honly, hlimit⟩ :
      Quiet "OFFSET".toList ∧ Quiet "ROWS".toList ∧ Quiet "FETCH".toList ∧ Quiet "NEXT".toList ∧
        Quiet "FIRST".toList ∧ Quiet "ONLY".toList ∧ Quiet "LIMIT".toList := by
    decide
  have hquiet : ∀ {w : List Char} {ws : List (List Char)}, Quiet w → (∀ v ∈ ws, Quiet v) →
      ∀ v ∈ w :: ws, Quiet v := fun hw hws => List.forall_mem_cons.mpr ⟨hw, hws⟩
  have hnil : ∀ w ∈ ([] : List (List Char)), Quiet w := by simp
  cases d with
  | oracle =>
    cases take with
    | none =>
      cases skip with
      | none => exact ⟨[], rfl, hnil, rfl⟩
      | some m =>
        refine ⟨["OFFSET".toList, Nat.toDigits 10 m, "ROWS".toList], ?_, ?_, rfl⟩
        · simp [Dialect.page]
        · exact hquiet hoffset (hquiet (quiet_toDigits m) (hquiet hrows hnil))
    | some n =>
      cases skip with
      | none =>
        refine ⟨["FETCH".toList, "FIRST".toList, Nat.toDigits 10 n, "ROWS".toList, "ONLY".toList],
          ?_, ?_, rfl⟩
        · simp [Dialect.page]
        · exact hquiet hfetch (hquiet hfirst (hquiet (quiet_toDigits n)
            (hquiet hrows (hquiet honly hnil))))
      | some m =>
        refine ⟨["OFFSET".toList, Nat.toDigits 10 m, "ROWS".toList, "FETCH".toList, "NEXT".toList,
          Nat.toDigits 10 n, "ROWS".toList, "ONLY".toList], ?_, ?_, rfl⟩
        · simp [Dialect.page]
        · exact hquiet hoffset (hquiet (quiet_toDigits m) (hquiet hrows (hquiet hfetch
            (hquiet hnext (hquiet (quiet_toDigits n) (hquiet hrows (hquiet honly hnil)))))))
  | postgres =>
    have hskip : ∀ v ∈ skip.toList.flatMap fun m => ["OFFSET".toList, Nat.toDigits 10 m],
        Quiet v := by
      cases skip with
      | none => exact hnil
      | some m => exact hquiet hoffset (hquiet (quiet_toDigits m) hnil)
    refine ⟨(take.toList.flatMap fun n => ["LIMIT".toList, Nat.toDigits 10 n]) ++
      skip.toList.flatMap fun m => ["OFFSET".toList, Nat.toDigits 10 m], ?_, ?_, ?_⟩
    · cases take <;> cases skip <;> simp [Dialect.page]
    · cases take with
      | none => exact hskip
      | some n => exact hquiet hlimit (hquiet (quiet_toDigits n) hskip)
    · cases take <;> cases skip <;> rfl

/-- Whether a text with a page writes does not depend on the dialect of the page. -/
theorem isWrite_append_page (text : String) (d d' : Dialect) (take skip : Option Nat) :
    isWrite (text ++ d.page take skip) = isWrite (text ++ d'.page take skip) := by
  obtain ⟨words, hpage, hquiet, hempty⟩ := exists_words_page d take skip
  obtain ⟨words', hpage', hquiet', hempty'⟩ := exists_words_page d' take skip
  unfold isWrite
  rw [String.toList_append, String.toList_append, hpage, hpage', scan_append_words _ _ hquiet,
    scan_append_words _ _ hquiet', hempty, hempty']

/-- Whether a text with a page writes is the same for other leads and for the page of another
dialect. -/
theorem isWrite_congr {s t : String} (h : s.toList.map oneLead = t.toList.map oneLead)
    (d d' : Dialect) (take skip : Option Nat) :
    isWrite (s ++ d.page take skip) = isWrite (t ++ d'.page take skip) := by
  have hlead : ∀ u : String, isWrite (u ++ d'.page take skip) =
      scan false (u.toList.map oneLead ++ (d'.page take skip).toList.map oneLead) := by
    intro u
    rw [isWrite, ← scan_oneLead, String.toList_append, List.map_append]
  rw [isWrite_append_page s d d', hlead, hlead, h]

end FilterSql.WriteScan
