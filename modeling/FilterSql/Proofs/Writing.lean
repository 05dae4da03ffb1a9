import FilterSql.Proofs.Words
import FilterSql.Proofs.WriteScan

/-!
# Which statements write

A text writes where a keyword stands in it, in any case of its letters, with a gap after it and
outside any word that goes on up to it (`WriteScan.Writes`). The scan finds every such place and no
other: after a part of the text its flag says whether that part ends in a word, and what it still
finds are the places in the rest (`scan_iff`). So it accepts the statements that write and no others
(`isWrite_iff_writes`), and text around a statement hides no write that is in it, unless a word
before the statement goes on into it.
-/

namespace FilterSql

/-- A text ends in a word where its last part does, unless that part is empty. -/
theorem Text.endsInWord_append (x y : List Char) :
    endsInWord (x ++ y) = if y = [] then endsInWord x else endsInWord y := by
  unfold endsInWord
  rw [List.getLast?_append]
  split
  · rename_i hnil
    rw [hnil, List.getLast?_nil, Option.none_or]
  · rename_i hne
    rw [List.getLast?_eq_some_getLast hne, Option.some_or]

namespace WriteScan

open Text Template

/-- Whether a text is a keyword, in any case of its letters. -/
def IsKeyword (w : List Char) : Prop :=
  w.map Char.toLower ∈ keywords

instance (w : List Char) : Decidable (IsKeyword w) :=
  inferInstanceAs (Decidable (_ ∈ keywords))

/-- Whether a keyword with a gap after it starts a text, or stands in it behind a character that is
in no word. -/
def Writes (cs : List Char) : Prop :=
  ∃ before word gap after, cs = before ++ word ++ gap :: after ∧ endsInWord before = false ∧
    IsKeyword word ∧ gap ∈ [' ', '\t', '\r', '\n']

theorem isGap_iff {c : Char} : isGap c ↔ c ∈ [' ', '\t', '\r', '\n'] := by
  simp [isGap, or_assoc]

/-- What starts a write is a keyword and a gap. -/
theorem startsWrite_iff_exists {cs : List Char} :
    startsWrite cs ↔ ∃ word gap after, cs = word ++ gap :: after ∧ IsKeyword word ∧
      gap ∈ [' ', '\t', '\r', '\n'] := by
  rw [startsWrite_iff]
  constructor
  · rintro ⟨k, hk, hgap⟩
    cases hstrip : stripWord? k cs with
    | none => simp [hstrip] at hgap
    | some rest =>
      obtain ⟨word, rfl, rfl⟩ := stripWord?_eq_some_iff.mp hstrip
      rw [hstrip] at hgap
      cases rest with
      | nil => simp at hgap
      | cons gap after => exact ⟨word, gap, after, rfl, hk, isGap_iff.mp hgap⟩
  · rintro ⟨word, gap, after, rfl, hword, hgap⟩
    have hstrip : stripWord? (word.map Char.toLower) (word ++ gap :: after) = some (gap :: after) :=
      stripWord?_eq_some_iff.mpr ⟨word, rfl, rfl⟩
    refine ⟨_, hword, ?_⟩
    rw [hstrip]
    exact isGap_iff.mpr hgap

/-- After `seen` the scan finds the places of writes in the rest of the text. -/
theorem scan_iff (seen cs : List Char) :
    scan (endsInWord seen) cs ↔ ∃ before word gap after, cs = before ++ word ++ gap :: after ∧
      endsInWord (seen ++ before) = false ∧ IsKeyword word ∧ gap ∈ [' ', '\t', '\r', '\n'] := by
  induction cs generalizing seen with
  | nil => simp [scan]
  | cons c cs ih =>
    -- The flag that goes on says whether what is seen with this character ends in a word.
    have hflag : isWord c = endsInWord (seen ++ [c]) := (endsInWord_append seen [c]).symm
    rw [scan, Bool.or_eq_true, Bool.and_eq_true, Bool.not_eq_true', startsWrite_iff_exists, hflag,
      ih (seen ++ [c])]
    constructor
    · rintro (⟨hseen, word, gap, after, hcs, hword, hgap⟩ |
        ⟨before, word, gap, after, rfl, hbefore, hword, hgap⟩)
      · exact ⟨[], word, gap, after, hcs, by rwa [List.append_nil], hword, hgap⟩
      · exact ⟨c :: before, word, gap, after, rfl, by simpa using hbefore, hword, hgap⟩
    · rintro ⟨before, word, gap, after, hcs, hbefore, hword, hgap⟩
      -- The place is here, or behind the character that the scan takes next.
      cases before with
      | nil => exact .inl ⟨by simpa using hbefore, word, gap, after, hcs, hword, hgap⟩
      | cons d before =>
        obtain ⟨rfl, rfl⟩ := List.cons_eq_cons.mp hcs
        exact .inr ⟨before, word, gap, after, rfl, by simpa using hbefore, hword, hgap⟩

/-- The scan accepts the texts that write. -/
theorem scan_false_iff (cs : List Char) : scan false cs ↔ Writes cs :=
  scan_iff [] cs

theorem Writes.append_left {before cs : List Char} (hbefore : endsInWord before = false)
    (h : Writes cs) : Writes (before ++ cs) := by
  obtain ⟨start, word, gap, after, rfl, hstart, hword, hgap⟩ := h
  refine ⟨before ++ start, word, gap, after, by simp, ?_, hword, hgap⟩
  rw [endsInWord_append]
  split
  · exact hbefore
  · exact hstart

theorem Writes.append_right {cs : List Char} (h : Writes cs) (after : List Char) :
    Writes (cs ++ after) := by
  obtain ⟨before, word, gap, rest, rfl, hbefore, hword, hgap⟩ := h
  exact ⟨before, word, gap, rest ++ after, by simp, hbefore, hword, hgap⟩

/-- A statement writes exactly if a keyword stands in it, in any case of its letters, with a space,
a tab or a line end after it and no character of a word before it. A statement that writes still
does so behind any text that does not end in a word, and before any text. -/
theorem isWrite_iff_writes :
    (∀ s : String, isWrite s ↔ Writes s.toList) ∧
      (∀ s before : String, endsInWord before.toList = false → isWrite s → isWrite (before ++ s)) ∧
      ∀ s after : String, isWrite s → isWrite (s ++ after) := by
  have hscan : ∀ s : String, isWrite s ↔ Writes s.toList := fun s => scan_false_iff s.toList
  refine ⟨hscan, fun s before hbefore h => ?_, fun s after h => ?_⟩
  · rw [hscan, String.toList_append]
    exact .append_left hbefore ((hscan s).mp h)
  · rw [hscan, String.toList_append]
    exact .append_right ((hscan s).mp h) after.toList

/-- A write in mixed case, behind a letter of another script and a bracket. -/
theorem isWrite_iff_writes_bracket :
    Writes "é(DeLete\tfrom a)".toList ∧ isWrite "é(DeLete\tfrom a)" := by
  have hwrites : Writes "DeLete\t".toList :=
    ⟨[], "DeLete".toList, '\t', [], by decide, rfl, by decide, by decide⟩
  have hstatement : isWrite "DeLete\t" := (isWrite_iff_writes.1 _).mpr hwrites
  have hbefore := isWrite_iff_writes.2.1 _ "é(" (by decide) hstatement
  have hafter := isWrite_iff_writes.2.2 _ "from a)" hbefore
  exact ⟨(isWrite_iff_writes.1 _).mp hafter, hafter⟩

/-- A keyword that a word goes on into, or that goes on itself, writes nothing. -/
example : ¬ isWrite "SELECT last_update FROM a" ∧ ¬ isWrite "SELECT * FROM updates" ∧
    ¬ isWrite "éupdate a" := by
  decide +kernel

end WriteScan

end FilterSql
