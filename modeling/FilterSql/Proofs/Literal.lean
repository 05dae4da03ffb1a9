import FilterSql.Proofs.Deferred

/-!
# Literals keep to their quotes

SQL reads a quote outside a string literal as the start of one, and inside it as the end, unless
another quote follows, which makes the two one quote of the literal. `Text.literals?` reads a text
in this way: it gives what stands outside the literals and the texts of these, if the text does not
end inside one.

Whatever a value holds, its literal has nothing outside quotes but plain characters, and the texts
between quotes are those of its leaves (`Value.literals_literal`). What carries the proof is
`Text.ReadsAs`, which says how a part of a text is read whatever comes after it: plain text and a
quoted text have readings of their own, and parts with a plain character between them are read one
after the other (`ReadsAs.append_cons`). The only condition on what comes after is that it does not
start with a quote, which a quoted text would take for its own.
-/

namespace FilterSql

namespace Text

/-- A text taken apart: what stands outside its string literals, and the text of each literal, in
which doubled quotes are one. -/
structure Literals where
  outside : List Char
  quoted : List (List Char)

/-- The parts of two texts one after the other. -/
def Literals.append (l l' : Literals) : Literals :=
  ⟨l.outside ++ l'.outside, l.quoted ++ l'.quoted⟩

theorem Literals.append_comp_append (l l' : Literals) :
    l.append ∘ l'.append = (l.append l').append := by
  funext l''
  simp [append]

/-- Where the reading of a text stands. -/
inductive Place where
  | outside
  /-- Inside a literal of which this has been read. -/
  | inside (text : List Char)
  /-- After a quote inside a literal, which ends it unless another quote follows. -/
  | quote (text : List Char)

/-- The literals of the rest of a text, if it does not end inside one. -/
def literalsFrom : Place → List Char → Option Literals
  | .outside, [] => some ⟨[], []⟩
  | .inside _, [] => none
  | .quote text, [] => some ⟨[], [text]⟩
  | .outside, c :: cs =>
    if c = '\'' then literalsFrom (.inside []) cs
    else (literalsFrom .outside cs).map (Literals.append ⟨[c], []⟩)
  | .inside text, c :: cs =>
    if c = '\'' then literalsFrom (.quote text) cs else literalsFrom (.inside (text ++ [c])) cs
  | .quote text, c :: cs =>
    if c = '\'' then literalsFrom (.inside (text ++ [c])) cs
    else (literalsFrom .outside cs).map (Literals.append ⟨[c], [text]⟩)

/-- The literals of a text, if it does not end inside one. -/
def literals? (cs : List Char) : Option Literals :=
  literalsFrom .outside cs

/-- The characters that a literal may have outside quotes. -/
def isPlain (c : Char) : Bool :=
  c.isAlphanum || "_,.-() ".toList.contains c

theorem isPlain_of_isDigit {c : Char} (h : c.isDigit) : isPlain c := by
  simp [isPlain, Char.isAlphanum, h]

/-- How a part of a text is read: it has plain characters outside literals, and these literals,
whatever comes after it that does not start with a quote. -/
def ReadsAs (cs : List Char) (quoted : List (List Char)) : Prop :=
  ∃ outside, (∀ c ∈ outside, isPlain c) ∧ ∀ rest, rest.head? ≠ some '\'' →
    literals? (cs ++ rest) = (literals? rest).map (Literals.append ⟨outside, quoted⟩)

theorem readsAs_nil : ReadsAs [] [] := by
  refine ⟨[], by simp, fun rest _ => ?_⟩
  have hid : Literals.append ⟨[], []⟩ = id := rfl
  rw [hid, Option.map_id, id_eq, List.nil_append]

/-- A plain character is read as itself. -/
theorem ReadsAs.cons {c : Char} {cs : List Char} {quoted : List (List Char)} (hc : isPlain c)
    (h : ReadsAs cs quoted) : ReadsAs (c :: cs) quoted := by
  obtain ⟨outside, hplain, hread⟩ := h
  refine ⟨c :: outside, ?_, fun rest hrest => ?_⟩
  · exact List.forall_mem_cons.mpr ⟨hc, hplain⟩
  · have hne : c ≠ '\'' := by
      rintro rfl
      exact absurd hc (by decide)
    rw [List.cons_append, literals?, literalsFrom, if_neg hne, ← literals?, hread rest hrest,
      Option.map_map]
    rfl

/-- Plain text before a part is read as itself. -/
theorem ReadsAs.append_left {cs ds : List Char} {quoted : List (List Char)}
    (hcs : ∀ c ∈ cs, isPlain c) (h : ReadsAs ds quoted) : ReadsAs (cs ++ ds) quoted := by
  induction cs with
  | nil => exact h
  | cons c cs ih =>
    obtain ⟨hc, hcs⟩ := List.forall_mem_cons.mp hcs
    exact (ih hcs).cons hc

/-- Plain text is read as itself. -/
theorem readsAs_of_plain {cs : List Char} (h : ∀ c ∈ cs, isPlain c) : ReadsAs cs [] := by
  rw [← List.append_nil cs]
  exact readsAs_nil.append_left h

/-- A plain character keeps two parts apart. -/
theorem ReadsAs.append_cons {cs ds : List Char} {c : Char} {quoted quoted' : List (List Char)}
    (hcs : ReadsAs cs quoted) (hc : isPlain c) (hds : ReadsAs ds quoted') :
    ReadsAs (cs ++ c :: ds) (quoted ++ quoted') := by
  obtain ⟨outside, hplain, hread⟩ := hcs
  obtain ⟨outside', hplain', hread'⟩ := hds.cons hc
  refine ⟨outside ++ outside', ?_, fun rest hrest => ?_⟩
  · exact List.forall_mem_append.mpr ⟨hplain, hplain'⟩
  · -- A plain character is no quote, so that the first part ends where it would at the end.
    have hapart : (c :: ds ++ rest).head? ≠ some '\'' := by
      rw [List.cons_append, List.head?_cons]
      rintro ⟨⟩
      exact absurd hc (by decide)
    rw [List.append_assoc, hread _ hapart, hread' rest hrest, Option.map_map,
      Literals.append_comp_append]
    rfl

/-- From inside a literal, the rest of a text with its quotes doubled is read as that text. -/
theorem literalsFrom_double (text cs : List Char) {rest : List Char}
    (hrest : rest.head? ≠ some '\'') :
    literalsFrom (.inside text) (double '\'' cs ++ '\'' :: rest) =
      (literals? rest).map (Literals.append ⟨[], [text ++ cs]⟩) := by
  induction cs generalizing text with
  | nil =>
    -- The quote at the end is followed by something else, or by nothing.
    rw [double, List.nil_append, literalsFrom, if_pos rfl, List.append_nil]
    cases rest with
    | nil => rfl
    | cons c cs =>
      have hc : c ≠ '\'' := by simpa using hrest
      rw [literalsFrom, if_neg hc, literals?, literalsFrom, if_neg hc, Option.map_map]
      rfl
  | cons c cs ih =>
    have htext : text ++ c :: cs = text ++ [c] ++ cs := by simp
    rw [double, htext]
    by_cases hc : c = '\''
    · rw [if_pos hc, List.cons_append, List.cons_append, literalsFrom, if_pos rfl, literalsFrom,
        if_pos rfl, ← hc]
      subst hc
      exact ih _
    · rw [if_neg hc, List.cons_append, literalsFrom, if_neg hc, ih]

/-- A quoted text is read as its text. -/
theorem readsAs_enclose (cs : List Char) : ReadsAs (enclose '\'' cs) [cs] := by
  refine ⟨[], by simp, fun rest hrest => ?_⟩
  rw [enclose, List.cons_append, List.append_assoc, literals?, literalsFrom, if_pos rfl]
  exact literalsFrom_double [] cs hrest

/-- Two quotes inside a literal are one quote of it. -/
example : literals? "'it''s',1".toList = some ⟨",1".toList, ["it's".toList]⟩ := rfl

theorem toList_intercalate_cons_cons (s t : String) (ts : List String) :
    (String.intercalate "," (s :: t :: ts)).toList =
      s.toList ++ ',' :: (String.intercalate "," (t :: ts)).toList := by
  simp [String.intercalate_cons_cons]

/-- Parts with commas between them are read one after the other. -/
theorem readsAs_intercalate {α : Type} {text : α → String} {quoted : α → List (List Char)}
    {l : List α} (h : ∀ a ∈ l, ReadsAs (text a).toList (quoted a)) :
    ReadsAs (String.intercalate "," (l.map text)).toList (l.flatMap quoted) := by
  induction l with
  | nil => exact readsAs_nil
  | cons a l ih =>
    obtain ⟨ha, hl⟩ := List.forall_mem_cons.mp h
    cases l with
    | nil => simpa using ha
    | cons b l =>
      have hpart := ha.append_cons (c := ',') (by decide) (ih hl)
      simpa [String.intercalate_cons_cons] using hpart

/-- Doubling the quotes of a text is undone. -/
theorem undouble_double (q : Char) (cs : List Char) : undouble q (double q cs) = cs := by
  induction cs with
  | nil => rfl
  | cons c cs ih =>
    rw [double]
    by_cases hc : c = q
    · rw [if_pos hc, undouble, if_pos ⟨rfl, rfl⟩, ih, hc]
    · -- Only a quote before another is taken together with it.
      rw [if_neg hc]
      cases hd : double q cs with
      | nil =>
        rw [hd] at ih
        rw [undouble, ← ih, undouble]
      | cons d ds =>
        rw [undouble, if_neg fun h => hc h.1, ← hd, ih]

/-- What stands between the quotes of a quoted text is the text. -/
theorem disclose?_enclose (q : Char) (cs : List Char) : disclose? q (enclose q cs) = some cs := by
  simp [enclose, disclose?, undouble_double]

/-! ## Numbers -/

theorem isDigit_of_mem_toString {n : Nat} {c : Char} (h : c ∈ (toString n).toList) : c.isDigit := by
  rw [Nat.toString_eq_repr, Nat.toList_repr] at h
  exact Nat.isDigit_of_mem_toDigits (by decide) (by decide) h

/-- The characters of finite numbers. -/
def isNumeric (c : Char) : Bool :=
  c.isDigit || c == '.' || c == '-'

theorem isNumeric_of_isDigit {c : Char} (h : c.isDigit) : isNumeric c := by
  simp [isNumeric, h]

theorem isPlain_of_isNumeric {c : Char} (h : isNumeric c) : isPlain c := by
  simp only [isNumeric, Bool.or_eq_true, beq_iff_eq] at h
  rcases h with (h | rfl) | rfl
  · exact isPlain_of_isDigit h
  · decide
  · decide

theorem isNumeric_of_mem_toString {n : Nat} {c : Char} (h : c ∈ (toString n).toList) :
    isNumeric c :=
  isNumeric_of_isDigit (isDigit_of_mem_toString h)

theorem isNumeric_of_mem_toString_int {n : Int} {c : Char} (h : c ∈ (toString n).toList) :
    isNumeric c := by
  cases n with
  | ofNat n => exact isNumeric_of_mem_toString h
  | negSucc n =>
    have htext : toString (Int.negSucc n) = "-" ++ toString (n + 1) := rfl
    rw [htext, String.toList_append, List.mem_append] at h
    rcases h with h | h
    · obtain rfl : c = '-' := by simpa using h
      decide
    · exact isNumeric_of_mem_toString h

theorem isNumeric_of_mem_zeros {n : Nat} {c : Char} (h : c ∈ (Decimal.zeros n).toList) :
    isNumeric c := by
  rw [Decimal.zeros, String.toList_ofList] at h
  obtain rfl := List.eq_of_mem_replicate h
  decide

/-- A decimal has digits and at most a point. -/
theorem isNumeric_of_mem_positional {d : Decimal} {c : Char} (h : c ∈ d.positional.toList) :
    isNumeric c := by
  have hdigits : ∀ c ∈ (toString d.digits).toList, isNumeric c := fun _ =>
    isNumeric_of_mem_toString
  unfold Decimal.positional at h
  split at h
  · rw [String.toList_append, List.mem_append] at h
    exact h.elim (hdigits c) isNumeric_of_mem_zeros
  · simp only at h
    split at h
    · simp only [String.toList_append, List.mem_append, String.toList_ofList] at h
      rcases h with (h | h) | h
      · exact hdigits c (List.mem_of_mem_take h)
      · obtain rfl : c = '.' := by simpa using h
        decide
      · exact hdigits c (List.mem_of_mem_drop h)
    · simp only [String.toList_append, List.mem_append] at h
      rcases h with (h | h) | h
      · obtain rfl | rfl : c = '0' ∨ c = '.' := by simpa using h
        · decide
        · decide
      · exact isNumeric_of_mem_zeros h
      · exact hdigits c h

/-- A binary number is a finite number, or one of three words. -/
theorem text_binary_cases (x : Binary64) :
    (∀ c ∈ x.text.toList, isNumeric c) ∨ x.text ∈ ["NaN", "inf", "-inf"] := by
  unfold Binary64.text Binary64.signText
  split
  · exact .inr (by simp)
  · split
    · refine .inl fun c hc => ?_
      rw [String.toList_append, List.mem_append] at hc
      rcases hc with hc | hc
      · split at hc
        · obtain rfl : c = '-' := by simpa using hc
          decide
        · simp at hc
      · exact isNumeric_of_mem_positional hc
    · exact .inr (by split <;> decide)

/-- A binary number has plain characters, also where it is no number or infinite. -/
theorem isPlain_of_mem_binary {x : Binary64} {c : Char} (h : c ∈ x.text.toList) : isPlain c := by
  have hwords : ∀ w ∈ ["NaN", "inf", "-inf"], w.toList.all isPlain := by decide
  rcases text_binary_cases x with hx | hx
  · exact isPlain_of_isNumeric (hx c h)
  · exact List.all_eq_true.mp (hwords _ hx) c h

end Text

/-- A quoted text is unquoted to the text. -/
theorem unquoteString?_quoteString (s : String) : unquoteString? (quoteString s) = some s := by
  simp [unquoteString?, quoteString, Text.disclose?_enclose]

/-- There is no quote in the text of a moment. -/
theorem DateTime.quote_notMem_text (t : DateTime) : '\'' ∉ t.text.toList := by
  have hpadded : ∀ width n, '\'' ∉ (zeroPadded width n).toList := by
    intro width n h
    unfold zeroPadded at h
    simp only [String.toList_append, String.toList_ofList, List.mem_append] at h
    rcases h with h | h
    · exact absurd (List.eq_of_mem_replicate h) (by decide)
    · exact absurd (Text.isDigit_of_mem_toString h) (by decide)
  have hsign : '\'' ∉ (if t.date.year < 0 then "-" else "+").toList := by
    split <;> decide
  have hdate : '\'' ∉ t.date.text.toList := by
    unfold Date.text
    simp only
    split <;> simp [hpadded, hsign]
  unfold DateTime.text
  simp [hdate, hpadded]

/-! ## Values -/

namespace Value

/-- A part of a value that stands between quotes. -/
inductive Leaf where
  | text (s : String)
  | document (j : Json)
  | moment (t : DateTime)

mutual

/-- The leaves of a value from left to right. A deferred value has those of what it yields, and none
where that is deferred again. -/
def leaves : Value → List Leaf
  | null | bool _ | int _ | float _ => []
  | text s => [.text s]
  | dateTime t => [.moment t]
  | array items => leavesAll items
  | json document => [.document document]
  | deferred (deferred _) => []
  | deferred v => leaves v

def leavesAll : List Value → List Leaf
  | [] => []
  | v :: vs => leaves v ++ leavesAll vs

end

theorem leavesAll_eq_flatMap (vs : List Value) : leavesAll vs = vs.flatMap leaves := by
  induction vs with
  | nil => rfl
  | cons v vs ih => rw [leavesAll, ih, List.flatMap_cons]

/-- The text of a leaf, without quotes. -/
def Leaf.content : Leaf → String
  | text s => s
  | document j => j.compact
  | moment t => t.text

end Value

/-- How moments are written, which Oracle is told with each of them. -/
def Dialect.momentFormat : Dialect → List String
  | oracle => ["YYYY-MM-DD HH24:MI:SS"]
  | postgres => []

namespace Value

/-- The texts between quotes that a leaf brings into a literal: its content, and after that of a
moment the format that it has in the dialect. -/
def Leaf.quoted (d : Dialect) (l : Leaf) : List String :=
  l.content :: match l with
    | moment _ => d.momentFormat
    | _ => []

/-- The texts between quotes in the literal of a value. -/
def quotedTexts (d : Dialect) (v : Value) : List (List Char) :=
  (v.leaves.flatMap (Leaf.quoted d)).map String.toList

/-- A literal has the texts of its leaves between quotes and plain characters outside them. -/
theorem readsAs_literal (d : Dialect) : ∀ v : Value,
    Text.ReadsAs (v.literal d).toList (v.quotedTexts d)
  | .null => Text.readsAs_of_plain (List.all_eq_true.mp
      (by decide : "NULL".toList.all Text.isPlain))
  | .bool b => Text.readsAs_of_plain (List.all_eq_true.mp
      (by cases d <;> cases b <;> decide : ((Value.bool b).literal d).toList.all Text.isPlain))
  | .int _ => Text.readsAs_of_plain fun _ h =>
    Text.isPlain_of_isNumeric (Text.isNumeric_of_mem_toString_int h)
  | .float _ => Text.readsAs_of_plain fun _ => Text.isPlain_of_mem_binary
  | .text s => by
    rw [literal, quoteString, String.toList_ofList]
    exact Text.readsAs_enclose s.toList
  | .json document => by
    rw [literal, quoteString, String.toList_ofList]
    exact Text.readsAs_enclose document.compact.toList
  | .dateTime t => by
    have hmoment := Text.readsAs_enclose t.text.toList
    cases d with
    | postgres =>
      have hword : "TIMESTAMP ".toList.all Text.isPlain := by decide
      have htext : ((Value.dateTime t).literal .postgres).toList =
          "TIMESTAMP ".toList ++ Text.enclose '\'' t.text.toList := by
        simp [literal, Dialect.dateLiteral, quoteString]
      rw [htext]
      exact hmoment.append_left (List.all_eq_true.mp hword)
    | oracle =>
      -- The format is quoted as well, but it is not a part of the value.
      let format := "YYYY-MM-DD HH24:MI:SS".toList
      have hword : "TO_DATE(".toList.all Text.isPlain := by decide
      have htext : ((Value.dateTime t).literal .oracle).toList = "TO_DATE(".toList ++
          (Text.enclose '\'' t.text.toList ++ ',' :: ' ' ::
            (Text.enclose '\'' format ++ ')' :: [])) := by
        simp only [literal, Dialect.dateLiteral, quoteString, String.toList_append,
          String.toList_ofList, List.append_assoc]
        rfl
      have hformat : Text.ReadsAs (Text.enclose '\'' format ++ ')' :: []) [format] :=
        (Text.readsAs_enclose format).append_cons (by decide) Text.readsAs_nil
      rw [htext]
      exact (hmoment.append_cons (by decide) (hformat.cons (by decide))).append_left
        (List.all_eq_true.mp hword)
  | .array items => by
    have hitems : ∀ v ∈ items, Text.ReadsAs (v.literal d).toList (v.quotedTexts d) :=
      fun v _ => readsAs_literal d v
    have hquoted : (Value.array items).quotedTexts d = items.flatMap (quotedTexts d) := by
      unfold quotedTexts
      rw [leaves, leavesAll_eq_flatMap, List.flatMap_assoc, List.map_flatMap]
    rw [literal, literals_eq_map, hquoted]
    exact Text.readsAs_intercalate hitems
  | .deferred v => by
    -- One level is looked through: what is deferred again is `NULL`.
    have hv := readsAs_literal d v
    cases v with
    | deferred _ =>
      exact Text.readsAs_of_plain (List.all_eq_true.mp
        (by decide : "NULL".toList.all Text.isPlain))
    | _ => exact hv

/-- Outside its quotes the literal of a value has only letters, digits, blanks and `_ , . - ( )`,
and it ends outside quotes. Between quotes it has the texts of the leaves of the value, in order,
with the format of each moment after it on Oracle. A moment has no quote, and what is quoted is
given back when it is unquoted. -/
theorem literals_literal (d : Dialect) (v : Value) :
    (∃ outside, Text.literals? (v.literal d).toList =
        some ⟨outside, (v.leaves.flatMap (Leaf.quoted d)).map String.toList⟩ ∧
      ∀ c ∈ outside, c.isAlphanum ∨ c ∈ "_,.-() ".toList) ∧
    (∀ t : DateTime, '\'' ∉ t.text.toList) ∧
    ∀ s, unquoteString? (quoteString s) = some s := by
  refine ⟨?_, DateTime.quote_notMem_text, unquoteString?_quoteString⟩
  obtain ⟨outside, hplain, hread⟩ := v.readsAs_literal d
  have htext := hread [] (by simp)
  rw [List.append_nil] at htext
  refine ⟨outside, ?_, fun c hc => ?_⟩
  · rw [htext]
    simp [Text.literals?, Text.literalsFrom, Text.Literals.append, quotedTexts]
  · simpa [Text.isPlain] using hplain c hc

end Value

end FilterSql
