import FilterSql.Proofs.Inline
import FilterSql.Proofs.Outline
import FilterSql.Proofs.Placeholder.Template
import FilterSql.Proofs.Places
import FilterSql.Proofs.WriteLiteral

/-!
# Whether a raw query with its values in the text reads or writes

The text of a raw query is scanned for writes when it is finished, and inline the literals of its
values are in it. So it counts as a write when the query with placeholders in their place does, and
also when one of its values holds a write (`Settings.kind_inline_query`): of two queries that are
the same without their values one may read and the other write.

Two things stand around the clause of a filter that the scan could see in another way next to a
literal than next to a placeholder. The template may go on right behind a token, in a word that
must not be a keyword (`KeywordBehindToken`). And what ends in blanks is trimmed, which shows only
where a list without members is the upper bound of a range (`Fragment.Ends.inline`).
-/

namespace FilterSql

open Text

/-! ## The end of a clause with its values -/

namespace Text

/-- Whether a text ends in a character that is not blank, or in the word between two bounds. -/
def EndsInBound (cs : List Char) : Prop :=
  EndsSolid cs ∨ ∃ before, cs = before ++ " AND ".toList

/-- A text without blanks does not end in one. -/
theorem endsSolid_of_forall {cs : List Char} (h : ∀ c ∈ cs, isBlank c = false) :
    cs = [] ∨ EndsSolid cs := by
  cases hlast : cs.getLast? with
  | none => exact .inl (List.getLast?_eq_none_iff.mp hlast)
  | some c => exact .inr (by simp [EndsSolid, hlast, h c (List.mem_of_getLast? hlast)])

theorem isBlank_of_isNumeric {c : Char} (h : isNumeric c) : isBlank c = false := by
  simp only [isNumeric, Bool.or_eq_true, beq_iff_eq] at h
  rcases h with (h | rfl) | rfl
  · exact isBlank_of_isDigit h
  · decide
  · decide

theorem endsSolid_enclose (cs : List Char) : EndsSolid (enclose '\'' cs) := by
  have hquote : EndsSolid ['\''] := by decide
  exact hquote.append ('\'' :: double '\'' cs)

theorem endsSolid_intercalate {texts : List String}
    (h : ∀ s ∈ texts, s.toList = [] ∨ EndsSolid s.toList) :
    (String.intercalate "," texts).toList = [] ∨
      EndsSolid (String.intercalate "," texts).toList := by
  induction texts with
  | nil => exact .inl rfl
  | cons s ss ih =>
    obtain ⟨hs, hss⟩ := List.forall_mem_cons.mp h
    cases ss with
    | nil => simpa using hs
    | cons t ts =>
      have hcomma : EndsSolid ",".toList := by decide
      rw [String.intercalate_cons_cons, String.toList_append, String.toList_append]
      rcases ih hss with hrest | hrest
      · rw [hrest, List.append_nil]
        exact .inr (hcomma.append _)
      · exact .inr (hrest.append _)

end Text

theorem endsSolid_quoteString (s : String) : EndsSolid (quoteString s).toList := by
  rw [quoteString, String.toList_ofList]
  exact endsSolid_enclose s.toList

theorem Dialect.endsSolid_dateLiteral (d : Dialect) (s : String) :
    EndsSolid (d.dateLiteral (quoteString s)).toList := by
  cases d with
  | postgres =>
    rw [dateLiteral, String.toList_append]
    exact (endsSolid_quoteString s).append "TIMESTAMP ".toList
  | oracle =>
    have hclosed : EndsSolid ", 'YYYY-MM-DD HH24:MI:SS')".toList := by decide
    rw [dateLiteral, String.toList_append]
    exact hclosed.append ("TO_DATE(" ++ quoteString s).toList

/-- A literal does not end in a blank; that of a list without members is empty. -/
theorem Value.endsSolid_literal (d : Dialect) : ∀ v : Value,
    (v.literal d).toList = [] ∨ EndsSolid (v.literal d).toList
  | .null => .inr (by decide : EndsSolid "NULL".toList)
  | .bool b => .inr (by cases d <;> cases b <;> decide)
  | .int _ =>
    endsSolid_of_forall fun _ hc => isBlank_of_isNumeric (isNumeric_of_mem_toString_int hc)
  | .float x => by
    have hwords : ∀ w ∈ ["NaN", "inf", "-inf"], EndsSolid w.toList := by decide
    rcases text_binary_cases x with hx | hx
    · exact endsSolid_of_forall fun c hc => isBlank_of_isNumeric (hx c hc)
    · exact .inr (hwords _ hx)
  | .text s => .inr (endsSolid_quoteString s)
  | .json document => .inr (endsSolid_quoteString document.compact)
  | .dateTime t => .inr (d.endsSolid_dateLiteral t.text)
  | .array items => by
    rw [literal, literals_eq_map]
    refine endsSolid_intercalate fun s hs => ?_
    obtain ⟨v, hv, rfl⟩ := List.mem_map.mp hs
    exact endsSolid_literal d v
  | .deferred v => by
    have hv := endsSolid_literal d v
    cases v with
    | deferred _ => exact .inr (by decide : EndsSolid "NULL".toList)
    | _ => exact hv

/-- With its values in the text a fragment ends in a blank only where the literal of a last bound is
empty. -/
theorem Fragment.Ends.inline {f : Fragment} (h : f.Ends) (d : Dialect) (n : Nat) :
    EndsInBound (f.sql d .inline n).toList := by
  have hvalue : ∀ (g : Fragment) (s : String) (v : Value),
      ((g ++ .text s :: bind v).sql d .inline n).toList =
        (g.sql d .inline n).toList ++ (s.toList ++ (v.resolve.literal d).toList) := by
    intro g s v
    simp [sql_append, bind, sql]
  cases h with
  | text f h =>
    rw [sql_append, String.toList_append, sql, sql, String.append_empty]
    exact .inl (h.append _)
  | value f h v =>
    rw [hvalue]
    rcases v.resolve.endsSolid_literal d with hliteral | hliteral
    · rw [hliteral, List.append_nil]
      exact .inl (h.append _)
    · exact .inl ((hliteral.append _).append _)
  | term f s =>
    have htext : ((f ++ bind (.text s)).sql d .inline n).toList =
        (f.sql d .inline n).toList ++ (quoteString s).toList := by
      simp [sql_append, bind, sql, Value.resolve, Value.literal]
    rw [htext]
    exact .inl ((endsSolid_quoteString s).append _)
  | bound f v =>
    rw [hvalue]
    rcases v.resolve.endsSolid_literal d with hliteral | hliteral
    · rw [hliteral, List.append_nil]
      exact .inr ⟨_, rfl⟩
    · exact .inl ((hliteral.append _).append _)

/-! ## The text behind a clause -/

namespace WriteScan

open Template

/-- Whether a text starts with a keyword, however it goes on. -/
def StartsKeyword (cs : List Char) : Prop :=
  ∃ k ∈ keywords, (stripWord? k cs).isSome

instance (cs : List Char) : Decidable (StartsKeyword cs) :=
  inferInstanceAs (Decidable (∃ k ∈ keywords, _ = true))

theorem StartsKeyword.append {cs : List Char} (h : StartsKeyword cs) (rest : List Char) :
    StartsKeyword (cs ++ rest) := by
  obtain ⟨k, hk, hsome⟩ := h
  obtain ⟨left, hleft⟩ := Option.isSome_iff_exists.mp hsome
  obtain ⟨w, hw, rfl⟩ := stripWord?_eq_some_iff.mp hleft
  have hstrip : stripWord? k (w ++ left ++ rest) = some (left ++ rest) :=
    stripWord?_eq_some_iff.mpr ⟨w, hw, List.append_assoc ..⟩
  exact ⟨k, hk, by rw [hstrip]; rfl⟩

/-- A text that does not start with a keyword is scanned alike after a word and after anything else,
if it goes on with a character that is in no keyword. -/
theorem fresh_append {cs rest : List Char} (h : ¬StartsKeyword cs)
    (hrest : rest.head?.all isForeign) : Fresh (cs ++ rest) := by
  cases cs with
  | nil =>
    cases rest with
    | nil => exact fresh_nil
    | cons r rest => exact fresh_cons (isLate_of_isForeign (by simpa using hrest)) rest
  | cons c cs =>
    have hstrip : ∀ k ∈ keywords, stripWord? k (c :: cs ++ rest) = none := by
      intro k hk
      have hnone : stripWord? k (c :: cs) = none := by
        rw [← Option.not_isSome_iff_eq_none]
        exact fun hsome => h ⟨k, hk, hsome⟩
      cases rest with
      | nil => rw [List.append_nil, hnone]
      | cons r rest =>
        have hforeign : r.toLower ∉ k := by
          have hr : isForeign r := by simpa using hrest
          simpa using List.all_eq_true.mp hr k hk
        rw [stripWord?_append_cons hforeign, hnone, Option.map_none]
    have hstart : startsWrite (c :: cs ++ rest) = false := by
      rw [Bool.eq_false_iff, Ne, startsWrite_iff]
      rintro ⟨k, hk, hgap⟩
      rw [hstrip k hk] at hgap
      exact absurd hgap (by decide)
    rw [List.cons_append] at hstart ⊢
    rw [Fresh, scan, scan, hstart, Bool.and_false, Bool.and_false]

end WriteScan

namespace Template

open WriteScan

/-- Whether a keyword stands right behind a place of a template. -/
def KeywordBehindToken (template : List Char) : Prop :=
  ∃ t ∈ (split (parts template)).2, StartsKeyword t

/-- In a frame no keyword stands right behind a clause where none does behind a token. -/
theorem not_startsKeyword_frame {template : List Char} (h : ¬KeywordBehindToken template) :
    ∀ t ∈ (frame template).2, ¬StartsKeyword t := by
  intro t ht hstart
  unfold frame at ht
  split at ht
  · obtain ⟨u, hu, rest, rfl⟩ := exists_prefix_of_mem_trimLast ht
    exact h ⟨_, hu, hstart.append rest⟩
  · obtain rfl := List.mem_singleton.mp ht
    exact absurd hstart (by decide)

theorem frame_ne_nil (template : List Char) : (frame template).2 ≠ [] := by
  rw [← List.length_pos_iff, length_frame]
  exact Nat.le_max_left ..

theorem trimLast_concat (ts : List (List Char)) (t : List Char) :
    trimLast (ts ++ [t]) = ts ++ [trimEnd t] := by
  induction ts with
  | nil => rfl
  | cons u us ih =>
    cases us with
    | nil => rfl
    | cons v vs => exact congrArg (u :: ·) ih

theorem trimEnd_cons_blank (cs : List Char) :
    trimEnd (' ' :: cs) = if (trimEnd cs).isEmpty then [] else ' ' :: trimEnd cs := by
  have hblank : isBlank ' ' := by decide
  unfold trimEnd
  rw [List.reverse_cons, List.dropWhile_append]
  cases cs.reverse.dropWhile isBlank with
  | nil => simp [hblank]
  | cons c rest => simp

/-- For the scan, trimming what ends in clauses, each with a text after it, comes down to trimming
the last, also where the clause ends in a blank. -/
theorem scan_trimEnd {clause after : List Char} (hclause : EndsInBound clause)
    (hafter : Fresh after) {rest : List (List Char)} (hrest : rest ≠ []) (before : List Char) :
    scan false (trimEnd (before ++ rest.flatMap (clause ++ ·)) ++ after) =
      scan false (before ++ ((trimLast rest).flatMap (clause ++ ·) ++ after)) := by
  rcases hclause with hclause | ⟨start, rfl⟩
  · rw [trimEnd_flatMap hclause before hrest, List.append_assoc]
  · -- Only the blank after the word can be trimmed, and the word is in no write either way.
    obtain ⟨ts, t, rfl⟩ : ∃ ts t, rest = ts ++ [t] := by
      simpa [hrest] using List.eq_nil_or_concat rest
    let first := before ++ ts.flatMap (start ++ " AND ".toList ++ ·) ++ start
    have hsolid : EndsSolid (first ++ " AND".toList) :=
      (by decide : EndsSolid " AND".toList).append first
    have hcopies : before ++ (ts ++ [t]).flatMap (start ++ " AND ".toList ++ ·) =
        first ++ " AND".toList ++ ' ' :: t := by
      simp [first]
    have hkept : before ++ ((ts ++ [trimEnd t]).flatMap (start ++ " AND ".toList ++ ·) ++ after) =
        first ++ " AND".toList ++ (' ' :: (trimEnd t ++ after)) := by
      simp [first]
    have hword : ∀ {tail : List Char}, Fresh tail →
        scan false (first ++ " AND".toList ++ tail) =
          (scan false (first ++ [' ']) || scan false tail) := by
      intro tail htail
      have hscan := scan_append_blank false first ("AND".toList ++ tail)
      rw [scan_append_word (by decide) (List.all_eq_true.mp (by decide)) htail] at hscan
      simpa using hscan
    have hblank : isLate ' ' := by decide
    rw [trimLast_concat, hcopies, hkept, trimEnd_append hsolid, trimEnd_cons_blank]
    by_cases hempty : trimEnd t = []
    · rw [hempty, List.isEmpty_nil, if_pos rfl, List.append_nil, List.nil_append, hword hafter,
        hword (fresh_cons hblank after), scan_cons_of_isLate hblank]
      rfl
    · rw [if_neg (by simpa using hempty), List.append_assoc, List.cons_append]

/-- A template with a clause is scanned like the frame with the clause in its places. -/
theorem scan_fillChars (template : List Char) {clause after : List Char}
    (hclause : EndsInBound (trimStart clause)) (hafter : Fresh after) :
    scan false (fillChars template clause ++ after) =
      scan false ((frame template).1 ++
        ((frame template).2.flatMap (trimStart clause ++ ·) ++ after)) := by
  have hne : trimStart clause ≠ [] := by
    rcases hclause with hsolid | ⟨start, hstart⟩
    · exact hsolid.ne_nil
    · rw [hstart]
      simp
  have hempty : (trimStart clause).isEmpty = false := by simpa using hne
  unfold fillChars frame
  simp only
  split
  · rename_i hslot
    have hrest : (split (parts template)).2 ≠ [] := by
      rw [← List.length_pos_iff, length_split]
      exact List.count_pos_iff.mpr (List.contains_iff_mem.mp hslot)
    rw [assemble_eq hne, List.nil_append, scan_trimEnd hclause hafter hrest]
  · rw [if_neg (by simp [hempty])]
    simp

/-- Copies of a clause with its values are scanned like as many of it with placeholders, and the
values on top, if no text between the copies starts with a keyword. -/
theorem scan_copies {clause clause' after : List Char} {shown : Bool}
    (hshow : ∀ (before : List Char) {rest : List Char}, Fresh rest →
      scan false (before ++ (clause ++ rest)) = (shown || scan false (before ++ (clause' ++ rest))))
    (hclause' : clause'.head?.any isForeign) (hafter : after.head?.all isForeign)
    {rest : List (List Char)} (hrest : ∀ t ∈ rest, ¬StartsKeyword t) (before : List Char) :
    scan false (before ++ (rest.flatMap (clause ++ ·) ++ after)) =
      ((!rest.isEmpty && shown) ||
        scan false (before ++ (rest.flatMap (clause' ++ ·) ++ after))) := by
  induction rest generalizing before with
  | nil => rfl
  | cons t ts ih =>
    obtain ⟨ht, hts⟩ := List.forall_mem_cons.mp hrest
    -- What comes after the text is the next copy, or the end.
    have hnext : (ts.flatMap (clause' ++ ·) ++ after).head?.all isForeign := by
      cases ts with
      | nil => exact hafter
      | cons u us =>
        obtain ⟨c, hc, hforeign⟩ := (Option.any_eq_true _ _).mp hclause'
        obtain ⟨cs, rfl⟩ := List.head?_eq_some_iff.mp hc
        simpa using hforeign
    -- The copies behind the first are exchanged before it.
    calc scan false (before ++ ((t :: ts).flatMap (clause ++ ·) ++ after))
        = scan false (before ++ clause ++ t ++ (ts.flatMap (clause ++ ·) ++ after)) := by
          simp
      _ = ((!ts.isEmpty && shown) ||
            scan false (before ++ clause ++ t ++ (ts.flatMap (clause' ++ ·) ++ after))) :=
          ih hts _
      _ = ((!ts.isEmpty && shown) ||
            scan false (before ++ (clause ++ (t ++ (ts.flatMap (clause' ++ ·) ++ after))))) := by
          simp
      _ = ((!ts.isEmpty && shown) || (shown ||
            scan false (before ++ (clause' ++ (t ++ (ts.flatMap (clause' ++ ·) ++ after)))))) := by
          rw [hshow before (fresh_append ht hnext)]
      _ = ((!(t :: ts).isEmpty && shown) ||
            scan false (before ++ ((t :: ts).flatMap (clause' ++ ·) ++ after))) := by
          cases shown <;> simp

end Template

/-! ## Raw queries -/

open WriteScan

/-- An order and a page are empty or start with a blank. -/
theorem isForeign_orderAndPage (names : Names) (tokens : List String) (d : Dialect)
    (take skip : Option Nat) :
    (names.order tokens ++ d.page take skip).toList.head?.all isForeign := by
  have hblank : isForeign ' ' := by decide
  obtain ⟨words, hpage, -, -⟩ := exists_words_page d take skip
  rw [String.toList_append, hpage]
  cases tokens with
  | nil =>
    cases words with
    | nil => rfl
    | cons w ws => simp [Names.order, hblank]
  | cons t ts => simp [Names.order, hblank]

/-- With its values in the text a template has the writes that they hold and those that it has with
placeholders. -/
theorem Draft.isWrite_template {template : String}
    (hkeyword : ¬Template.KeywordBehindToken template.toList) (dialect : Dialect)
    (params : List Value) (column : String → String) (cs : List Condition) {after : String}
    (hafter : after.toList.head?.all isForeign) :
    isWrite ((Draft.template template params (Condition.filterFragment column cs)).text dialect
        .inline ++ after) =
      ((Condition.boundAll cs).any Value.holdsWrite ||
        isWrite ((Draft.template template params (Condition.filterFragment column cs)).text dialect
          .parameterized ++ after)) := by
  cases hclause : Condition.clauseFragment? column cs with
  | none =>
    rw [Condition.boundAll_of_clauseFragment?_eq_none hclause, Draft.text, Draft.text,
      Condition.filterFragment_of_clauseFragment?_eq_none hclause]
    rfl
  | some f =>
    have hends := Condition.ends_clauseFragment? hclause
    have hshow := Condition.showsValues_clauseFragment? hclause dialect params.length params.length
    have hvalues := Condition.values_clauseFragment? hclause
    obtain ⟨g, rfl, hfilter⟩ := Condition.exists_of_clauseFragment? hclause
    let clause (mode : BindMode) : List Char :=
      (Fragment.sql dialect mode params.length (.text "WHERE " :: g)).toList
    -- Trimming takes away the blank before the clause, and no more.
    have htrim : ∀ mode, trimStart
        (Fragment.sql dialect mode params.length (.text " WHERE " :: g)).toList = clause mode := by
      intro mode
      simp only [clause]
      rw [Fragment.sql, Fragment.sql, String.toList_append, String.toList_append]
      rfl
    have hbound : ∀ mode, EndsInBound (clause mode) := by
      intro mode
      cases mode with
      | parameterized => exact .inl (hends.endsSolid dialect params.length)
      | inline => exact hends.inline dialect params.length
    have hfirst : (clause .parameterized).head?.any isForeign := by
      simp only [clause]
      have hforeign : isForeign 'W' := by decide
      simp [Fragment.sql, hforeign]
    have hfresh : Fresh after.toList := by
      simpa using fresh_append (by decide : ¬StartsKeyword []) hafter
    have hnonempty := List.isEmpty_eq_false_iff.mpr (Template.frame_ne_nil template.toList)
    -- Either way the template is scanned like its frame with the clause in it.
    have hscan : ∀ mode, isWrite ((Draft.template template params
          (Condition.filterFragment column cs)).text dialect mode ++ after) =
        scan false ((Template.frame template.toList).1 ++
          ((Template.frame template.toList).2.flatMap (clause mode ++ ·) ++ after.toList)) := by
      intro mode
      have hfill := Template.scan_fillChars template.toList
        (by rw [htrim]; exact hbound mode) hfresh
      rw [htrim] at hfill
      rw [isWrite, Draft.text, hfilter, Template.fill, String.toList_append, String.toList_ofList,
        hfill]
    rw [hscan, hscan, Template.scan_copies hshow hfirst hafter
      (Template.not_startsKeyword_frame hkeyword), hnonempty, hvalues]
    rfl

/-- A raw query with its values in the text writes when it does with placeholders, and when one of
its values holds a write. -/
theorem Descriptor.kind_queryPlan {template : String}
    (hkeyword : ¬Template.KeywordBehindToken template.toList) (names : Names) (d : Descriptor)
    (dialect : Dialect) :
    ((d.queryPlan names template).statement dialect .inline).kind = .write ↔
      ((d.queryPlan names template).statement dialect .parameterized).kind = .write ∨
        ∃ v ∈ Condition.boundAll d.conditions, v.holdsWrite := by
  have hkind : ∀ mode, ((d.queryPlan names template).statement dialect mode).kind = .write ↔
      isWrite ((d.queryPlan names template).statement dialect mode).text := by
    intro mode
    have hscan : ∀ text, Plan.kind .query text = .write ↔ isWrite text := by
      intro text
      rw [Plan.kind]
      cases isWrite text <;> decide
    exact hscan _
  rw [hkind, hkind, text_queryPlan, text_queryPlan,
    Draft.isWrite_template hkeyword _ _ _ _ (isForeign_orderAndPage ..), Bool.or_eq_true,
    List.any_eq_true, or_comm]

namespace Settings

variable {settings : Settings} {d d' : Descriptor} {s s' : Session} {st : Statement}

/-- A raw query without parameters of its own has one plan, from which both its statement with
placeholders and the one with values in the text are made. -/
theorem compileUnder_query {names : Names} {mode : BindMode} (hparams : d.params = [])
    (h : (settings.withMode mode).compileUnder names d .query = .ok st) :
    ∃ template, d.query = some template ∧ ∀ mode',
      (settings.withMode mode').compileUnder names d .query =
        .ok ((d.queryPlan names template).statement settings.dialect mode') := by
  obtain ⟨r, hr, -⟩ := compileUnder_eq_ok h
  -- A request depends on the mode only where there are parameters.
  have hrequest : ∀ mode', d.request mode' .query = .ok r := by
    intro mode'
    rw [← hr]
    simp [Descriptor.request, hparams]
  obtain ⟨template, htemplate, rfl⟩ := Descriptor.request_eq_ok hr
  refine ⟨template, htemplate, fun mode' => ?_⟩
  simp only [compileUnder, withMode, hrequest, Except.bind] at h ⊢
  cases hplan : Condition.checked settings.strict ((Request.template template).unknown? d)
      (d.planUnder names .query (.template template)) with
  | error e => simp [hplan, Except.map] at h
  | ok plan =>
    obtain rfl := Condition.eq_of_checked_eq_ok hplan
    rfl

/-- Only a raw query without parameters of its own can have its values in the text. -/
theorem params_eq_nil_of_inline {names : Names}
    (h : (settings.withMode .inline).compileUnder names d .query = .ok st) : d.params = [] := by
  obtain ⟨r, hr, -⟩ := compileUnder_eq_ok h
  cases hparams : d.params with
  | nil => rfl
  | cons v vs => simp [Descriptor.request, withMode, hparams] at hr

/-- A raw query that has its values in the text writes when the query with placeholders in their
place does, and when one of them holds a write. So two queries that are the same without their
values are of one kind, unless the values of one hold a write and those of the other do not. No
keyword may stand right behind a token: after a quote it would count, and after a digit it would
not. -/
theorem kind_inline_query {template : String} (htemplate : d.query = some template)
    (hkeyword : ¬Template.KeywordBehindToken template.toList)
    (hsame : d.withoutValues = d'.withoutValues) (hs : s.cache = s'.cache)
    (h : ((settings.withMode .inline).compileAs d .query).outcome s = .ok st) :
    ∃ p st', ((settings.withMode .parameterized).compileAs d .query).outcome s = .ok p ∧
      ((settings.withMode .inline).compileAs d' .query).outcome s' = .ok st' ∧
      (st.kind = .write ↔
        p.kind = .write ∨ ∃ v ∈ Condition.boundAll d.conditions, v.holdsWrite) ∧
      (st'.kind = .write ↔
        p.kind = .write ∨ ∃ v ∈ Condition.boundAll d'.conditions, v.holdsWrite) ∧
      (st.kind = st'.kind ↔
        p.kind = .write ∨ ((∃ v ∈ Condition.boundAll d.conditions, v.holdsWrite) ↔
          ∃ v ∈ Condition.boundAll d'.conditions, v.holdsWrite)) := by
  have hlanguage : d.withoutValues.languageCode = d'.withoutValues.languageCode := by rw [hsame]
  let names := s.names d.languageCode
  have hnames : s'.names d'.languageCode = names :=
    (Session.names_of_cache hs.symm _).trans (congrArg s.names hlanguage.symm)
  have hvisible : ((settings.withMode .parameterized).compileUnder names d .query).map
      Statement.visible = ((settings.withMode .parameterized).compileUnder names d' .query).map
        Statement.visible := by
    rw [← visible_compileUnder rfl names d, hsame, visible_compileUnder rfl]
  rw [outcome_compileAs] at h
  have hparams := params_eq_nil_of_inline h
  have hparams' : d'.params = [] := by
    have hreplicate := congrArg (fun d : Descriptor => d.params.length) hsame
    simpa [Descriptor.withoutValues, hparams] using hreplicate.symm
  have htemplate' : d'.query = some template := by
    have hquery : d.withoutValues.query = d'.withoutValues.query := congrArg Descriptor.query hsame
    exact hquery.symm.trans htemplate
  obtain ⟨t, ht, hplan⟩ := compileUnder_query hparams h
  obtain rfl : template = t := Option.some.inj (htemplate.symm.trans ht)
  obtain rfl := Except.ok.inj ((hplan .inline).symm.trans h)
  have hp := hplan .parameterized
  -- The other query compiles with placeholders, where nothing of its values is seen.
  cases hp' : (settings.withMode .parameterized).compileUnder names d' .query with
  | error e =>
    rw [hp, hp'] at hvisible
    cases hvisible
  | ok p' =>
    obtain ⟨t', ht', hplan'⟩ := compileUnder_query hparams' hp'
    obtain rfl : template = t' := Option.some.inj (htemplate'.symm.trans ht')
    obtain rfl := Except.ok.inj ((hplan' .parameterized).symm.trans hp')
    rw [hp, hp'] at hvisible
    have hsees := congrArg (·.2.1) (Except.ok.inj hvisible)
    have hkind := Descriptor.kind_queryPlan hkeyword names d settings.dialect
    have hkind' := Descriptor.kind_queryPlan hkeyword names d' settings.dialect
    have hsame' : ∀ k k' : StatementKind, k = k' ↔ (k = .write ↔ k' = .write) := by
      intro k k'
      cases k <;> cases k' <;> decide
    simp only [Statement.visible] at hsees
    rw [← hsees] at hkind'
    refine ⟨_, _, ?_, ?_, hkind, hkind', ?_⟩
    · rw [outcome_compileAs, hp]
    · rw [outcome_compileAs, hnames, hplan' .inline]
    · rw [hsame', hkind, hkind']
      cases ((d.queryPlan names template).statement settings.dialect .parameterized).kind <;> simp

/-- The notes with a given text. -/
private def sampleNotes (body : String) : Descriptor where
  table := "notes"
  exec := .query
  query := some "SELECT * FROM notes \x7bwhere\x7d ORDER BY id"
  conditions := [.compare "body" .eq (.text body)]

private theorem keyword_sampleNotes :
    ¬Template.KeywordBehindToken "SELECT * FROM notes \x7bwhere\x7d ORDER BY id".toList := by
  have hsplit : (Template.split
      (Template.parts "SELECT * FROM notes \x7bwhere\x7d ORDER BY id".toList)).2 =
        [" ORDER BY id".toList] := by
    decide +kernel
  rw [Template.KeywordBehindToken, hsplit]
  decide

/-- A word at the end of a text is not that of a write, so that these queries are of one kind. -/
theorem kind_inline_query_notes :
    ∃ st st', ((withMode { dialect := .postgres } .inline).compileAs (sampleNotes "x")
        .query).outcome {} = .ok st ∧
      ((withMode { dialect := .postgres } .inline).compileAs (sampleNotes "it's an update")
        .query).outcome {} = .ok st' ∧
      st.kind = st'.kind := by
  obtain ⟨st, h⟩ : ∃ st, ((withMode { dialect := .postgres } .inline).compileAs (sampleNotes "x")
      .query).outcome {} = .ok st := by
    rw [outcome_compileAs]
    exact ⟨_, rfl⟩
  have hsame : (sampleNotes "x").withoutValues = (sampleNotes "it's an update").withoutValues := rfl
  have hcache : ({} : Session).cache = ({} : Session).cache := rfl
  have hvalues : (∃ v ∈ Condition.boundAll (sampleNotes "x").conditions, v.holdsWrite) ↔
      ∃ v ∈ Condition.boundAll (sampleNotes "it's an update").conditions, v.holdsWrite := by
    decide +kernel
  obtain ⟨p, st', -, h', -, -, hiff⟩ := kind_inline_query rfl keyword_sampleNotes hsame hcache h
  exact ⟨st, st', h, h', hiff.mpr (.inr hvalues)⟩

/-- The words of a note make a write of the query for it. -/
theorem not_kind_inline_query :
    (sampleNotes "x").withoutValues = (sampleNotes "please update me").withoutValues ∧
      ∃ st st', ((withMode { dialect := .postgres } .inline).compileAs (sampleNotes "x")
          .query).outcome {} = .ok st ∧
        ((withMode { dialect := .postgres } .inline).compileAs (sampleNotes "please update me")
          .query).outcome {} = .ok st' ∧
        st.kind = .read ∧ st'.kind = .write := by
  refine ⟨rfl, ?_⟩
  rw [outcome_compileAs, outcome_compileAs]
  refine ⟨_, _, rfl, rfl, ?_, ?_⟩
  · decide +kernel
  · decide +kernel

end Settings

end FilterSql
