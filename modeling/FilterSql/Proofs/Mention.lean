import FilterSql.Proofs.Fragment
import FilterSql.Proofs.History

/-!
# Where names stand in a statement

A descriptor mentions a column in a condition, as an aggregated or returned column
(`Mention.column`), in a select list or in an order, and the SQL of a mention is all that the
language of the descriptor does to a statement. The text of a statement is a `Layout`, text with
mentions in it, in which the SQL of each mention is put in its place (`Settings.exists_layout`).
The layout does not depend on the language, and its mentions are those of the request, of the order
and of the returned columns.

What is put together from laid out parts is laid out (`IsLaid`), and so is the text of a fragment
that is drawn with mentions (`Drawn`): of each test, and by induction of each filter
(`Condition.drawn_filterFragment`). A raw query has its filter in a template, so that there the
layout is that of the filter.
-/

namespace FilterSql

/-- A column as a descriptor names it, in one of the places that it can be named in. -/
inductive Mention where
  | column (name : String)
  /-- A column of a select list. -/
  | field (name : String)
  /-- A column in an order, with its direction. -/
  | sort (token : String)
  deriving DecidableEq, Repr

/-- The SQL of a mention. -/
def Mention.sql (language : String) : Mention → String
  | column name => Column.resolve language name
  | field name => Column.field language name
  | sort token => Column.sortKey language token

/-- SQL for each mention. -/
abbrev Spelling := Mention → String

/-- Names with the SQL of their mentions. -/
def Names.spelled (s : Spelling) : Names where
  column name := s (.column name)
  fieldList names := String.intercalate "," (names.map fun name => s (.field name))
  sortList tokens := String.intercalate "," (tokens.map fun token => s (.sort token))

theorem Names.spelled_sql (language : String) : spelled (Mention.sql language) = plain language :=
  rfl

/-! ## Layouts -/

/-- A part of a layout. -/
inductive Chunk where
  | text (s : String)
  | mention (m : Mention)

/-- Text in which columns are mentioned. -/
abbrev Layout := List Chunk

namespace Layout

/-- The text of a layout, with the SQL of each mention in its place. -/
def render (s : Spelling) : Layout → String
  | [] => ""
  | .text t :: L => t ++ render s L
  | .mention m :: L => s m ++ render s L

/-- The mentions of a layout, in order. -/
def mentions : Layout → List Mention
  | [] => []
  | .text _ :: L => mentions L
  | .mention m :: L => m :: mentions L

theorem render_append (s : Spelling) (L L' : Layout) :
    render s (L ++ L') = render s L ++ render s L' := by
  induction L with
  | nil => simp [render]
  | cons c L ih => cases c <;> simp [render, ih, String.append_assoc]

theorem mentions_append (L L' : Layout) : mentions (L ++ L') = mentions L ++ mentions L' := by
  induction L with
  | nil => rfl
  | cons c L ih => cases c <;> simp [mentions, ih]

end Layout

/-- Whether a text is that of a layout with these mentions. -/
def IsLaid (text : Spelling → String) (ms : List Mention) : Prop :=
  ∃ L : Layout, L.mentions = ms ∧ ∀ s, text s = L.render s

namespace IsLaid

variable {t t' : Spelling → String} {ms ms' : List Mention}

theorem const (text : String) : IsLaid (fun _ => text) [] :=
  ⟨[.text text], rfl, fun s => by simp [Layout.render]⟩

theorem mention (m : Mention) : IsLaid (fun s => s m) [m] :=
  ⟨[.mention m], rfl, fun s => by simp [Layout.render]⟩

theorem append (h : IsLaid t ms) (h' : IsLaid t' ms') :
    IsLaid (fun s => t s ++ t' s) (ms ++ ms') := by
  obtain ⟨L, rfl, hL⟩ := h
  obtain ⟨L', rfl, hL'⟩ := h'
  refine ⟨L ++ L', L.mentions_append L', fun s => ?_⟩
  simp only [hL, hL', Layout.render_append]

/-- A text after what is laid out mentions nothing. -/
theorem before (h : IsLaid t ms) (text : String) : IsLaid (fun s => t s ++ text) ms := by
  simpa using h.append (const text)

/-- A text before what is laid out mentions nothing. -/
theorem after (text : String) (h : IsLaid t ms) : IsLaid (fun s => text ++ t s) ms :=
  (const text).append h

/-- Mentions are laid out with text between them. -/
theorem list {α : Type} (separator : String) (mention : α → Mention) (as : List α) :
    IsLaid (fun s => String.intercalate separator (as.map fun a => s (mention a)))
      (as.map mention) := by
  induction as with
  | nil => simpa using const ""
  | cons a as ih =>
    cases as with
    | nil => simpa using IsLaid.mention (mention a)
    | cons b bs =>
      have hrest := ((IsLaid.mention (mention a)).append (const separator)).append ih
      simpa [String.intercalate_cons_cons] using hrest

end IsLaid

/-! ## Fragments -/

/-- Whether the text of a fragment is laid out with these mentions, among values that do not depend
on the SQL of any mention. -/
structure Drawn (fragment : Spelling → Fragment) (ms : List Mention) : Prop where
  isLaid : ∀ d mode n, IsLaid (fun s => (fragment s).sql d mode n) ms
  values : ∃ vs, ∀ s, (fragment s).values = vs

namespace Drawn

variable {f g : Spelling → Fragment} {ms ms' : List Mention} {t : Spelling → String}

theorem const (f : Fragment) : Drawn (fun _ => f) [] :=
  ⟨fun _ _ _ => .const _, _, fun _ => rfl⟩

theorem text (h : IsLaid t ms) : Drawn (fun s => [.text (t s)]) ms :=
  ⟨fun d mode n => by simpa [Fragment.sql] using h, [], fun _ => rfl⟩

/-- The parameters of a drawn fragment do not depend on the SQL of any mention. -/
theorem params (h : Drawn f ms) (mode : BindMode) : ∃ vs, ∀ s, (f s).params mode = vs := by
  cases mode with
  | parameterized => exact h.values
  | inline => exact ⟨[], fun _ => rfl⟩

theorem append (hf : Drawn f ms) (hg : Drawn g ms') : Drawn (fun s => f s ++ g s) (ms ++ ms') := by
  refine ⟨fun d mode n => ?_, ?_⟩
  · obtain ⟨vs, hvs⟩ := hf.params mode
    simp only [Fragment.sql_append, hvs]
    exact (hf.isLaid d mode n).append (hg.isLaid d mode _)
  · obtain ⟨vs, hvs⟩ := hf.values
    obtain ⟨ws, hws⟩ := hg.values
    exact ⟨vs ++ ws, fun s => by rw [Fragment.values_append, hvs, hws]⟩

theorem cons (ht : IsLaid t ms) (hf : Drawn f ms') :
    Drawn (fun s => .text (t s) :: f s) (ms ++ ms') :=
  (Drawn.text ht).append hf

/-- A text before what is drawn. -/
theorem after (before : String) (hf : Drawn f ms) : Drawn (fun s => .text before :: f s) ms :=
  cons (.const before) hf

end Drawn

/-- Whether fragments are drawn, with these mentions in all. -/
inductive DrawnAll : List (Spelling → Fragment) → List Mention → Prop
  | nil : DrawnAll [] []
  | cons {f : Spelling → Fragment} {fs : List (Spelling → Fragment)} {ms ms' : List Mention}
      (head : Drawn f ms) (tail : DrawnAll fs ms') : DrawnAll (f :: fs) (ms ++ ms')

namespace DrawnAll

variable {fs gs : List (Spelling → Fragment)} {ms ms' : List Mention}

theorem append (hf : DrawnAll fs ms) (hg : DrawnAll gs ms') :
    DrawnAll (fs ++ gs) (ms ++ ms') := by
  induction hf with
  | nil => exact hg
  | cons head tail ih =>
    rw [List.append_assoc]
    exact .cons head ih

/-- Drawn fragments with text between them are drawn. -/
theorem join (separator : String) (h : DrawnAll fs ms) :
    Drawn (fun s => Fragment.join separator (fs.map (· s))) ms := by
  induction h with
  | nil => exact .const []
  | cons head tail ih =>
    cases tail with
    | nil => simpa [Fragment.join] using head
    | cons head' tail' => exact head.append (ih.after separator)

end DrawnAll

/-! ## Filters -/

namespace Condition

mutual

/-- What a condition mentions, in the order of its SQL. -/
def mentions : Condition → List Mention
  | compare name .. | among name _ | notAmong name _ | between name .. | search name ..
  | filled name | datePart _ name .. => [.column name]
  | blank name => [.column name, .column name]
  | permit name _ required owner =>
    (if (owner.filter (!·.isNull)).isSome then [.column ownerColumn] else []) ++
      (if required then [.column name] else []) ++ [.column name]
  | any conditions => mentionsAll conditions
  | raw _ | unknown _ => []

/-- What conditions mention. -/
def mentionsAll : List Condition → List Mention
  | [] => []
  | c :: cs => mentions c ++ mentionsAll cs

end

/-- The SQL of a test is drawn with its mentions. -/
theorem drawn_test {c : Condition} (h : c.isTest) :
    ∃ t : Spelling → Test, (∀ s, c.test? (Names.spelled s).column = some (t s)) ∧
      Drawn (fun s => (t s).fragment) c.mentions := by
  have hcolumn : ∀ name, IsLaid (fun s => s (.column name)) [.column name] :=
    fun name => .mention (.column name)
  have hmembership : ∀ name operator values, Drawn
      (fun s => Test.membership (s (.column name)) operator values) [.column name] :=
    fun name operator values =>
      .cons (((hcolumn name).before operator).before "(") (.const _)
  cases c with
  | compare name comparer value =>
    refine ⟨_, fun s => rfl, ?_⟩
    unfold comparisonTest
    by_cases hnull : value.resolve.isNull
    · by_cases hcomparer : comparer = .eq
      · simp only [hnull, hcomparer, if_true]
        exact .text ((hcolumn name).before " IS NULL")
      · simp only [hnull, hcomparer, if_true, if_false]
        exact .text ((hcolumn name).before " IS NOT NULL")
    · simp only [hnull, Bool.false_eq_true, if_false]
      exact .cons ((hcolumn name).before comparer.sql) (.const _)
  | among name values => exact ⟨_, fun s => rfl, hmembership name " IN " values⟩
  | notAmong name values => exact ⟨_, fun s => rfl, hmembership name " NOT IN " values⟩
  | between name low high =>
    exact ⟨_, fun s => rfl, .cons ((hcolumn name).before " BETWEEN ") (.const _)⟩
  | search name term anchor =>
    exact ⟨_, fun s => rfl, .cons (((hcolumn name).after "UPPER(").before ") LIKE ") (.const _)⟩
  | blank name =>
    have hfirst := ((hcolumn name).after "(").before " IS NULL OR LENGTH("
    exact ⟨_, fun s => rfl, .text ((hfirst.append (hcolumn name)).before ")=0)")⟩
  | filled name => exact ⟨_, fun s => rfl, .text (((hcolumn name).after "LENGTH(").before ")>0")⟩
  | datePart part name comparer value =>
    have hpart := ((hcolumn name).after ("EXTRACT(" ++ part.sql ++ " FROM ")).before ")"
    exact ⟨_, fun s => rfl, .cons (hpart.before comparer.sql) (.const _)⟩
  | permit name values required owner =>
    have hlist := hmembership name " IN " values
    have hnull : Drawn (fun s => [.text (s (.column name) ++ " IS NULL")]) [.column name] :=
      .text ((hcolumn name).before " IS NULL")
    have howner : ∀ v : Value, Drawn
        (fun s => .text (s (.column ownerColumn) ++ "=") :: Fragment.bind v)
        [.column ownerColumn] :=
      fun v => .cons ((hcolumn ownerColumn).before "=") (.const _)
    have hclosing : Drawn (fun _ => [.text ")"]) [] := .const _
    refine ⟨_, fun s => rfl, ?_⟩
    -- Several ways stand in parentheses with OR between them, a single one alone.
    cases hfilter : owner.filter (!·.isNull) with
    | none =>
      cases required with
      | false =>
        simp only [mentions, hfilter]
        exact hlist
      | true =>
        simp only [mentions, hfilter]
        exact .after "(" ((DrawnAll.join " OR " (.cons hnull (.cons hlist .nil))).append hclosing)
    | some v =>
      cases required with
      | false =>
        simp only [mentions, hfilter]
        exact .after "("
          ((DrawnAll.join " OR " (.cons (howner v) (.cons hlist .nil))).append hclosing)
      | true =>
        simp only [mentions, hfilter]
        exact .after "(" ((DrawnAll.join " OR "
          (.cons (howner v) (.cons hnull (.cons hlist .nil)))).append hclosing)
  | raw sql => exact ⟨_, fun s => rfl, .const _⟩
  | any _ | unknown _ => exact absurd h Bool.false_ne_true

/-- What conditions emit is drawn with their mentions. -/
theorem drawn_fragment? :
    (∀ c, ∃ fs : List (Spelling → Fragment), DrawnAll fs (mentions c) ∧
      ∀ s, (c.fragment? (Names.spelled s).column).toList = fs.map (· s)) ∧
    ∀ cs, ∃ fs : List (Spelling → Fragment), DrawnAll fs (mentionsAll cs) ∧
      ∀ s, cs.filterMap (fragment? (Names.spelled s).column) = fs.map (· s) := by
  apply induction_both
  case test =>
    intro c hc
    obtain ⟨t, ht, hdrawn⟩ := drawn_test hc
    refine ⟨[_], by simpa using DrawnAll.cons hdrawn .nil, fun s => ?_⟩
    rw [fragment?_of_isTest _ hc, ht]
    rfl
  case unknown => exact fun kind => ⟨[], .nil, fun s => rfl⟩
  case any =>
    rintro cs ⟨fs, hdrawn, hfs⟩
    simp only [fragment?_any, hfs, mentions]
    generalize mentionsAll cs = ms at hdrawn
    cases hdrawn with
    | nil => exact ⟨[], .nil, fun s => rfl⟩
    | cons head tail =>
      have hgroup := ((DrawnAll.cons head tail).join " OR ").append (.const [.text ")"])
      exact ⟨[_], by simpa using DrawnAll.cons (hgroup.after "(") .nil, fun s => rfl⟩
  case nil => exact ⟨[], .nil, fun s => rfl⟩
  case cons =>
    rintro c cs ⟨fs, hdrawn, hfs⟩ ⟨gs, hdrawn', hgs⟩
    refine ⟨fs ++ gs, hdrawn.append hdrawn', fun s => ?_⟩
    rw [List.map_append, ← hfs s, ← hgs s, List.filterMap_cons]
    cases c.fragment? (Names.spelled s).column <;> rfl

/-- A filter is drawn with the mentions of its conditions. -/
theorem drawn_filterFragment (cs : List Condition) :
    Drawn (fun s => filterFragment (Names.spelled s).column cs) (mentionsAll cs) := by
  obtain ⟨fs, hdrawn, hfs⟩ := drawn_fragment?.2 cs
  simp only [filterFragment_eq, hfs]
  generalize mentionsAll cs = ms at hdrawn
  cases hdrawn with
  | nil => exact .const []
  | cons head tail => exact ((DrawnAll.cons head tail).join " AND ").after " WHERE "

end Condition

/-! ## Statements -/

namespace Names

theorem isLaid_selectList (fields : List String) :
    IsLaid (fun s => (spelled s).selectList fields) (fields.map .field) := by
  cases fields with
  | nil => exact .const "*"
  | cons f fs => exact .list "," .field (f :: fs)

theorem isLaid_operand (key : Option String) :
    IsLaid (fun s => (spelled s).operand key) (key.toList.map .column) := by
  cases key with
  | none => exact .const "1"
  | some key => exact .mention (.column key)

theorem isLaid_order (tokens : List String) :
    IsLaid (fun s => (spelled s).order tokens) (tokens.map .sort) := by
  cases tokens with
  | nil => exact .const ""
  | cons t ts => exact (IsLaid.list "," .sort (t :: ts)).after " ORDER BY "

end Names

theorem Dialect.isLaid_returningAfter (dialect : Dialect) (n : Nat) (columns : List String) :
    IsLaid (fun s => dialect.returningAfter n (columns.map (Names.spelled s).column))
      (columns.map .column) := by
  cases columns with
  | nil => exact .const ""
  | cons c cs =>
    have hlist := IsLaid.list "," Mention.column (c :: cs)
    cases dialect with
    | postgres => exact hlist.after " RETURNING "
    | oracle =>
      let outs := (List.range' (n + 1) (c :: cs).length).map oracle.placeholder
      have hcolumns := (hlist.after " RETURNING ").before " INTO "
      have hinto := hcolumns.before (String.intercalate "," outs)
      simpa [returningAfter, bindsReturned, returning, Names.spelled, outs] using hinto

namespace Request

variable (d : Descriptor) (r : Request)

/-- What the statement of a request mentions. -/
def mentions : List Mention :=
  match r with
  | select fields => fields.map .field ++ Condition.mentionsAll d.conditions
  | aggregate _ key => key.toList.map .column ++ Condition.mentionsAll d.conditions
  | group key sum =>
    .column key :: sum.toList.map .column ++ Condition.mentionsAll d.conditions ++ [.column key]
  | count | update _ | remove | template _ => Condition.mentionsAll d.conditions
  | insert _ | drop | truncate => []

/-- The draft of a request from its fragment, which for a raw query is that of the filter. -/
def draftOf (f : Fragment) : Draft :=
  match r with
  | template text => .template text d.params f
  | _ => .direct f

/-- The text of a request from that of its fragment: a raw query has the filter in its template. -/
def place (t : String) : String :=
  match r with
  | template text => Template.fill text t
  | _ => t

/-- The values that a raw query brings with it. -/
def ownParams : List Value :=
  match r with
  | template _ => d.params.map Value.resolve
  | _ => []

theorem text_draftOf (f : Fragment) (dialect : Dialect) (mode : BindMode) :
    (r.draftOf d f).text dialect mode =
      r.place (f.sql dialect mode (r.ownParams d).length) := by
  cases r with
  | template text => rw [ownParams, List.length_map, draftOf, Draft.text, place]
  | _ => rfl

theorem inputs_draftOf (f : Fragment) (mode : BindMode) :
    (r.draftOf d f).inputs mode = r.ownParams d ++ f.params mode := by
  cases r <;> rfl

/-- A request is drafted from a fragment that is drawn with its mentions. -/
theorem exists_drawn :
    ∃ f, Drawn f (r.mentions d) ∧ ∀ s, r.draftUnder (Names.spelled s) d = r.draftOf d (f s) := by
  have hfilter := Condition.drawn_filterFragment d.conditions
  cases r with
  | select fields =>
    have hlist := ((Names.isLaid_selectList fields).after "SELECT ").before " FROM "
    exact ⟨_, .cons (hlist.before d.qualifiedTable) hfilter, fun s => rfl⟩
  | count | remove => exact ⟨_, hfilter.after _, fun s => rfl⟩
  | insert assignments => exact ⟨_, .const _, fun s => rfl⟩
  | update assignments =>
    have hassigned := (Drawn.const (Fragment.join "," (assignments.map Assignment.fragment)))
    exact ⟨_, (hassigned.append hfilter).after _, fun s => rfl⟩
  | drop | truncate => exact ⟨_, .const _, fun s => rfl⟩
  | aggregate function key =>
    have hoperand := (Names.isLaid_operand key).after ("SELECT " ++ function.sql ++ "(")
    exact ⟨_, .cons ((hoperand.before ") AS VALUE FROM ").before d.qualifiedTable) hfilter,
      fun s => rfl⟩
  | group key sum =>
    have hkey := IsLaid.mention (.column key)
    have hvalue : IsLaid
        (fun s => sum.elim "COUNT(1)" fun column => "SUM(" ++ s (.column column) ++ ")")
        (sum.toList.map .column) := by
      cases sum with
      | none => exact .const "COUNT(1)"
      | some column => exact ((IsLaid.mention (.column column)).after "SUM(").before ")"
    have hcolumns := ((hkey.after "SELECT ").before ", ").append hvalue
    have hhead := (hcolumns.before " AS VALUE FROM ").before d.qualifiedTable
    have htail := hfilter.append (.text (hkey.after " GROUP BY "))
    refine ⟨_, by simpa [mentions] using Drawn.cons hhead htail, fun s => ?_⟩
    cases sum <;> rfl
  | template text => exact ⟨_, hfilter, fun s => rfl⟩

end Request

namespace Descriptor

/-- What the order and the returned columns of an operation mention. -/
def tailMentions (d : Descriptor) (exec : Exec) : List Mention :=
  (if exec.isPaged then (d.sort.getD []).map .sort else []) ++ (d.returned exec).map .column

/-- The text of a statement is laid out: first what is asked for, with the filter, and then the
order and the returned columns. -/
theorem isLaid_planUnder (d : Descriptor) (exec : Exec) (r : Request) (dialect : Dialect)
    (mode : BindMode) :
    ∃ body tail, IsLaid body (r.mentions d) ∧ IsLaid tail (d.tailMentions exec) ∧
      ∀ s, ((d.planUnder (Names.spelled s) exec r).statement dialect mode).text =
        r.place (body s) ++ tail s := by
  obtain ⟨f, hdrawn, hf⟩ := r.exists_drawn d
  obtain ⟨vs, hvs⟩ := hdrawn.params mode
  have horder : IsLaid
      (fun s => if exec.isPaged then (Names.spelled s).order (d.sort.getD []) else "")
      (if exec.isPaged then (d.sort.getD []).map .sort else []) := by
    cases exec.isPaged with
    | true => exact Names.isLaid_order _
    | false => exact .const ""
  let page := dialect.page (if exec.isPaged then d.take.filter (· > 0) else none)
    (if exec.isPaged then d.skip.filter (· > 0) else none)
  have hbody := hdrawn.isLaid dialect mode (r.ownParams d).length
  have htail := (horder.before page).append
    (dialect.isLaid_returningAfter (r.ownParams d ++ vs).length (d.returned exec))
  refine ⟨_, _, hbody, htail, fun s => ?_⟩
  rw [text_planUnder, hf, r.text_draftOf, r.inputs_draftOf, hvs]
  simp only [String.append_assoc, page]

end Descriptor

namespace Settings

/-- Whether the statements of an operation have their text from two layouts: what is asked for with
the filter, which a raw query has in its template, and the order and the returned columns. The
layouts are the same in all languages, and the SQL of each mention is the one that it has in the
language. Sessions may have a cache, but no other list under the key of one that is looked up. -/
def LaysOut (settings : Settings) (d : Descriptor) (exec : Exec) (r : Request)
    (body tail : Layout) : Prop :=
  ∀ (language : Option String) (lists : List NameList) (s : Session) (st : Statement),
    s.Faithful lists →
    (∀ l ∈ { d with language }.lists exec, ∀ l' ∈ lists, l.key = l'.key → l = l') →
    (settings.compileAs { d with language } exec).outcome s = .ok st →
      st.text = r.place (body.render (Mention.sql (language.getD ""))) ++
        tail.render (Mention.sql (language.getD ""))

/-- The statements of an operation are laid out from what their descriptor mentions. -/
theorem exists_layout {settings : Settings} {d : Descriptor} {exec : Exec} {r : Request}
    (hr : d.request settings.mode exec = .ok r) :
    ∃ body tail : Layout, body.mentions = r.mentions d ∧ tail.mentions = d.tailMentions exec ∧
      settings.LaysOut d exec r body tail := by
  obtain ⟨body, tail, ⟨L, hL, hbody⟩, ⟨L', hL', htail⟩, htext⟩ :=
    d.isLaid_planUnder exec r settings.dialect settings.mode
  refine ⟨L, L', hL, hL', fun language lists s st hs hkeys h => ?_⟩
  rw [outcome_compileAs, settings.compileUnder_of_faithful hs hkeys] at h
  obtain ⟨r', hr', rfl⟩ := compileUnder_eq_ok h
  obtain rfl : r = r' := Except.ok.inj (hr.symm.trans hr')
  rw [← hbody, ← htail, ← htext]
  rfl

end Settings

end FilterSql
