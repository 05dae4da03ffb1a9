import FilterSql.Json.Reader
import Mathlib.Data.List.DropRight

/-!
# What readers take

A reader of JSON succeeds step by step (`bind_eq_ok_iff`), and for the small readers it is said
exactly when they succeed and what they leave: the next character (`peek_eq_ok_iff`), the name of a
member (`memberName?_eq_some_iff`), the colon after it. No reader leaves more than it was given
(`LeavesAtMost`), and a value takes at least one character (`value_consumes`), so whatever reads
value after value comes to an end before the text does.
-/

namespace FilterSql.Reader

variable {α β σ : Type} {cs rest tl : List Char} {n : Nat}

/-! ## Running readers -/

theorem bind_eq_ok_iff {x : Reader α} {f : α → Reader β} {b : β} :
    (x >>= f) cs = .ok (b, rest) ↔ ∃ a cs', x cs = .ok (a, cs') ∧ f a cs' = .ok (b, rest) := by
  show Except.bind (x cs) (fun r => f r.1 r.2) = _ ↔ _
  cases h : x cs with
  | error e => simp [Except.bind]
  | ok r => simp [Except.bind, Prod.ext_iff]

theorem peek_eq_ok_iff {c : Char} :
    peek cs = .ok (c, rest) ↔ ∃ tl, cs.dropWhile isSpace = c :: tl ∧ rest = c :: tl := by
  have hpeek : peek? cs = .ok ((cs.dropWhile isSpace).head?, cs.dropWhile isSpace) := rfl
  rw [peek, bind_eq_ok_iff]
  constructor
  · rintro ⟨a, cs', h, hr⟩
    rw [hpeek] at h
    cases h
    cases hd : cs.dropWhile isSpace with
    | nil =>
      rw [hd] at hr
      cases hr
    | cons d tl =>
      rw [hd] at hr
      cases hr
      exact ⟨tl, rfl, rfl⟩
  · rintro ⟨tl, htl, rfl⟩
    exact ⟨some c, c :: tl, by rw [hpeek, htl]; rfl, rfl⟩

theorem length_lt_of_dropWhile_isSpace {c : Char} (h : cs.dropWhile isSpace = c :: tl) :
    tl.length < cs.length := by
  have hlength := (List.dropWhile_suffix isSpace (l := cs)).length_le
  rw [h] at hlength
  exact hlength

theorem peek_bind_eq_ok_iff {f : Char → Reader β} {b : β} :
    (peek >>= f) cs = .ok (b, rest) ↔
      ∃ c tl, cs.dropWhile isSpace = c :: tl ∧ f c (c :: tl) = .ok (b, rest) := by
  rw [bind_eq_ok_iff]
  constructor
  · rintro ⟨c, cs', hpeek, h⟩
    obtain ⟨tl, htl, rfl⟩ := peek_eq_ok_iff.mp hpeek
    exact ⟨c, tl, htl, h⟩
  · rintro ⟨c, tl, htl, h⟩
    exact ⟨c, c :: tl, peek_eq_ok_iff.mpr ⟨tl, htl, rfl⟩, h⟩

/-- What is read past a character that has to stand next. -/
theorem expect_eq_ok_iff {c : Char} {f : Unit → Reader β} {b : β} :
    (do
      if (← peek) ≠ c then fail .malformed
      advance
      f ()) cs = .ok (b, rest) ↔
      ∃ tl, cs.dropWhile isSpace = c :: tl ∧ f () tl = .ok (b, rest) := by
  rw [peek_bind_eq_ok_iff]
  constructor
  · rintro ⟨d, tl, htl, h⟩
    by_cases hd : d = c
    · subst hd
      rw [if_neg (not_not_intro rfl)] at h
      exact ⟨tl, htl, h⟩
    · rw [if_pos hd] at h
      cases h
  · rintro ⟨tl, htl, h⟩
    refine ⟨c, tl, htl, ?_⟩
    rw [if_neg (not_not_intro rfl)]
    exact h

theorem colon_eq_ok_iff {u : Unit} :
    colon cs = .ok (u, rest) ↔ cs.dropWhile isSpace = ':' :: rest := by
  refine (expect_eq_ok_iff (f := pure)).trans ⟨?_, fun h => ⟨rest, h, rfl⟩⟩
  rintro ⟨tl, htl, ⟨⟩⟩
  exact htl

/-- The text of the next name of an object, after its quote. A comma stands before every name but
the first. -/
def NextName (first : Bool) (cs text : List Char) : Prop :=
  ∃ start, (if first then start = cs else cs.dropWhile isSpace = ',' :: start) ∧
    start.dropWhile isSpace = '"' :: text

theorem NextName.length_lt {first : Bool} {text : List Char} (h : NextName first cs text) :
    text.length < cs.length := by
  obtain ⟨start, hstart, htext⟩ := h
  have hlt := length_lt_of_dropWhile_isSpace htext
  split at hstart
  · exact hstart ▸ hlt
  · exact hlt.trans (length_lt_of_dropWhile_isSpace hstart)

/-- The name of a member, from its quote on. -/
def quotedName (kept : Bool) : Reader (Option String) := do
  if (← peek) ≠ '"' then fail .malformed
  advance
  some <$> stringRest kept

theorem quotedName_eq_ok_iff {kept : Bool} {o : Option String} :
    quotedName kept cs = .ok (o, rest) ↔
      ∃ text, cs.dropWhile isSpace = '"' :: text ∧
        ∃ name, stringRest kept text = .ok (name, rest) ∧ o = some name := by
  refine (expect_eq_ok_iff (f := fun _ => some <$> stringRest kept)).trans
    (exists_congr fun text => and_congr_right fun _ => ?_)
  rw [← bind_pure_comp, bind_eq_ok_iff]
  constructor
  · rintro ⟨name, cs', h, ⟨⟩⟩
    exact ⟨name, h, rfl⟩
  · rintro ⟨name, h, rfl⟩
    exact ⟨name, rest, h, rfl⟩

theorem memberName?_eq (kept first : Bool) :
    memberName? kept first = (do
      let c ← peek
      if c = '\x7d' then pure none
      else if first then quotedName kept
      else if c ≠ ',' then fail .malformed
      else do
        advance
        quotedName kept) := by
  rw [memberName?]
  refine bind_congr fun c => ?_
  split
  · rfl
  · cases first with
    | true => rfl
    | false =>
      rw [if_neg Bool.false_ne_true]
      show (if c ≠ ',' then _ else _) = _
      split <;> rfl

theorem memberName?_eq_none_iff {kept first : Bool} :
    memberName? kept first cs = .ok (none, rest) ↔
      ∃ tl, cs.dropWhile isSpace = '\x7d' :: tl ∧ rest = '\x7d' :: tl := by
  rw [memberName?_eq, peek_bind_eq_ok_iff]
  constructor
  · rintro ⟨c, tl, htl, h⟩
    split at h
    · rename_i hc
      cases h
      exact ⟨tl, hc ▸ htl, hc ▸ rfl⟩
    · split at h
      · obtain ⟨text, -, name, -, ⟨⟩⟩ := quotedName_eq_ok_iff.mp h
      · split at h
        · cases h
        · obtain ⟨text, -, name, -, ⟨⟩⟩ :=
            quotedName_eq_ok_iff.mp (show quotedName kept tl = _ from h)
  · rintro ⟨tl, htl, rfl⟩
    exact ⟨'\x7d', tl, htl, rfl⟩

theorem memberName?_eq_some_iff {kept first : Bool} {name : String} :
    memberName? kept first cs = .ok (some name, rest) ↔
      ∃ text, NextName first cs text ∧ stringRest kept text = .ok (name, rest) := by
  rw [memberName?_eq, peek_bind_eq_ok_iff]
  constructor
  · rintro ⟨c, tl, htl, h⟩
    split at h
    · cases h
    · split at h
      · rename_i hfirst
        obtain ⟨text, htext, name', hread, ⟨⟩⟩ := quotedName_eq_ok_iff.mp h
        rw [← htl, List.dropWhile_idempotent] at htext
        exact ⟨text, ⟨cs, by rw [if_pos hfirst], htext⟩, hread⟩
      · rename_i hfirst
        split at h
        · cases h
        · rename_i hc
          obtain ⟨text, htext, name', hread, ⟨⟩⟩ :=
            quotedName_eq_ok_iff.mp (show quotedName kept tl = _ from h)
          exact ⟨text, ⟨tl, by rw [if_neg hfirst, htl, of_not_not hc], htext⟩, hread⟩
  · rintro ⟨text, ⟨start, hstart, htext⟩, hread⟩
    cases first with
    | true =>
      rw [if_pos rfl] at hstart
      subst hstart
      refine ⟨'"', text, htext, quotedName_eq_ok_iff.mpr ⟨text, ?_, name, hread, rfl⟩⟩
      rw [← htext, List.dropWhile_idempotent]
    | false =>
      exact ⟨',', start, hstart, quotedName_eq_ok_iff.mpr ⟨text, htext, name, hread, rfl⟩⟩

theorem enter_eq_ok_iff {kept : Bool} {depth depth' : Nat} :
    enter kept depth cs = .ok (depth', rest) ↔
      (kept → 1 < depth) ∧ depth' = depth - 1 ∧ rest = cs := by
  rw [enter]
  split
  · rename_i h
    have hnot : ¬(kept → 1 < depth) := by simpa using h
    exact ⟨nofun, fun hr => absurd hr.1 hnot⟩
  · rename_i h
    have hdepth : kept → 1 < depth := by simpa using h
    constructor
    · rintro ⟨⟩
      exact ⟨hdepth, rfl, rfl⟩
    · rintro ⟨-, rfl, rfl⟩
      rfl

/-! ## What readers leave -/

/-- Whether a reader that succeeds on a text leaves at most `n` characters of it. -/
def LeavesAtMost (n : Nat) (read : Reader α) (cs : List Char) : Prop :=
  ∀ a rest, read cs = .ok (a, rest) → rest.length ≤ n

theorem LeavesAtMost.bind {m : Nat} {x : Reader α} {f : α → Reader β} (hx : LeavesAtMost m x cs)
    (hf : ∀ a cs', cs'.length ≤ m → LeavesAtMost n (f a) cs') : LeavesAtMost n (x >>= f) cs := by
  intro b rest h
  obtain ⟨a, cs', ha, hb⟩ := bind_eq_ok_iff.mp h
  exact hf a cs' (hx a cs' ha) b rest hb

theorem leavesAtMost_pure (h : cs.length ≤ n) (a : α) : LeavesAtMost n (pure a) cs := by
  rintro b rest ⟨⟩
  exact h

theorem LeavesAtMost.map {x : Reader α} (hx : LeavesAtMost n x cs) (f : α → β) :
    LeavesAtMost n (f <$> x) cs :=
  hx.bind (f := fun a => pure (f a)) fun a _ h => leavesAtMost_pure h (f a)

theorem leavesAtMost_fail (f : Fault) : LeavesAtMost n (fail f : Reader α) cs := nofun

theorem leavesAtMost_fail_bind (f : Fault) {g : β → Reader α} :
    LeavesAtMost n (fail f >>= g) cs := nofun

theorem leavesAtMost_get_bind {f : List Char → Reader α} (h : LeavesAtMost n (f cs) cs) :
    LeavesAtMost n (get >>= f) cs := h

theorem leavesAtMost_set_bind {f : PUnit → Reader α} (h : LeavesAtMost n (f ⟨⟩) tl) :
    LeavesAtMost n (set tl >>= f) cs := h

/-- After a look at the next character the spaces before it are gone. -/
theorem leavesAtMost_peek {f : Char → Reader α}
    (hf : ∀ c tl, tl.length < cs.length → LeavesAtMost n (f c) (c :: tl)) :
    LeavesAtMost n (peek >>= f) cs := by
  intro a rest h
  obtain ⟨c, tl, htl, ha⟩ := peek_bind_eq_ok_iff.mp h
  exact hf c tl (length_lt_of_dropWhile_isSpace htl) a rest ha

theorem leavesAtMost_advance_bind {f : Unit → Reader α} (h : LeavesAtMost n (f ()) cs.tail) :
    LeavesAtMost n (advance >>= f) cs := h

theorem leavesAtMost_enter_bind {kept : Bool} {depth : Nat} {f : Nat → Reader α}
    (h : LeavesAtMost n (f (depth - 1)) cs) : LeavesAtMost n (enter kept depth >>= f) cs := by
  intro a rest hread
  obtain ⟨depth', cs', henter, ha⟩ := bind_eq_ok_iff.mp hread
  obtain ⟨-, rfl, rfl⟩ := enter_eq_ok_iff.mp henter
  exact h a rest ha

theorem leavesAtMost_word (ws : List Char) (h : cs.length ≤ n) : LeavesAtMost n (word ws) cs := by
  induction ws generalizing cs with
  | nil => exact leavesAtMost_pure h _
  | cons w ws ih =>
    cases cs with
    | nil => nofun
    | cons c cs =>
      show LeavesAtMost n (if c = w then word ws else fail .malformed) cs
      split
      · exact ih (Nat.le_of_succ_le h)
      · exact leavesAtMost_fail _

theorem consChar_eq_ok {c : Char} {r : Except Fault (List Char × List Char)} {s : List Char}
    (h : consChar c r = .ok (s, rest)) : ∃ s', r = .ok (s', rest) := by
  cases r with
  | error f => cases h
  | ok r =>
    cases h
    exact ⟨_, rfl⟩

theorem length_stringTail {kept : Bool} {s : List Char} (h : stringTail kept cs = .ok (s, rest)) :
    rest.length < cs.length := by
  -- A string goes on past a code unit, a pair of them, an escape or another character.
  fun_induction stringTail kept cs generalizing s with
  | case2 tl =>
    cases h
    exact Nat.lt_succ_self _
  | case4 =>
    rename_i ih
    have hlength := ih h
    simp only [List.length_cons]
    omega
  | case6 | case8 | case17 | case19 =>
    rename_i ih
    obtain ⟨s', h'⟩ := consChar_eq_ok h
    have hlength := ih h'
    simp only [List.length_cons]
    omega
  | _ => cases h

theorem leavesAtMost_stringRest {kept : Bool} (h : cs.length ≤ n) :
    LeavesAtMost n (stringRest kept) cs := by
  intro s rest hread
  cases htail : stringTail kept cs with
  | error f =>
    rw [stringRest, htail] at hread
    cases hread
  | ok r =>
    rw [stringRest, htail] at hread
    cases hread
    exact (length_stringTail htail).le.trans h

/-! ### Numbers -/

theorem leavesAtMost_someDigits {kept : Bool} (h : (cs.dropWhile Char.isDigit).length ≤ n) :
    LeavesAtMost n (someDigits kept) cs := by
  have hdigits : LeavesAtMost n digitsFrom cs := by
    rintro a rest ⟨⟩
    exact h
  refine hdigits.bind fun ds cs' hcs' => ?_
  split
  · intro a rest hread
    cases cs' with
    | nil => cases hread
    | cons c tl => cases hread
  · exact leavesAtMost_pure hcs' _

theorem length_dropWhile_isDigit_le (cs : List Char) :
    (cs.dropWhile Char.isDigit).length ≤ cs.length :=
  (List.dropWhile_suffix _).length_le

theorem leavesAtMost_someDigits_of_le (kept : Bool) (h : cs.length ≤ n) :
    LeavesAtMost n (someDigits kept) cs :=
  leavesAtMost_someDigits ((length_dropWhile_isDigit_le cs).trans h)

/-- The exponent of a number, with what is made of it. -/
theorem leavesAtMost_exponent {kept : Bool} (make : Option (Bool × List Char) → Numeral)
    (h : cs.length ≤ n) : LeavesAtMost n (do
      let exponent ← do
        match ← get with
        | c :: rest =>
          if c = 'e' ∨ c = 'E' then
            set rest
            match rest with
            | '+' :: rest => set rest; some <$> Prod.mk false <$> someDigits kept
            | '-' :: rest => set rest; some <$> Prod.mk true <$> someDigits kept
            | _ => some <$> Prod.mk false <$> someDigits kept
          else pure none
        | [] => pure none
      return make exponent) cs := by
  have hdigits : ∀ (down : Bool) {cs : List Char}, cs.length ≤ n →
      LeavesAtMost n (some <$> Prod.mk down <$> someDigits kept >>= fun exponent =>
        pure (make exponent)) cs := by
    intro down cs hcs
    have hsome := (leavesAtMost_someDigits_of_le kept hcs).map (Prod.mk down)
    exact (hsome.map some).bind fun _ _ h => leavesAtMost_pure h _
  have hnone : LeavesAtMost n (pure none >>= fun exponent => pure (make exponent)) cs :=
    (leavesAtMost_pure h none).bind fun _ _ h => leavesAtMost_pure h _
  refine leavesAtMost_get_bind ?_
  split
  · rename_i c tl
    have htl : tl.length ≤ n := Nat.le_of_succ_le h
    split
    · refine leavesAtMost_set_bind ?_
      split
      · exact leavesAtMost_set_bind (hdigits false (Nat.le_of_succ_le htl))
      · exact leavesAtMost_set_bind (hdigits true (Nat.le_of_succ_le htl))
      · exact hdigits false htl
    · exact hnone
  · exact hnone

/-- What is left of a number is at most what is left after the digits that it starts with. -/
theorem leavesAtMost_numeral {kept negative : Bool}
    (h : (cs.dropWhile Char.isDigit).length ≤ n) : LeavesAtMost n (numeral kept negative) cs := by
  refine (leavesAtMost_someDigits h).bind fun whole cs' hcs' => ?_
  split
  · exact leavesAtMost_fail_bind _
  · refine leavesAtMost_get_bind ?_
    split
    · refine leavesAtMost_set_bind ?_
      have hfraction := leavesAtMost_someDigits_of_le kept (Nat.le_of_succ_le hcs')
      refine (hfraction.map some).bind fun fraction cs'' h => ?_
      exact leavesAtMost_exponent (fun exponent => ⟨negative, whole, fraction, exponent⟩) h
    · refine (leavesAtMost_pure hcs' none).bind fun fraction cs'' h => ?_
      exact leavesAtMost_exponent (fun exponent => ⟨negative, whole, fraction, exponent⟩) h

/-- A sign or a digit is taken before anything is made of a number. -/
theorem leavesAtMost_signed {kept : Bool} {c : Char} (hc : c = '-' ∨ c.isDigit)
    {f : Numeral → Reader α}
    (hf : ∀ n cs, cs.length ≤ tl.length → LeavesAtMost tl.length (f n) cs) :
    LeavesAtMost tl.length (do
      let negative := (← get).head? = some '-'
      if negative then advance
      let n ← numeral kept negative
      f n) (c :: tl) := by
  refine leavesAtMost_get_bind ?_
  dsimp only
  split
  · exact leavesAtMost_advance_bind
      ((leavesAtMost_numeral (length_dropWhile_isDigit_le tl)).bind hf)
  · rename_i hsign
    have hdigit : c.isDigit := hc.resolve_left fun h => hsign (congrArg some h)
    have hdrop : ((c :: tl).dropWhile Char.isDigit).length ≤ tl.length := by
      rw [List.dropWhile_cons_of_pos hdigit]
      exact length_dropWhile_isDigit_le tl
    exact (leavesAtMost_numeral hdrop).bind hf

theorem leavesAtMost_number {kept : Bool} {c : Char} (hc : c = '-' ∨ c.isDigit) :
    LeavesAtMost tl.length (number kept) (c :: tl) := by
  refine leavesAtMost_signed hc fun n cs h => ?_
  split
  · exact leavesAtMost_pure h _
  · split
    · exact leavesAtMost_fail _
    · exact leavesAtMost_pure h _

/-! ### Sequences and objects -/

/-- Whether a reader that succeeds takes at least one character. -/
def Consumes (read : Reader α) : Prop :=
  ∀ cs a rest, read cs = .ok (a, rest) → rest.length < cs.length

theorem leavesAtMost_moreItems (first : Bool) (h : cs.length ≤ n) :
    LeavesAtMost n (moreItems first) cs := by
  refine leavesAtMost_peek fun c tl htl => ?_
  split
  · exact leavesAtMost_pure (Nat.le_trans htl h) _
  · split
    · exact leavesAtMost_pure (Nat.le_trans htl h) _
    · dsimp only
      split
      · exact leavesAtMost_fail_bind _
      · refine leavesAtMost_advance_bind (leavesAtMost_peek fun c' tl' htl' => ?_)
        have htl' : (c' :: tl').length ≤ n := (Nat.le_trans htl' htl.le).trans h
        split
        · exact leavesAtMost_fail_bind _
        · exact leavesAtMost_pure htl' _

theorem leavesAtMost_items {step : σ → Reader σ} (hstep : ∀ s, Consumes (step s))
    (fuel : Nat) (first : Bool) (s : σ) (h : cs.length ≤ n) :
    LeavesAtMost n (items step fuel first s) cs := by
  induction fuel generalizing first s cs with
  | zero => exact leavesAtMost_fail _
  | succ fuel ih =>
    refine (leavesAtMost_moreItems first h).bind fun more cs₁ h₁ => ?_
    split
    · intro a rest hread
      obtain ⟨s', cs₂, hs', hread⟩ := bind_eq_ok_iff.mp hread
      exact ih false s' ((hstep s cs₁ s' cs₂ hs').le.trans h₁) a rest hread
    · exact leavesAtMost_advance_bind
        (leavesAtMost_pure ((List.length_tail ▸ Nat.sub_le _ _).trans h₁) s)

theorem leavesAtMost_colon : LeavesAtMost cs.length colon cs := by
  intro u rest h
  exact (length_lt_of_dropWhile_isSpace (colon_eq_ok_iff.mp h)).le

theorem leavesAtMost_memberName? {kept first : Bool} :
    LeavesAtMost cs.length (memberName? kept first) cs := by
  rintro (_ | name) rest h
  · obtain ⟨tl, htl, rfl⟩ := memberName?_eq_none_iff.mp h
    exact length_lt_of_dropWhile_isSpace htl
  · obtain ⟨text, htext, hread⟩ := memberName?_eq_some_iff.mp h
    exact leavesAtMost_stringRest htext.length_lt.le _ _ hread

theorem leavesAtMost_members {kept : Bool} {step : String → σ → Reader σ}
    (hstep : ∀ name s, Consumes (step name s)) (fuel : Nat) (first : Bool) (s : σ)
    (h : cs.length ≤ n) : LeavesAtMost n (members kept step fuel first s) cs := by
  induction fuel generalizing first s cs with
  | zero => exact leavesAtMost_fail _
  | succ fuel ih =>
    refine leavesAtMost_memberName?.bind fun name? cs₁ h₁ => ?_
    have h₁ := h₁.trans h
    cases name? with
    | some name =>
      intro a rest hread
      obtain ⟨s', cs₂, hs', hread⟩ := bind_eq_ok_iff.mp hread
      exact ih false s' ((hstep name s cs₁ s' cs₂ hs').le.trans h₁) a rest hread
    | none =>
      exact leavesAtMost_advance_bind
        (leavesAtMost_pure ((List.length_tail ▸ Nat.sub_le _ _).trans h₁) s)

/-! ### Values -/

theorem consumes_peek {f : Char → Reader α}
    (hf : ∀ c tl, LeavesAtMost tl.length (f c) (c :: tl)) : Consumes (peek >>= f) := by
  intro cs a rest h
  obtain ⟨c, tl, htl, h⟩ := peek_bind_eq_ok_iff.mp h
  exact (hf c tl a rest h).trans_lt (length_lt_of_dropWhile_isSpace htl)

theorem Consumes.bind_pure {read : Reader α} (h : Consumes read) (f : α → β) :
    Consumes (read >>= fun a => pure (f a)) := by
  intro cs b rest hread
  obtain ⟨a, cs', ha, ⟨⟩⟩ := bind_eq_ok_iff.mp hread
  exact h cs a rest ha

theorem Consumes.colon_bind {read : Reader α} (h : Consumes read) :
    Consumes (colon >>= fun _ => read) := by
  intro cs a rest hread
  obtain ⟨u, cs', hcolon, ha⟩ := bind_eq_ok_iff.mp hread
  exact (h cs' a rest ha).trans_le (leavesAtMost_colon u cs' hcolon)

/-- A value takes at least one character. -/
theorem value_consumes (kept : Bool) (fuel depth : Nat) : Consumes (value kept fuel depth) := by
  induction fuel generalizing depth with
  | zero => nofun
  | succ fuel ih =>
    have hword : ∀ (ws : List Char) (j : Json) (tl : List Char),
        LeavesAtMost tl.length (word ws >>= fun _ => pure j) tl := fun ws j tl =>
      (leavesAtMost_word ws le_rfl).bind fun _ _ h => leavesAtMost_pure h j
    refine consumes_peek fun c tl => ?_
    split
    · exact leavesAtMost_advance_bind (hword _ _ tl)
    · exact leavesAtMost_advance_bind (hword _ _ tl)
    · exact leavesAtMost_advance_bind (hword _ _ tl)
    · refine leavesAtMost_advance_bind ?_
      exact (leavesAtMost_stringRest le_rfl).bind fun _ _ h => leavesAtMost_pure h _
    · refine leavesAtMost_advance_bind (leavesAtMost_enter_bind ?_)
      refine LeavesAtMost.bind (leavesAtMost_items (fun js => ?_) _ _ _ le_rfl)
        fun js cs' h => leavesAtMost_pure h _
      exact (ih _).bind_pure _
    · refine leavesAtMost_advance_bind (leavesAtMost_enter_bind ?_)
      refine LeavesAtMost.bind (leavesAtMost_members (fun name ms => ?_) _ _ _ le_rfl)
        fun ms cs' h => leavesAtMost_pure h _
      exact ((ih _).bind_pure _).colon_bind
    · split
      · rename_i hc
        exact leavesAtMost_number hc
      · exact leavesAtMost_fail _

theorem document_consumes (depth : Nat) : Consumes (document depth) :=
  fun cs => value_consumes true (cs.length + 1) depth cs

end FilterSql.Reader
