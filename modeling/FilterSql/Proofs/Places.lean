import FilterSql.Proofs.Column
import FilterSql.Proofs.Substitution

/-!
# Where the clause goes

A place for the clause is any occurrence of the token, in any case of its letters. Every template
can be cut at its tokens into texts that have none (`Cut`), and the cut is the one that the parts of
the template give (`split_parts_eq`), since a token starts with a brace and has no other in it, so
that none can begin in the text before another. What a template is with a clause is read off its cut
(`fill_cut`): the clause takes the place of each token and nothing else changes but the blanks at
the end. An empty clause takes the blanks around it away too, and no other character
(`withoutBlanks_assemble_nil`).
-/

namespace FilterSql

/-! ## Texts without blanks -/

namespace Text

/-- A text without any of its blanks. -/
def withoutBlanks (cs : List Char) : List Char :=
  cs.filter (!isBlank ·)

theorem withoutBlanks_append (cs cs' : List Char) :
    withoutBlanks (cs ++ cs') = withoutBlanks cs ++ withoutBlanks cs' :=
  List.filter_append cs cs'

theorem withoutBlanks_trimStart (cs : List Char) :
    withoutBlanks (trimStart cs) = withoutBlanks cs := by
  unfold withoutBlanks trimStart
  induction cs with
  | nil => rfl
  | cons c cs ih =>
    cases hc : isBlank c with
    | true => rw [List.dropWhile_cons_of_pos hc, ih, List.filter_cons_of_neg (by simp [hc])]
    | false => rw [List.dropWhile_cons_of_neg (by simp [hc])]

theorem withoutBlanks_trimEnd (cs : List Char) : withoutBlanks (trimEnd cs) = withoutBlanks cs := by
  have hstart := withoutBlanks_trimStart cs.reverse
  unfold withoutBlanks trimStart at hstart
  unfold withoutBlanks trimEnd
  rw [List.filter_reverse, hstart, List.filter_reverse, List.reverse_reverse]

end Text

namespace Template

open Text

/-! ## Tokens -/

/-- Whether a text is the token, in any case of its letters. -/
def IsToken (w : List Char) : Prop :=
  w.map Char.toLower = token

/-- Whether the token stands anywhere in a text. -/
def HasToken (cs : List Char) : Prop :=
  ∃ w, IsToken w ∧ w <:+: cs

theorem stripWord?_eq_some_iff {word cs rest : List Char} :
    stripWord? word cs = some rest ↔ ∃ w, w.map Char.toLower = word ∧ cs = w ++ rest := by
  induction word generalizing cs with
  | nil => simp [stripWord?]
  | cons l ls ih =>
    cases cs with
    | nil =>
      rw [stripWord?]
      refine iff_of_false (by simp) ?_
      rintro ⟨w, hw, hnil⟩
      obtain ⟨rfl, -⟩ := List.append_eq_nil_iff.mp hnil.symm
      cases hw
    | cons c cs =>
      rw [stripWord?]
      constructor
      · intro h
        split at h
        · rename_i hc
          obtain ⟨w, hw, rfl⟩ := ih.mp h
          exact ⟨c :: w, by rw [List.map_cons, hc, hw], rfl⟩
        · cases h
      · rintro ⟨w, hw, hcs⟩
        cases w with
        | nil => cases hw
        | cons d ds =>
          obtain ⟨rfl, rfl⟩ := List.cons.inj hcs
          obtain ⟨hd, hds⟩ := List.cons.inj hw
          rw [if_pos hd]
          exact ih.mpr ⟨ds, hds, rfl⟩

/-- A token starts with a brace and has no other in it. -/
theorem IsToken.exists_cons {w : List Char} (h : IsToken w) :
    ∃ ws, w = '\x7b' :: ws ∧ '\x7b' ∉ ws := by
  unfold IsToken token at h
  cases w with
  | nil => cases h
  | cons c ws =>
    obtain ⟨hc, hws⟩ := List.cons.inj h
    refine ⟨ws, by rw [(toLower_eq_iff (by decide)).mp hc], fun hmem => ?_⟩
    have hlower : '\x7b'.toLower ∈ ws.map Char.toLower := List.mem_map_of_mem hmem
    rw [hws] at hlower
    exact absurd hlower (by decide)

theorem not_hasToken_nil : ¬ HasToken [] := by
  rintro ⟨w, hw, hinfix⟩
  obtain rfl := List.infix_nil.mp hinfix
  obtain ⟨ws, hws, -⟩ := hw.exists_cons
  cases hws

/-- A text has the token at its start, or after its first character. -/
theorem hasToken_cons_iff {c : Char} {cs : List Char} :
    HasToken (c :: cs) ↔ (∃ rest, stripWord? token (c :: cs) = some rest) ∨ HasToken cs := by
  constructor
  · rintro ⟨w, hw, hinfix⟩
    rcases List.infix_cons_iff.mp hinfix with ⟨rest, hrest⟩ | hinfix
    · exact .inl ⟨rest, stripWord?_eq_some_iff.mpr ⟨w, hw, hrest.symm⟩⟩
    · exact .inr ⟨w, hw, hinfix⟩
  · rintro (⟨rest, hrest⟩ | ⟨w, hw, hinfix⟩)
    · obtain ⟨w, hw, hcs⟩ := stripWord?_eq_some_iff.mp hrest
      exact ⟨w, hw, [], rest, by rw [hcs]; rfl⟩
    · exact ⟨w, hw, hinfix.trans (List.suffix_cons c cs).isInfix⟩

/-! ## Cuts -/

/-- A template cut at its tokens: the text before the first of them, and each token with the text
after it up to the next. -/
structure Cut (template : List Char) where
  first : List Char
  places : List (List Char × List Char)
  /-- Nothing of the template is lost. -/
  text_eq : first ++ places.flatMap (fun p => p.1 ++ p.2) = template
  isToken : ∀ p ∈ places, IsToken p.1
  /-- Every token of the template is one of the places. -/
  not_hasToken : ∀ t ∈ first :: places.map Prod.snd, ¬ HasToken t

/-- A cut template with a text in the place of each token. -/
def Cut.filled {template : List Char} (cut : Cut template) (clause : List Char) : List Char :=
  cut.first ++ cut.places.flatMap fun p => clause ++ p.2

/-- A template has the token exactly when it is cut somewhere. -/
theorem Cut.hasToken_iff {template : List Char} (cut : Cut template) :
    HasToken template ↔ cut.places ≠ [] := by
  obtain ⟨first, places, rfl, htoken, hplain⟩ := cut
  cases places with
  | nil =>
    have hfirst := hplain first List.mem_cons_self
    exact iff_of_false (by simpa using hfirst) fun h => h rfl
  | cons p ps =>
    refine iff_of_true ⟨p.1, htoken p List.mem_cons_self, first, ?_⟩ (List.cons_ne_nil p ps)
    exact ⟨p.2 ++ ps.flatMap fun p => p.1 ++ p.2, by simp [List.append_assoc]⟩

/-- A token is a place. -/
theorem parts_of_stripWord? {c : Char} {cs rest : List Char}
    (h : stripWord? token (c :: cs) = some rest) : parts (c :: cs) = .slot :: parts rest := by
  rw [parts]
  split
  · rename_i rest' hrest'
    obtain rfl := Option.some.inj (hrest'.symm.trans h)
    rfl
  · rename_i hnone
    rw [h] at hnone
    cases hnone

/-- What starts no token is text: a brace alone, and anything else up to the next brace. -/
theorem parts_of_stripWord?_eq_none {c : Char} {cs : List Char}
    (h : stripWord? token (c :: cs) = none) :
    parts (c :: cs) =
      if c = '\x7b' then .text [c] :: parts cs
      else .text (c :: cs.takeWhile (· ≠ '\x7b')) :: parts (cs.dropWhile (· ≠ '\x7b')) := by
  rw [parts]
  split
  · rename_i rest hrest
    rw [h] at hrest
    cases hrest
  · rfl

theorem split_parts_of_token {w : List Char} (h : IsToken w) (rest : List Char) :
    split (parts (w ++ rest)) = ([], (split (parts rest)).1 :: (split (parts rest)).2) := by
  obtain ⟨ws, rfl, -⟩ := h.exists_cons
  have hstrip : stripWord? token ('\x7b' :: (ws ++ rest)) = some rest :=
    stripWord?_eq_some_iff.mpr ⟨'\x7b' :: ws, h, rfl⟩
  rw [List.cons_append, parts_of_stripWord? hstrip]
  rfl

/-- A character that starts no token is text. -/
theorem split_parts_cons {c : Char} {cs : List Char} (h : stripWord? token (c :: cs) = none) :
    split (parts (c :: cs)) = (c :: (split (parts cs)).1, (split (parts cs)).2) := by
  rw [parts_of_stripWord?_eq_none h]
  split
  · rfl
  · -- The text goes on to the next brace, which is where the text of the rest ends too.
    cases cs with
    | nil => rfl
    | cons d ds =>
      by_cases hd : d = '\x7b'
      · subst hd
        rfl
      · have hnone : stripWord? token (d :: ds) = none := by
          rw [token, stripWord?, if_neg fun h => hd ((toLower_eq_iff (by decide)).mp h)]
        rw [parts_of_stripWord?_eq_none hnone, if_neg hd]
        simp [split, hd]

/-- Text without a token stays whole in front of a token, or of nothing. -/
theorem split_parts_append {t rest : List Char} (h : ¬ HasToken t)
    (hrest : ∀ c ∈ rest.head?, c = '\x7b') :
    split (parts (t ++ rest)) = (t ++ (split (parts rest)).1, (split (parts rest)).2) := by
  induction t with
  | nil => rfl
  | cons c cs ih =>
    obtain ⟨hstart, hcs⟩ := not_or.mp (fun hor => h (hasToken_cons_iff.mpr hor))
    have hnone : stripWord? token (c :: (cs ++ rest)) = none := by
      refine Option.eq_none_iff_forall_ne_some.mpr fun after hafter => ?_
      obtain ⟨w, hw, heq⟩ := stripWord?_eq_some_iff.mp hafter
      -- The token would have to reach into the rest, and have the brace there in it.
      rcases List.append_eq_append_iff.mp (show (c :: cs) ++ rest = w ++ after from heq) with
        ⟨overlap, rfl, hoverlap⟩ | ⟨overlap, hoverlap, -⟩
      · cases overlap with
        | nil =>
          rw [List.append_nil] at hw
          exact hstart ⟨[], stripWord?_eq_some_iff.mpr ⟨_, hw, (List.append_nil _).symm⟩⟩
        | cons o os =>
          obtain rfl : o = '\x7b' := hrest o (by rw [hoverlap]; rfl)
          obtain ⟨ws, hws, hnotMem⟩ := IsToken.exists_cons hw
          obtain ⟨-, rfl⟩ := List.cons.inj hws
          exact hnotMem (by simp)
      · exact hstart ⟨overlap, stripWord?_eq_some_iff.mpr ⟨w, hw, hoverlap⟩⟩
    rw [List.cons_append, split_parts_cons hnone, ih hcs]
    rfl

/-- Texts without a token and the tokens between them are told apart again. -/
theorem split_parts_flatMap {first : List Char} {places : List (List Char × List Char)}
    (htoken : ∀ p ∈ places, IsToken p.1)
    (hplain : ∀ t ∈ first :: places.map Prod.snd, ¬ HasToken t) :
    split (parts (first ++ places.flatMap fun p => p.1 ++ p.2)) =
      (first, places.map Prod.snd) := by
  induction places generalizing first with
  | nil =>
    have hfirst : split (parts (first ++ [])) = (first ++ [], []) := by
      rw [split_parts_append (hplain first List.mem_cons_self) (by simp), parts]
      rfl
    rw [List.flatMap_nil, hfirst, List.append_nil]
    rfl
  | cons p ps ih =>
    obtain ⟨w, t⟩ := p
    have hw : IsToken w := htoken (w, t) List.mem_cons_self
    have hrec := @ih t (fun q hq => htoken q (List.mem_cons_of_mem _ hq)) fun u hu =>
      hplain u (List.mem_cons_of_mem first hu)
    have hbrace : ∀ c ∈ (w ++ (t ++ ps.flatMap fun p => p.1 ++ p.2)).head?, c = '\x7b' := by
      obtain ⟨ws, rfl, -⟩ := hw.exists_cons
      intro c hc
      exact (Option.some.inj hc).symm
    rw [List.flatMap_cons, List.append_assoc,
      split_parts_append (hplain first List.mem_cons_self) hbrace, split_parts_of_token hw, hrec,
      List.append_nil]
    rfl

/-- The parts of a template give its cut. -/
theorem split_parts_eq {template : List Char} (cut : Cut template) :
    split (parts template) = (cut.first, cut.places.map Prod.snd) := by
  rw [← split_parts_flatMap cut.isToken cut.not_hasToken, cut.text_eq]

/-- Every template can be cut. -/
theorem nonempty_cut (template : List Char) : Nonempty (Cut template) := by
  induction hlength : template.length using Nat.strongRecOn generalizing template with
  | ind n ih =>
    cases template with
    | nil => exact ⟨[], [], rfl, by simp, by simpa using not_hasToken_nil⟩
    | cons c cs =>
      rw [List.length_cons] at hlength
      cases hstrip : stripWord? token (c :: cs) with
      | some rest =>
        obtain ⟨w, hw, hcs⟩ := stripWord?_eq_some_iff.mp hstrip
        have hshort := stripWord?_length hstrip
        simp only [token, List.length_cons, List.length_nil] at hshort
        obtain ⟨cut⟩ := ih rest.length (by omega) rest rfl
        refine ⟨[], (w, cut.first) :: cut.places, ?_, ?_, ?_⟩
        · rw [hcs, List.flatMap_cons, List.append_assoc, cut.text_eq]
          rfl
        · exact List.forall_mem_cons.mpr ⟨hw, cut.isToken⟩
        · exact List.forall_mem_cons.mpr ⟨not_hasToken_nil, cut.not_hasToken⟩
      | none =>
        obtain ⟨cut⟩ := ih cs.length (by omega) cs rfl
        obtain ⟨hfirst, hrest⟩ := List.forall_mem_cons.mp cut.not_hasToken
        refine ⟨c :: cut.first, cut.places, ?_, cut.isToken, List.forall_mem_cons.mpr ⟨?_, hrest⟩⟩
        · rw [List.cons_append, cut.text_eq]
        · intro htoken
          rcases hasToken_cons_iff.mp htoken with ⟨after, hafter⟩ | htoken
          · -- A token at the start of the first text is one at the start of the template.
            obtain ⟨w, hw, heq⟩ := stripWord?_eq_some_iff.mp hafter
            have hstart : stripWord? token (c :: cs) =
                some (after ++ cut.places.flatMap fun p => p.1 ++ p.2) := by
              refine stripWord?_eq_some_iff.mpr ⟨w, hw, ?_⟩
              rw [← List.append_assoc, ← heq, List.cons_append, cut.text_eq]
            rw [hstrip] at hstart
            cases hstart
          · exact hfirst htoken

/-! ## The filled template -/

/-- Without a clause nothing but blanks is lost or added. -/
theorem withoutBlanks_assemble_nil (written : List Char) (dropped : Bool) (ps : List Part) :
    withoutBlanks (assemble [] written dropped ps) =
      withoutBlanks written ++ withoutBlanks ((split ps).1 ++ (split ps).2.flatten) := by
  induction ps generalizing written dropped with
  | nil => simp [assemble, split, withoutBlanks]
  | cons p ps ih =>
    cases p with
    | text t =>
      rw [assemble, split]
      split
      · -- A gap is a blank or nothing.
        have hgap : withoutBlanks (if written.isEmpty || (trimStart t).isEmpty then [] else [' ']) =
            [] := by
          split
          · rfl
          · decide
        simp only [ih, withoutBlanks_append, withoutBlanks_trimStart, hgap, List.append_assoc,
          List.nil_append]
      · simp only [ih, withoutBlanks_append, List.append_assoc]
    | slot =>
      rw [assemble, if_pos List.isEmpty_nil, ih, withoutBlanks_trimEnd, split]
      rfl

theorem contains_slot_iff {template : List Char} (cut : Cut template) :
    (parts template).contains .slot = true ↔ HasToken template := by
  have hcount : (parts template).count .slot = cut.places.length := by
    rw [← length_split, split_parts_eq cut, List.length_map]
  rw [List.contains_iff_mem, ← List.count_pos_iff, hcount, cut.hasToken_iff]
  exact List.length_pos_iff

/-- A template without a token has the clause at its end, and is not changed by an empty clause. In
any other template the clause takes the place of each token, and everything else stays but the
blanks at the end. An empty clause takes away the tokens and no character that is not blank. Every
template has a cut that says where its tokens are. -/
theorem fill_cut (template clause : String) :
    (¬ HasToken template.toList → fill template clause =
      if trimStart clause.toList = [] then template
      else String.ofList (trimEnd template.toList ++ ' ' :: trimStart clause.toList)) ∧
    Nonempty (Cut template.toList) ∧ ∀ cut : Cut template.toList,
      (HasToken template.toList ↔ cut.places ≠ []) ∧
      (HasToken template.toList → trimStart clause.toList ≠ [] →
        fill template clause = String.ofList (trimEnd (cut.filled (trimStart clause.toList)))) ∧
      (HasToken template.toList → trimStart clause.toList = [] →
        withoutBlanks (fill template clause).toList = withoutBlanks (cut.filled [])) := by
  obtain ⟨someCut⟩ := nonempty_cut template.toList
  refine ⟨fun hnone => ?_, ⟨someCut⟩, fun cut => ⟨cut.hasToken_iff, fun htoken hclause => ?_,
    fun htoken hclause => ?_⟩⟩
  · have hslot : ¬ (parts template.toList).contains .slot = true := fun h =>
      hnone ((contains_slot_iff someCut).mp h)
    unfold fill fillChars
    simp only [if_neg hslot, List.isEmpty_iff]
    split
    · exact String.ofList_toList
    · rfl
  · have hslot := (contains_slot_iff cut).mpr htoken
    unfold fill fillChars Cut.filled
    simp only [if_pos hslot, assemble_eq hclause, split_parts_eq cut, List.nil_append,
      List.flatMap_map]
  · have hslot := (contains_slot_iff cut).mpr htoken
    unfold fill fillChars Cut.filled
    simp only [if_pos hslot, hclause, String.toList_ofList, withoutBlanks_trimEnd,
      withoutBlanks_assemble_nil, split_parts_eq cut, List.nil_append]
    rfl

/-- A token of the clause is left as it is, and so is one that the template does not finish. -/
example :
    fill "a \x7bWhere\x7d b \x7bwhere" " WHERE \x7bwhere\x7d" =
      "a WHERE \x7bwhere\x7d b \x7bwhere" := by
  cbv

end Template

end FilterSql
