import FilterSql.Proofs.Fragment

/-!
# Reading placeholders off a text

A placeholder is the lead of the dialect with all the digits after it. `placeholders` reads their
numbers off a text. A fragment is legible when its own text has no lead and no value is followed by
a digit; then the placeholders of its text are exactly those that its values were given, counted on
from the parameters before it (`placeholders_sql`).
-/

namespace FilterSql

namespace Text

/-- The number that a text starts with. -/
def leadingNumber? (cs : List Char) : Option Nat :=
  match cs.takeWhile Char.isDigit with
  | [] => none
  | digits => some (Nat.ofDigitChars 10 digits 0)

/-- The numbers of the placeholders in a text, from left to right. -/
def placeholders (lead : Char) : List Char → List Nat
  | [] => []
  | c :: cs => (if c = lead then (leadingNumber? cs).toList else []) ++ placeholders lead cs

/-- A text that does not start with a digit. -/
def NoDigitFirst (cs : List Char) : Prop :=
  ∀ c, cs.head? = some c → c.isDigit = false

instance (cs : List Char) : Decidable (NoDigitFirst cs) :=
  decidable_of_iff (cs.head?.all (!·.isDigit)) (by simp [NoDigitFirst, Option.all_eq_true])

theorem noDigitFirst_nil : NoDigitFirst [] := by
  intro c h
  simp at h

theorem noDigitFirst_cons {c : Char} (h : c.isDigit = false) (cs : List Char) :
    NoDigitFirst (c :: cs) := by
  intro c' h'
  obtain rfl : c = c' := by simpa using h'
  exact h

theorem noDigitFirst_append {cs rest : List Char} (hcs : NoDigitFirst cs)
    (hrest : NoDigitFirst rest) : NoDigitFirst (cs ++ rest) := by
  cases cs with
  | nil => exact hrest
  | cons c cs => exact noDigitFirst_cons (hcs c rfl) _

/-- Text without a lead has no placeholders. -/
theorem placeholders_append_of_notMem {lead : Char} {cs : List Char} (h : lead ∉ cs)
    (rest : List Char) : placeholders lead (cs ++ rest) = placeholders lead rest := by
  induction cs with
  | nil => rfl
  | cons c cs ih =>
    have hne : c ≠ lead := fun e => h (by simp [e])
    rw [List.cons_append, placeholders, if_neg hne, List.nil_append]
    exact ih fun hmem => h (by simp [hmem])

theorem placeholders_of_notMem {lead : Char} {cs : List Char} (h : lead ∉ cs) :
    placeholders lead cs = [] := by
  have happend := placeholders_append_of_notMem h []
  rwa [List.append_nil] at happend

theorem isDigit_of_mem_toDigits {c : Char} {n : Nat} (h : c ∈ Nat.toDigits 10 n) :
    c.isDigit :=
  Nat.isDigit_of_mem_toDigits (by decide) (by decide) h

/-- The decimal digits of a number are read as the number where no digit follows. -/
theorem leadingNumber?_toDigits (n : Nat) {rest : List Char} (h : NoDigitFirst rest) :
    leadingNumber? (Nat.toDigits 10 n ++ rest) = some n := by
  have hrest : rest.takeWhile Char.isDigit = [] := by
    cases rest with
    | nil => rfl
    | cons c cs => simp [h c rfl]
  have htake : (Nat.toDigits 10 n ++ rest).takeWhile Char.isDigit = Nat.toDigits 10 n := by
    rw [List.takeWhile_append_of_pos fun c hc => isDigit_of_mem_toDigits hc, hrest,
      List.append_nil]
  -- There is at least one digit, so that there is a number to read.
  rw [leadingNumber?, htake]
  cases hd : Nat.toDigits 10 n with
  | nil => exact absurd hd Nat.toDigits_ne_nil
  | cons c cs =>
    simp only
    rw [← hd, Nat.ofDigitChars_ten_toDigits]

end Text

open Text

namespace Dialect

variable (d : Dialect)

theorem toList_placeholder (n : Nat) :
    (d.placeholder n).toList = d.placeholderLead :: Nat.toDigits 10 n := by
  simp [placeholder, Nat.toString_eq_repr]

theorem isDigit_placeholderLead : d.placeholderLead.isDigit = false := by
  cases d <;> decide

/-- No digit is a lead. -/
theorem placeholderLead_notMem_toDigits (n : Nat) :
    d.placeholderLead ∉ Nat.toDigits 10 n := by
  intro h
  have hdigit := isDigit_of_mem_toDigits h
  rw [d.isDigit_placeholderLead] at hdigit
  exact Bool.false_ne_true hdigit

/-- A placeholder is read as its number where no digit follows. -/
theorem placeholders_placeholder (n : Nat) {rest : List Char} (h : NoDigitFirst rest) :
    placeholders d.placeholderLead ((d.placeholder n).toList ++ rest) =
      n :: placeholders d.placeholderLead rest := by
  rw [toList_placeholder, List.cons_append, placeholders, if_pos rfl, leadingNumber?_toDigits n h,
    placeholders_append_of_notMem (d.placeholderLead_notMem_toDigits n)]
  rfl

/-- Placeholders with commas between them are read as their numbers. -/
theorem placeholders_intercalate (ns : List Nat) :
    placeholders d.placeholderLead (String.intercalate "," (ns.map d.placeholder)).toList = ns := by
  induction ns with
  | nil => simp [placeholders]
  | cons n ns ih =>
    cases ns with
    | nil =>
      rw [List.map_cons, List.map_nil, String.intercalate_singleton,
        ← List.append_nil (d.placeholder n).toList, d.placeholders_placeholder n noDigitFirst_nil]
      rfl
    | cons m ms =>
      have hcomma : d.placeholderLead ∉ [','] := by cases d <;> decide
      have hapart : ∀ cs, NoDigitFirst ([','] ++ cs) := noDigitFirst_cons (by decide)
      have htext : (String.intercalate "," ((n :: m :: ms).map d.placeholder)).toList =
          (d.placeholder n).toList ++
            ([','] ++ (String.intercalate "," ((m :: ms).map d.placeholder)).toList) := by
        simp [String.intercalate_cons_cons]
      rw [htext, d.placeholders_placeholder n (hapart _), placeholders_append_of_notMem hcomma, ih]

end Dialect

/-- A text without the lead of a placeholder. -/
def Dialect.Avoids (d : Dialect) (s : String) : Prop :=
  d.placeholderLead ∉ s.toList

instance (d : Dialect) (s : String) : Decidable (d.Avoids s) :=
  inferInstanceAs (Decidable (d.placeholderLead ∉ s.toList))

@[simp]
theorem Dialect.avoids_append (d : Dialect) (s t : String) :
    d.Avoids (s ++ t) ↔ d.Avoids s ∧ d.Avoids t := by
  simp [Avoids]

namespace Fragment

/-- Whether a fragment is empty or starts with text that does not start with a digit. -/
def StartsApart : Fragment → Prop
  | [] => True
  | .text s :: _ => s ≠ "" ∧ NoDigitFirst s.toList
  | _ => False

/-- A fragment without the lead in its text, in which no value is followed by a digit. -/
def Legible (d : Dialect) : Fragment → Prop
  | [] => True
  | .text s :: f => d.Avoids s ∧ Legible d f
  | .truth _ :: f => Legible d f
  | .value _ :: f => StartsApart f ∧ Legible d f

variable {d : Dialect}

/-- Text that starts with something else than a digit keeps a value before it apart. -/
theorem startsApart_text {s : String} {c : Char} {cs : List Char} (hs : s.toList = c :: cs)
    (hc : c.isDigit = false) (f : Fragment) : StartsApart (.text s :: f) := by
  refine ⟨fun h => ?_, ?_⟩
  · rw [h] at hs
    simp at hs
  · rw [hs]
    exact noDigitFirst_cons hc cs

theorem startsApart_append {f g : Fragment} (hf : f.StartsApart) (hg : g.StartsApart) :
    StartsApart (f ++ g) := by
  cases f with
  | nil => exact hg
  | cons p f => cases p <;> exact hf

theorem Legible.append {f g : Fragment} (hf : f.Legible d) (hg : g.Legible d)
    (hapart : g.StartsApart) : Legible d (f ++ g) := by
  induction f with
  | nil => exact hg
  | cons p f ih =>
    cases p with
    | text s => exact ⟨hf.1, ih hf.2⟩
    | truth b => exact ih hf
    | value v => exact ⟨startsApart_append hf.1 hapart, ih hf.2⟩

theorem legible_bind (v : Value) : Legible d (bind v) := ⟨trivial, trivial⟩

/-- Legible fragments are legible with a separator between them that keeps them apart. -/
theorem legible_join {separator : String} {fs : List Fragment}
    (hseparator : d.Avoids separator) (hapart : StartsApart [.text separator])
    (h : ∀ f ∈ fs, Legible d f) : Legible d (join separator fs) := by
  induction fs with
  | nil => trivial
  | cons f fs ih =>
    cases fs with
    | nil => exact h f (by simp)
    | cons g gs =>
      rw [join_cons_cons]
      exact (h f (by simp)).append ⟨hseparator, ih fun f hf => h f (by simp [hf])⟩ hapart

theorem noDigitFirst_sql {f : Fragment} (h : f.StartsApart) (mode : BindMode) (n : Nat)
    {rest : List Char} (hrest : NoDigitFirst rest) :
    NoDigitFirst ((f.sql d mode n).toList ++ rest) := by
  cases f with
  | nil => exact hrest
  | cons p f =>
    cases p with
    | text s =>
      obtain ⟨hne, hfirst⟩ := h
      cases hs : s.toList with
      | nil => exact absurd (by simpa using hs) hne
      | cons c cs =>
        rw [hs] at hfirst
        simp only [sql, String.toList_append, hs, List.cons_append]
        exact noDigitFirst_cons (hfirst c rfl) _
    | truth b => exact absurd h id
    | value v => exact absurd h id

/-- The placeholders of a legible fragment are those of its values, counted on from the parameters
before it, and then those of what follows. -/
theorem placeholders_sql {f : Fragment} (h : f.Legible d) (n : Nat)
    {rest : List Char} (hrest : NoDigitFirst rest) :
    placeholders d.placeholderLead ((f.sql d .parameterized n).toList ++ rest) =
      List.range' (n + 1) f.values.length ++ placeholders d.placeholderLead rest := by
  -- The number of parameters so far grows with each value, and what follows stays apart from it.
  induction f generalizing n with
  | nil => rfl
  | cons p f ih =>
    cases p with
    | text s =>
      rw [sql, String.toList_append, List.append_assoc, placeholders_append_of_notMem h.1]
      exact ih h.2 n
    | truth b =>
      have htruth : d.Avoids (d.truth b) := by cases d <;> cases b <;> decide
      rw [sql, String.toList_append, List.append_assoc, placeholders_append_of_notMem htruth]
      exact ih h n
    | value v =>
      simp only [sql, String.toList_append, List.append_assoc]
      rw [d.placeholders_placeholder _ (noDigitFirst_sql h.1 .parameterized _ hrest),
        ih h.2 (n + 1)]
      rfl

end Fragment

end FilterSql
