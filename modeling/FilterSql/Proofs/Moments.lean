import FilterSql.DateTime
import Mathlib.Data.List.Basic

/-!
# Dates and moments as texts

A number that is written in digits is read back from them, also with zeros in front. So texts that
are made of such numbers are told apart if it can be told where each number starts. In a date and
in a moment every number but the year has two digits, so that they are cut off one by one from the
end, and the sign and the digits of the year are what is left.
-/

namespace FilterSql

/-! ## Digits -/

namespace Text

/-- The value of a digit, decimal or hexadecimal. -/
def digitValue (c : Char) : Nat :=
  "0123456789abcdef".toList.idxOf c

/-- The number of some digits. -/
def number (base : Nat) (cs : List Char) : Nat :=
  cs.foldl (fun n c => base * n + digitValue c) 0

theorem digitValue_digitChar {d : Nat} (h : d < 16) : digitValue (Nat.digitChar d) = d := by
  have hall : ∀ d < 16, digitValue (Nat.digitChar d) = d := by decide
  exact hall d h

theorem number_concat (base : Nat) (cs : List Char) (c : Char) :
    number base (cs ++ [c]) = base * number base cs + digitValue c := by
  rw [number, List.foldl_append]
  rfl

/-- Digits are read as the number that they were written for. -/
theorem number_toDigits {base : Nat} (hone : 1 < base) (hbase : base ≤ 16) (n : Nat) :
    number base (Nat.toDigits base n) = n := by
  induction n using Nat.strongRecOn with
  | ind n ih =>
    rw [Nat.toDigits_eq_if hone]
    split
    · rename_i hn
      simp [number, digitValue_digitChar (show n < 16 by omega)]
    · rename_i hn
      have hmod : n % base < 16 := Nat.lt_of_lt_of_le (Nat.mod_lt n (by omega)) hbase
      rw [number_concat, ih _ (Nat.div_lt_self (by omega) hone), digitValue_digitChar hmod,
        Nat.div_add_mod]

/-- Zeros in front change nothing. -/
theorem number_replicate_append (base k : Nat) (cs : List Char) :
    number base (List.replicate k '0' ++ cs) = number base cs := by
  have hzero : digitValue '0' = 0 := by decide
  induction k with
  | zero => rfl
  | succ k ih =>
    rw [← ih, List.replicate_succ, List.cons_append, number, List.foldl_cons, hzero]
    rfl

theorem mem_digits_of_mem_toDigits {base n : Nat} {c : Char} (hone : 1 < base) (hbase : base ≤ 16)
    (h : c ∈ Nat.toDigits base n) : c ∈ "0123456789abcdef".toList := by
  have hall : ∀ d < 16, Nat.digitChar d ∈ "0123456789abcdef".toList := by decide
  induction n using Nat.strongRecOn with
  | ind n ih =>
    rw [Nat.toDigits_eq_if hone] at h
    split at h
    · rename_i hn
      rw [List.mem_singleton.mp h]
      exact hall n (by omega)
    · rename_i hn
      rcases List.mem_append.mp h with h | h
      · exact ih _ (Nat.div_lt_self (by omega) hone) h
      · rw [List.mem_singleton.mp h]
        exact hall _ (Nat.lt_of_lt_of_le (Nat.mod_lt n (by omega)) hbase)

end Text

theorem toList_zeroPadded (width n : Nat) :
    (zeroPadded width n).toList =
      List.replicate (width - (toString n).length) '0' ++ Nat.toDigits 10 n := by
  simp [zeroPadded, Nat.toString_eq_repr, Nat.toList_repr]

theorem number_zeroPadded (width n : Nat) : Text.number 10 (zeroPadded width n).toList = n := by
  rw [toList_zeroPadded, Text.number_replicate_append, Text.number_toDigits (by omega) (by omega)]

theorem length_zeroPadded {width n : Nat} (hwidth : 0 < width) (h : n < Nat.pow 10 width) :
    (zeroPadded width n).toList.length = width := by
  have hlength : (Nat.toDigits 10 n).length ≤ width :=
    (Nat.length_toDigits_le_iff (by omega) hwidth).mpr h
  have htext : (toString n).length = (Nat.toDigits 10 n).length := by
    rw [← String.length_toList, Nat.toString_eq_repr, Nat.toList_repr]
  rw [toList_zeroPadded, List.length_append, List.length_replicate, htext]
  omega

/-- Padded numbers of one width are told apart. -/
theorem zeroPadded_inj {width n n' : Nat} (h : zeroPadded width n = zeroPadded width n') :
    n = n' := by
  rw [← number_zeroPadded width n, h, number_zeroPadded]

/-- Texts that end in padded numbers of one width are told apart by what is before these, and by
the numbers. -/
theorem append_zeroPadded_inj {width n n' : Nat} {s s' : String} (hwidth : 0 < width)
    (hn : n < Nat.pow 10 width) (hn' : n' < Nat.pow 10 width)
    (h : s ++ zeroPadded width n = s' ++ zeroPadded width n') : s = s' ∧ n = n' := by
  have hlength : (zeroPadded width n).toList.length = (zeroPadded width n').toList.length := by
    rw [length_zeroPadded hwidth hn, length_zeroPadded hwidth hn']
  have hchars := congrArg String.toList h
  rw [String.toList_append, String.toList_append] at hchars
  obtain ⟨hs, hpadded⟩ := List.append_inj' hchars hlength
  exact ⟨String.toList_inj.mp hs, zeroPadded_inj (String.toList_inj.mp hpadded)⟩

/-- The same for two digits after a separator. -/
theorem append_two_inj {n n' : Nat} {s s' : String} (separator : String) (hn : n < 100)
    (hn' : n' < 100)
    (h : s ++ separator ++ zeroPadded 2 n = s' ++ separator ++ zeroPadded 2 n') :
    s = s' ∧ n = n' := by
  obtain ⟨hhead, hnumbers⟩ := append_zeroPadded_inj (by decide) hn hn' h
  have hchars := congrArg String.toList hhead
  rw [String.toList_append, String.toList_append] at hchars
  exact ⟨String.toList_inj.mp (List.append_cancel_right hchars), hnumbers⟩

/-! ## Dates and moments -/

namespace Date

/-- Whether a date is one of the calendar. -/
def IsCivil (d : Date) : Prop :=
  ∃ year month day, ofParts? year month day = some d

/-- The year of a date as it is written. -/
def yearText (year : Int) : String :=
  if 0 ≤ year ∧ year ≤ 9999 then zeroPadded 4 year.toNat
  else (if year < 0 then "-" else "+") ++ zeroPadded 4 year.natAbs

/-- A month and a day have at most two digits. -/
theorem IsCivil.bounds {d : Date} (h : d.IsCivil) : d.month < 100 ∧ d.day < 100 := by
  obtain ⟨year, month, day, h⟩ := h
  unfold ofParts? at h
  split at h
  · rename_i hparts
    obtain ⟨-, -, hmonth, hone, hday⟩ := hparts
    obtain rfl := Option.some.inj h
    have hdays : ∀ m, daysIn year m ≤ 31 ∧ (daysIn year m ≠ 0 → m ≤ 12) := by
      intro m
      unfold daysIn
      split <;> first | omega | (split <;> omega)
    have hmonths := hdays month.toNat
    dsimp only
    omega
  · cases h

/-- The sign that a year is written with. -/
def yearSign (year : Int) : List Char :=
  if 0 ≤ year ∧ year ≤ 9999 then [] else if year < 0 then ['-'] else ['+']

theorem toList_yearText (year : Int) :
    (yearText year).toList = yearSign year ++ (zeroPadded 4 year.natAbs).toList := by
  unfold yearText yearSign
  split
  · rename_i hyear
    have habs : year.toNat = year.natAbs := by omega
    rw [habs, List.nil_append]
  · split <;> rw [String.toList_append] <;> rfl

theorem digit_of_mem_zeroPadded {width n : Nat} {c : Char} (h : c ∈ (zeroPadded width n).toList) :
    c ∈ "0123456789abcdef".toList := by
  rw [toList_zeroPadded] at h
  rcases List.mem_append.mp h with h | h
  · rw [List.eq_of_mem_replicate h]
    decide
  · exact Text.mem_digits_of_mem_toDigits (by omega) (by omega) h

def isSign (c : Char) : Bool :=
  c == '-' || c == '+'

theorem takeWhile_isSign_yearText (year : Int) :
    (yearText year).toList.takeWhile isSign = yearSign year := by
  have hsign : ∀ c ∈ yearSign year, isSign c := by
    unfold yearSign
    split
    · simp
    · split <;> simp [isSign]
  have hdigits : (zeroPadded 4 year.natAbs).toList.takeWhile isSign = [] := by
    have hall : "0123456789abcdef".toList.all (!isSign ·) := by decide
    cases hcs : (zeroPadded 4 year.natAbs).toList with
    | nil => rfl
    | cons c cs =>
      have hc : c ∈ (zeroPadded 4 year.natAbs).toList := hcs ▸ List.mem_cons_self
      have hnot := List.all_eq_true.mp hall c (digit_of_mem_zeroPadded hc)
      rw [List.takeWhile_cons_of_neg (by simpa using hnot)]
  rw [toList_yearText, List.takeWhile_append_of_pos hsign, hdigits, List.append_nil]

/-- Years are told apart by their texts. -/
theorem yearText_inj {year year' : Int} (h : yearText year = yearText year') : year = year' := by
  have hsigns : yearSign year = yearSign year' := by
    rw [← takeWhile_isSign_yearText, h, takeWhile_isSign_yearText]
  have hnumbers : year.natAbs = year'.natAbs := by
    have hchars := congrArg String.toList h
    rw [toList_yearText, toList_yearText, hsigns] at hchars
    exact zeroPadded_inj (String.toList_inj.mp (List.append_cancel_left hchars))
  unfold yearSign at hsigns
  -- A year without a sign is not before 0, and has no more than four digits.
  split_ifs at hsigns <;> first | omega | exact absurd hsigns (by decide)

/-- Dates of the calendar are told apart by their texts. -/
theorem text_inj {d d' : Date} (hd : d.IsCivil) (hd' : d'.IsCivil) (h : d.text = d'.text) :
    d = d' := by
  obtain ⟨hmonth, hday⟩ := hd.bounds
  obtain ⟨hmonth', hday'⟩ := hd'.bounds
  -- Months and days have two digits each, so that the two texts are cut in the same places.
  obtain ⟨hhead, hdays⟩ := append_two_inj "-" hday hday' h
  obtain ⟨hyears, hmonths⟩ := append_two_inj "-" hmonth hmonth' hhead
  cases d
  cases d'
  rw [mk.injEq]
  exact ⟨yearText_inj hyears, hmonths, hdays⟩

end Date

namespace DateTime

/-- Whether a moment is one of the calendar. -/
def IsCivil (t : DateTime) : Prop :=
  ∃ year month day hour minute second nanosecond,
    ofParts? year month day hour minute second nanosecond = some t

/-- A moment without the part of its second, of which a leap second stays. -/
def toSecond (t : DateTime) : DateTime :=
  { t with nanosecond := t.nanosecond / 1000000000 * 1000000000 }

theorem text_toSecond (t : DateTime) : t.toSecond.text = t.text := by
  have hwhole : t.nanosecond / 1000000000 * 1000000000 / 1000000000 = t.nanosecond / 1000000000 :=
    Nat.mul_div_cancel _ (by decide)
  simp only [text, toSecond, hwhole]

/-- The parts of a moment have at most two digits, and only second 59 has a leap second. -/
theorem IsCivil.bounds {t : DateTime} (h : t.IsCivil) :
    t.date.IsCivil ∧ t.hour < 100 ∧ t.minute < 100 ∧ t.second < 60 ∧
      (t.nanosecond / 1000000000 = 0 ∨ t.second = 59 ∧ t.nanosecond / 1000000000 = 1) := by
  obtain ⟨year, month, day, hour, minute, second, nanosecond, h⟩ := h
  unfold ofParts? at h
  cases hdate : Date.ofParts? year month day with
  | none => simp [hdate] at h
  | some date =>
    rw [hdate, Option.bind_eq_bind, Option.bind_some] at h
    split at h
    · obtain rfl := Option.some.inj h
      refine ⟨⟨year, month, day, hdate⟩, ?_⟩
      dsimp only
      omega
    · cases h

/-- Moments of the calendar are told apart by their texts up to parts of a second. -/
theorem text_eq_iff {t t' : DateTime} (ht : t.IsCivil) (ht' : t'.IsCivil) :
    t.text = t'.text ↔ t.toSecond = t'.toSecond := by
  obtain ⟨hdate, hhour, hminute, hsecond, hleap⟩ := ht.bounds
  obtain ⟨hdate', hhour', hminute', hsecond', hleap'⟩ := ht'.bounds
  constructor
  · intro h
    obtain ⟨hrest, hseconds⟩ := append_two_inj ":" (by omega) (by omega) h
    obtain ⟨hrest, hminutes⟩ := append_two_inj ":" hminute hminute' hrest
    obtain ⟨hdates, hhours⟩ := append_two_inj " " hhour hhour' hrest
    -- Second 60 is told from second 59 only by the leap second.
    have hwhole : t.second = t'.second ∧
        t.nanosecond / 1000000000 = t'.nanosecond / 1000000000 := by omega
    simp [toSecond, Date.text_inj hdate hdate' hdates, hhours, hminutes, hwhole]
  · intro h
    rw [← t.text_toSecond, h, t'.text_toSecond]

end DateTime

end FilterSql
