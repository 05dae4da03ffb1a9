import FilterSql.Proofs.Fragment

/-!
# Rewriting the tests of a filter

A rewriting puts tests in the place of the tests of a filter, and leaves its groups and its
conditions of an unknown kind where they are. What is then true of the SQL of each test, up to a
change of the pieces that it is made of, is true of the filter (`map_filterFragment`), by induction
over the conditions: the parentheses and the operators are the same on both sides.
-/

namespace FilterSql

/-- A change of pieces that leaves text as it is goes into a joined fragment. -/
theorem Fragment.map_join {f : Piece → Piece} (hf : ∀ s, f (.text s) = .text s) (separator : String)
    (fs : List Fragment) : (join separator fs).map f = join separator (fs.map (List.map f)) := by
  induction fs with
  | nil => rfl
  | cons p fs ih =>
    cases fs with
    | nil => rfl
    | cons q qs =>
      rw [join_cons_cons, List.map_append, List.map_cons, hf, ih]
      rfl

namespace Condition

mutual

/-- The tests of a condition. -/
def tests : Condition → List Condition
  | any conditions => testsAll conditions
  | unknown _ => []
  | c => [c]

/-- The tests of conditions, depth first and from left to right. -/
def testsAll : List Condition → List Condition
  | [] => []
  | c :: cs => tests c ++ testsAll cs

end

theorem tests_of_isTest {c : Condition} (h : c.isTest) : c.tests = [c] := by
  cases c with
  | any _ | unknown _ => exact absurd h Bool.false_ne_true
  | _ => rfl

theorem unknown?_of_isTest {c : Condition} (h : c.isTest) : c.unknown? = none := by
  cases c with
  | any _ | unknown _ => exact absurd h Bool.false_ne_true
  | _ => rfl

/-- A function on conditions that goes into groups, puts tests in the place of tests, and leaves
unknown kinds alone. -/
structure Rewriting where
  rewrite : Condition → Condition
  rewrite_any : ∀ cs, rewrite (.any cs) = .any (cs.map rewrite)
  rewrite_unknown : ∀ kind, rewrite (.unknown kind) = .unknown kind
  isTest_rewrite : ∀ {c}, c.isTest → (rewrite c).isTest

namespace Rewriting

variable (T : Rewriting) (column : String → String)

/-- Whether the rewritten test and the test have the same SQL, up to a change of the pieces of
either. -/
def Agrees (f g : Piece → Piece) (c : Condition) : Prop :=
  ((T.rewrite c).test? column).map (·.fragment.map f) = (c.test? column).map (·.fragment.map g)

/-- Rewriting keeps the first unknown kind. -/
theorem unknown?_rewrite :
    (∀ c, (T.rewrite c).unknown? = c.unknown?) ∧
      ∀ cs, firstUnknown? (cs.map T.rewrite) = firstUnknown? cs := by
  apply induction_both
  case test =>
    intro c hc
    rw [unknown?_of_isTest hc, unknown?_of_isTest (T.isTest_rewrite hc)]
  case unknown =>
    intro kind
    rw [T.rewrite_unknown]
  case any =>
    intro cs ih
    rw [T.rewrite_any, unknown?, unknown?, ih]
  case nil => rfl
  case cons =>
    intro c cs hc hcs
    rw [List.map_cons, firstUnknown?, firstUnknown?, hc, hcs]

variable {f g : Piece → Piece} (hf : ∀ s, f (.text s) = .text s) (hg : ∀ s, g (.text s) = .text s)

include hf hg

/-- Conditions have the fragments of the rewritten conditions, up to a change of pieces, when their
tests do. -/
theorem map_fragment? :
    (∀ c, (∀ t ∈ c.tests, T.Agrees column f g t) →
      ((T.rewrite c).fragment? column).map (List.map f) =
        (c.fragment? column).map (List.map g)) ∧
    ∀ cs, (∀ t ∈ testsAll cs, T.Agrees column f g t) →
      ((cs.map T.rewrite).filterMap (fragment? column)).map (List.map f) =
        (cs.filterMap (fragment? column)).map (List.map g) := by
  apply induction_both
  case test =>
    intro c hc h
    rw [fragment?_of_isTest column hc, fragment?_of_isTest column (T.isTest_rewrite hc),
      Option.map_map, Option.map_map]
    exact h c (by simp [tests_of_isTest hc])
  case unknown =>
    intro kind _
    rw [T.rewrite_unknown]
    rfl
  case any =>
    intro cs ih h
    have hmembers := ih h
    rw [T.rewrite_any, fragment?_any, fragment?_any]
    -- What a group is made of counts only through the fragments of its members.
    generalize (cs.map T.rewrite).filterMap (fragment? column) = fs' at hmembers ⊢
    generalize cs.filterMap (fragment? column) = fs at hmembers ⊢
    cases fs with
    | nil =>
      obtain rfl := List.map_eq_nil_iff.mp hmembers
      rfl
    | cons p ps =>
      cases fs' with
      | nil => simp at hmembers
      | cons q qs =>
        simp only [Option.map_some, List.map_cons, List.map_append, Fragment.map_join hf,
          Fragment.map_join hg, hf, hg, List.map_nil] at hmembers ⊢
        rw [hmembers]
  case nil => exact fun _ => rfl
  case cons =>
    intro c cs hc hcs h
    have hhead := hc fun t ht => h t (List.mem_append_left _ ht)
    have htail := hcs fun t ht => h t (List.mem_append_right _ ht)
    rw [List.map_cons, List.filterMap_cons, List.filterMap_cons]
    cases hleft : (T.rewrite c).fragment? column <;> cases hright : c.fragment? column <;>
      simp_all

/-- A filter has the fragment of the rewritten filter, up to a change of pieces, when its tests
do. -/
theorem map_filterFragment {cs : List Condition}
    (h : ∀ t ∈ testsAll cs, T.Agrees column f g t) :
    (filterFragment column (cs.map T.rewrite)).map f = (filterFragment column cs).map g := by
  have hmembers := (T.map_fragment? column hf hg).2 cs h
  rw [filterFragment_eq, filterFragment_eq]
  generalize (cs.map T.rewrite).filterMap (fragment? column) = fs' at hmembers ⊢
  generalize cs.filterMap (fragment? column) = fs at hmembers ⊢
  cases fs with
  | nil =>
    obtain rfl := List.map_eq_nil_iff.mp hmembers
    rfl
  | cons p ps =>
    cases fs' with
    | nil => simp at hmembers
    | cons q qs =>
      simp only [List.map_cons, Fragment.map_join hf, Fragment.map_join hg, hf, hg] at hmembers ⊢
      rw [hmembers]

end Rewriting

end Condition

end FilterSql
