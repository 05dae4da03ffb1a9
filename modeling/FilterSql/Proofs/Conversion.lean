import FilterSql.Proofs.Cells
import FilterSql.Proofs.Document

/-!
# Values and documents, one for the other

Reading a value from its document gives the value back exactly for the plain values, and writing a
document from its value gives the document back exactly if its numbers are numbers of values too
(`Json.isExact`). An object is no matter here, for it stays in a value as it is. So on the plain
values and the exact documents the two conversions undo each other at any depth of arrays
(`Value.conversions_inverse`), and whatever is outside of these is changed by one of them.
-/

namespace FilterSql

/-! ## Exact documents -/

mutual

/-- Whether all numbers of a document outside its objects are numbers of values: integers of 64 bits
and floating-point numbers that JSON can write. -/
def Json.isExact : Json → Bool
  | .null | .bool _ | .text _ | .object _ => true
  | .integer n => isInt64 n
  | .float x => x.isFinite
  | .array items => Json.allExact items

/-- Whether this holds of all documents of a list. -/
def Json.allExact : List Json → Bool
  | [] => true
  | j :: js => Json.isExact j && Json.allExact js

end

theorem Json.ofBinary64_eq_float_iff {x : Binary64} : ofBinary64 x = .float x ↔ x.isFinite := by
  rw [ofBinary64]
  split <;> simp [*]

theorem toInt_ofInt_of_isInt64 {n : Int} (h : isInt64 n) : (Int64.ofInt n).toInt = n := by
  obtain ⟨hmin, hmax⟩ := Bool.and_eq_true_iff.mp h
  have hlow : Int64.minValue.toInt ≤ n := of_decide_eq_true hmin
  have hhigh : n ≤ Int64.maxValue.toInt := of_decide_eq_true hmax
  rw [Int64.toInt_maxValue] at hhigh
  exact Int64.toInt_ofInt_of_le hlow (by omega)

namespace Value

/-! ## Documents of values of documents -/

mutual

/-- A document is the document of its value exactly if it is exact. -/
theorem toJson_ofJson_iff : ∀ j : Json, (ofJson j).toJson = j ↔ j.isExact
  | .null | .bool _ | .text _ | .object _ => iff_of_true rfl rfl
  | .integer n => by
    rw [ofJson, Json.isExact]
    split
    · rename_i hn
      exact iff_of_true (congrArg Json.integer (toInt_ofInt_of_isInt64 hn)) hn
    · rename_i hn
      exact iff_of_false Json.ofBinary64_ne_integer hn
  | .float _ => Json.ofBinary64_eq_float_iff
  | .array items => by
    rw [ofJson, toJson, Json.array.injEq, toJsons_ofJsons_iff items, Json.isExact]

theorem toJsons_ofJsons_iff : ∀ js : List Json, toJsons (ofJsons js) = js ↔ Json.allExact js
  | [] => iff_of_true rfl rfl
  | j :: js => by
    rw [ofJsons, toJsons, List.cons.injEq, toJson_ofJson_iff j, toJsons_ofJsons_iff js,
      Json.allExact, Bool.and_eq_true]

end

/-! ## Values of documents of values -/

/-- No document is read as a deferred value. -/
theorem ofJson_ne_deferred (j : Json) (v : Value) : ofJson j ≠ deferred v := by
  cases j with
  | integer n =>
    rw [ofJson]
    split <;> exact nofun
  | _ => exact nofun

mutual

/-- A value is the value of its document exactly if it is plain. -/
theorem ofJson_toJson_iff : ∀ v : Value, ofJson v.toJson = v ↔ v.isPlain
  | null | bool _ | text _ => iff_of_true rfl rfl
  | int n => iff_of_true (ofJson_toJson (int n) rfl) rfl
  | float x => by
    refine ⟨fun h => ?_, ofJson_toJson (float x)⟩
    by_contra hfinite
    rw [toJson, Json.ofBinary64_eq_null_iff.mpr hfinite] at h
    cases h
  | dateTime _ => iff_of_false nofun nofun
  | array items => by
    rw [toJson, ofJson, array.injEq, ofJsons_toJsons_iff items, isPlain]
  | json document => by
    -- Only an object is read as a document again.
    cases document with
    | object _ => exact iff_of_true rfl rfl
    | integer n =>
      refine iff_of_false (fun h => ?_) nofun
      rw [toJson, ofJson] at h
      split at h <;> cases h
    | _ => exact iff_of_false nofun nofun
  | deferred v => iff_of_false (ofJson_ne_deferred _ v) nofun

theorem ofJsons_toJsons_iff : ∀ vs : List Value, ofJsons (toJsons vs) = vs ↔ allPlain vs
  | [] => iff_of_true rfl rfl
  | v :: vs => by
    rw [toJsons, ofJsons, List.cons.injEq, ofJson_toJson_iff v, ofJsons_toJsons_iff vs, allPlain,
      Bool.and_eq_true]

end

/-! ## Both ways -/

/-- A document is the document of its value exactly if each of its integers outside objects fits 64
bits, and a value is the value of its document exactly if it is made of nulls, truth values,
integers, finite numbers, texts, arrays and objects. Going back and forth leads from the one kind to
the other, so that the conversions are inverses of each other there. -/
theorem conversions_inverse :
    (∀ j : Json, (ofJson j).toJson = j ↔ j.isExact) ∧
      (∀ v : Value, ofJson v.toJson = v ↔ v.isPlain) ∧
      (∀ j : Json, j.isExact → (ofJson j).isPlain) ∧ ∀ v : Value, v.isPlain → v.toJson.isExact := by
  refine ⟨toJson_ofJson_iff, ofJson_toJson_iff, fun j hj => ?_, fun v hv => ?_⟩
  · rw [← ofJson_toJson_iff, (toJson_ofJson_iff j).mpr hj]
  · rw [← toJson_ofJson_iff, (ofJson_toJson_iff v).mpr hv]

/-- The least integer of 64 bits in nested arrays, and a larger one in an object, which stays. -/
theorem conversions_inverse_nested :
    let j : Json := .array [.array [.integer (-9223372036854775808), .null],
      .object [("n", .integer 18446744073709551615)]]
    j.isExact ∧ (ofJson j).toJson = j ∧ (ofJson j).isPlain := by
  intro j
  have hexact : j.isExact := by decide
  obtain ⟨hdocument, -, hplain, -⟩ := conversions_inverse
  exact ⟨hexact, (hdocument j).mpr hexact, hplain j hexact⟩

/-- Outside an object such an integer does not come back. -/
example : Json.isExact (.array [.integer 18446744073709551615]) = false := by
  decide

end Value

end FilterSql
