import FilterSql.Value.Literal

/-!
# Deferred values

A deferred value stands for what it yields, and for null where that is deferred again.
`Value.evaluated` puts what it stands for in the place of every deferred value, at every depth of an
array. Whatever looks at a value through `Value.resolve` sees the same before and after
(`resolve_evaluated`, `isNull_evaluated`, `evaluated_operand_resolve`), and so does a literal, which
looks through the deferred values of an array by itself (`literal_evaluated`). Trusted text is the
one exception: it looks through every level, and so agrees where no deferred value yields another
(`rawText_evaluated`).
-/

namespace FilterSql.Value

/-- Whether a value is only known when the statement is compiled. -/
def isDeferred : Value → Bool
  | deferred _ => true
  | _ => false

mutual

/-- A value with what they stand for in the place of the deferred values in it. -/
def evaluated : Value → Value
  | array items => array (evaluatedAll items)
  | deferred (deferred _) => null
  | deferred v => evaluated v
  | v => v

/-- Values with what they stand for in the place of the deferred values in them. -/
def evaluatedAll : List Value → List Value
  | [] => []
  | v :: vs => evaluated v :: evaluatedAll vs

end

mutual

/-- Whether a deferred value in a value yields another. -/
def chains : Value → Bool
  | array items => anyChains items
  | deferred v => v.isDeferred || chains v
  | _ => false

/-- Whether a deferred value in one of the values yields another. -/
def anyChains : List Value → Bool
  | [] => false
  | v :: vs => chains v || anyChains vs

end

theorem evaluatedAll_eq_map (vs : List Value) : evaluatedAll vs = vs.map evaluated := by
  induction vs with
  | nil => rfl
  | cons v vs ih => rw [evaluatedAll, ih, List.map_cons]

/-- To show a property of every value it is enough to show it of values without others in them, of
an array of items that have it, and of what is deferred and has it when it is known. -/
theorem induction {motive : Value → Prop}
    (atom : ∀ v, v.isDeferred = false → v.evaluated = v → motive v)
    (array : ∀ items, (∀ v ∈ items, motive v) → motive (.array items))
    (deferred : ∀ v, motive v → motive (.deferred v)) : ∀ v, motive v
  | .array items => array items fun v _ => induction atom array deferred v
  | .deferred v => deferred v (induction atom array deferred v)
  | .null => atom _ rfl rfl
  | .bool _ => atom _ rfl rfl
  | .int _ => atom _ rfl rfl
  | .float _ => atom _ rfl rfl
  | .text _ => atom _ rfl rfl
  | .dateTime _ => atom _ rfl rfl
  | .json _ => atom _ rfl rfl

/-! ## One level -/

/-- Resolving leaves nothing deferred, except in arrays. -/
@[simp]
theorem isDeferred_resolve (v : Value) : v.resolve.isDeferred = false := by
  cases v with
  | deferred w => cases w <;> rfl
  | _ => rfl

theorem isDeferred_evaluated (v : Value) : v.evaluated.isDeferred = false := by
  induction v using induction with
  | atom v hv h => rw [h, hv]
  | array items _ => rfl
  | deferred v ih =>
    cases v with
    | deferred _ => rfl
    | _ => exact ih

theorem resolve_of_not_isDeferred {v : Value} (h : v.isDeferred = false) : v.resolve = v := by
  cases v with
  | deferred _ => simp [isDeferred] at h
  | _ => rfl

/-- What is evaluated is resolved. -/
@[simp]
theorem resolve_evaluated (v : Value) : v.evaluated.resolve = v.evaluated :=
  resolve_of_not_isDeferred v.isDeferred_evaluated

/-- Evaluating goes on from what resolving gives. -/
@[simp]
theorem evaluated_resolve (v : Value) : v.resolve.evaluated = v.evaluated := by
  cases v with
  | deferred w => cases w <;> rfl
  | _ => rfl

/-- A value is null when it is evaluated exactly when it is null when it is resolved. -/
theorem isNull_evaluated (v : Value) : v.evaluated.isNull = v.resolve.isNull := by
  cases v with
  | deferred w => cases w <;> rfl
  | _ => rfl

/-- Evaluating an operand gives the operand of what is evaluated. -/
theorem evaluated_operand_resolve (v : Value) :
    v.resolve.operand.evaluated = v.evaluated.operand := by
  have hfalsy : v.evaluated.isFalsy = v.resolve.isFalsy := by
    cases v with
    | deferred w => cases w <;> rfl
    | _ => rfl
  unfold operand
  rw [hfalsy]
  split
  · rfl
  · exact v.evaluated_resolve

@[simp]
theorem isDeferred_operand_resolve (v : Value) : v.resolve.operand.isDeferred = false := by
  unfold operand
  split
  · rfl
  · exact v.isDeferred_resolve

/-! ## Texts -/

theorem literals_eq_map (d : Dialect) (vs : List Value) : literals d vs = vs.map (literal d) := by
  induction vs with
  | nil => rfl
  | cons v vs ih => rw [literals, ih, List.map_cons]

theorem rawTexts_eq_map (vs : List Value) : rawTexts vs = vs.map rawText := by
  induction vs with
  | nil => rfl
  | cons v vs ih => rw [rawTexts, ih, List.map_cons]

/-- A literal shows what the deferred values in a value stand for. -/
theorem literal_evaluated (d : Dialect) (v : Value) : v.evaluated.literal d = v.literal d := by
  induction v using induction with
  | atom v _ hv => rw [hv]
  | array items ih =>
    rw [evaluated, literal, literal, literals_eq_map, literals_eq_map, evaluatedAll_eq_map,
      List.map_map]
    exact congrArg _ (List.map_congr_left ih)
  | deferred v ih =>
    cases v with
    -- Both the literal and what it stands for stop at the second level.
    | deferred _ => rfl
    | _ => exact ih

theorem chains_of_mem {v : Value} {vs : List Value} (hv : v ∈ vs) (h : anyChains vs = false) :
    v.chains = false := by
  induction vs with
  | nil => simp at hv
  | cons w vs ih =>
    obtain ⟨hw, hvs⟩ := Bool.or_eq_false_iff.mp h
    rcases List.mem_cons.mp hv with rfl | hv
    · exact hw
    · exact ih hv hvs

/-- Trusted text shows what the deferred values in a value stand for, if none yields another. -/
theorem rawText_evaluated {v : Value} (h : v.chains = false) : v.evaluated.rawText = v.rawText := by
  induction v using induction with
  | atom v _ hv => rw [hv]
  | array items ih =>
    rw [evaluated, rawText, rawText, rawTexts_eq_map, rawTexts_eq_map, evaluatedAll_eq_map,
      List.map_map]
    exact congrArg _ (List.map_congr_left fun v hv => ih v hv (chains_of_mem hv h))
  | deferred v ih =>
    obtain ⟨hv, hchains⟩ := Bool.or_eq_false_iff.mp h
    cases v with
    | deferred _ => simp [isDeferred] at hv
    | _ => exact ih hchains

/-- The same for text of which the deferred value as a whole has been resolved. -/
theorem rawText_evaluated_of_resolve {v : Value} (h : v.resolve.chains = false) :
    v.evaluated.rawText = v.resolve.rawText := by
  rw [← v.evaluated_resolve]
  exact rawText_evaluated h

end FilterSql.Value
