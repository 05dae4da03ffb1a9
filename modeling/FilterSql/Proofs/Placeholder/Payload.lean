import FilterSql.Assignment
import FilterSql.Exec
import FilterSql.Proofs.Placeholder.Filter

/-!
# The placeholders of a payload

What the entries of a payload bind (`Entry.bound`) and what text they take from the caller
(`Entry.strings`). An insert and an update bind the same values, in the order of the entries
(`values_insertions`, `values_updates`), and what they write is legible when no text of the caller
has the lead of a placeholder in it.
-/

namespace FilterSql

namespace Value

@[simp]
theorem resolve_resolve (v : Value) : v.resolve.resolve = v.resolve := by
  cases v with
  | deferred w => cases w <;> rfl
  | _ => rfl

/-- Resolving does not change an operand of a resolved value. -/
@[simp]
theorem resolve_operand_resolve (v : Value) : v.resolve.operand.resolve = v.resolve.operand := by
  unfold operand
  split
  · rfl
  · exact v.resolve_resolve

end Value

namespace Entry

/-- The value that writing an entry binds, if it binds one. An operand that counts as zero is
zero. -/
def bound (e : Entry) : List Value :=
  match e.value, e.change with
  | none, _ => []
  | some v, .assign | some v, .raise | some v, .lower => [v.resolve]
  | some v, .add | some v, .subtract | some v, .multiply | some v, .divide => [v.resolve.operand]
  | some _, .toggle | some _, .raw | some _, .rawUpdate => []

/-- The texts of an entry that go into the statement: its column, and SQL of the caller. -/
def strings (e : Entry) : List String :=
  e.column ::
    match e.change, e.value with
    | .raw, some v | .rawUpdate, some v => [v.resolve.rawText]
    | _, _ => []

/-- Whether an operation writes an entry. -/
def isWritten (exec : Exec) (e : Entry) : Bool :=
  e.value.isSome && !(exec = .insert && e.change = .rawUpdate)

variable {d : Dialect} {e : Entry} {a : Assignment}

/-- An insert binds for an entry what the entry binds. -/
theorem values_insertion? (e : Entry) :
    e.insertion?.toList.flatMap (·.value.values) = e.bound := by
  obtain ⟨column, change, value⟩ := e
  cases value with
  | none => cases change <;> rfl
  | some v => cases change <;> simp [insertion?, inserted?, bound]

/-- An update binds for an entry what the entry binds. -/
theorem values_update? (e : Entry) :
    e.update?.toList.flatMap (·.fragment.values) = e.bound := by
  obtain ⟨column, change, value⟩ := e
  cases value with
  | none => cases change <;> rfl
  | some v => cases change <;> simp [update?, updated, bound, Assignment.fragment]

/-- An insert writes only entries that it does not skip. -/
theorem isWritten_insert (h : e.insertion?.isSome) : e.isWritten .insert := by
  obtain ⟨column, change, value⟩ := e
  cases value with
  | none => cases change <;> simp [insertion?] at h
  | some v => cases change <;> simp [insertion?, inserted?, isWritten] at h ⊢

/-- An update writes only entries with a value. -/
theorem isWritten_update (h : e.update?.isSome) : e.isWritten .update := by
  obtain ⟨column, change, value⟩ := e
  cases value with
  | none => cases change <;> simp [update?] at h
  | some v => rfl

theorem avoids_quoteIdentifier {name : String} (h : d.Avoids name) :
    d.Avoids (quoteIdentifier name) := by
  intro hmem
  rcases Column.mem_quoteIdentifier hmem with hmem | hmem
  · exact h hmem
  · exact d.placeholderLead_notMem_added hmem

/-- What an insert writes for an entry is legible when its column and its SQL have no lead. -/
theorem legible_insertion? (ha : e.insertion? = some a) (hs : ∀ s ∈ e.strings, d.Avoids s) :
    d.Avoids a.column ∧ a.value.Legible d := by
  obtain ⟨column, change, value⟩ := e
  have hcolumn : d.Avoids (quoteIdentifier column) :=
    avoids_quoteIdentifier (hs column (by simp [strings]))
  cases value with
  | none => cases change <;> simp [insertion?] at ha
  | some v =>
    cases change with
    | raw =>
      have hraw : d.Avoids v.resolve.rawText := hs _ (by simp [strings])
      obtain rfl : ⟨quoteIdentifier column, [.text v.resolve.rawText]⟩ = a := by
        simpa [insertion?, inserted?] using ha
      exact ⟨hcolumn, hraw, trivial⟩
    | rawUpdate => simp [insertion?, inserted?] at ha
    | toggle =>
      obtain rfl : ⟨quoteIdentifier column, [.truth false]⟩ = a := by
        simpa [insertion?, inserted?] using ha
      exact ⟨hcolumn, trivial⟩
    | assign | add | subtract | multiply | divide | raise | lower =>
      simp only [insertion?, inserted?, Option.bind_eq_bind, Option.bind_some, Option.pure_def,
        Option.some.injEq] at ha
      obtain rfl := ha
      exact ⟨hcolumn, Fragment.legible_bind _⟩

/-- What an update writes for an entry is legible when its column and its SQL have no lead. -/
theorem legible_update? (ha : e.update? = some a) (hs : ∀ s ∈ e.strings, d.Avoids s) :
    a.fragment.Legible d := by
  obtain ⟨column, change, value⟩ := e
  have hcolumn : d.Avoids (quoteIdentifier column) :=
    avoids_quoteIdentifier (hs column (by simp [strings]))
  have hw : ∀ w ∈ [" = ", "COALESCE(", ",0) ", " ", "+", "-", "*", "/", "GREATEST(", "LEAST(", ",",
      ")", "CASE ", " WHEN ", " THEN ", " ELSE ", " END"], d.Avoids w := by
    cases d <;> decide
  have hclose : Fragment.StartsApart [.text ")"] := Fragment.startsApart_text rfl rfl []
  cases value with
  | none => cases change <;> simp [update?] at ha
  | some v =>
    simp only [update?, Option.bind_eq_bind, Option.bind_some, Option.pure_def,
      Option.some.injEq] at ha
    obtain rfl := ha
    refine ⟨by simp [hcolumn, hw], ?_⟩
    cases change with
    | assign => exact Fragment.legible_bind _
    | raw | rawUpdate =>
      have hraw : d.Avoids v.resolve.rawText := hs _ (by simp [strings])
      exact ⟨hraw, trivial⟩
    | toggle =>
      exact ⟨by simp [hcolumn, hw], hw _ (by simp), hw _ (by simp), hw _ (by simp), trivial⟩
    | raise | lower =>
      exact ⟨by simp [hcolumn, hw],
        (Fragment.legible_bind v).append ⟨hw _ (by simp), trivial⟩ hclose⟩
    | add | subtract | multiply | divide =>
      exact ⟨by simp [hcolumn, hw], Fragment.legible_bind _⟩

end Entry

/-- A list of texts without the lead has none. -/
theorem Dialect.avoids_intercalate {d : Dialect} {l : List String} (h : ∀ s ∈ l, d.Avoids s) :
    d.Avoids (String.intercalate "," l) := by
  intro hmem
  rcases Text.mem_intercalate hmem with hmem | ⟨s, hs, hmem⟩
  · revert hmem
    cases d <;> decide
  · exact h s hs hmem

namespace Payload

/-- An insert binds what the entries bind, in order. -/
theorem values_insertions (p : Payload) :
    p.insertions.flatMap (·.value.values) = p.flatMap Entry.bound :=
  flatMap_filterMap fun e _ => e.values_insertion?

/-- An update binds what the entries bind, in order. -/
theorem values_updates (p : Payload) :
    p.updates.flatMap (·.fragment.values) = p.flatMap Entry.bound :=
  flatMap_filterMap fun e _ => e.values_update?

variable {d : Dialect} {p : Payload} {exec : Exec}

/-- The assignments of an operation are made of the texts of the entries that it writes. -/
theorem exists_entry {write : Entry → Option Assignment} {a : Assignment}
    (hwrite : ∀ e, (write e).isSome → e.isWritten exec) (ha : a ∈ p.filterMap write) :
    ∃ e, write e = some a ∧
      ∀ s ∈ e.strings, s ∈ (p.filter (·.isWritten exec)).flatMap Entry.strings := by
  obtain ⟨e, he, hea⟩ := List.mem_filterMap.mp ha
  refine ⟨e, hea, fun s hs => List.mem_flatMap.mpr ⟨e, ?_, hs⟩⟩
  exact List.mem_filter.mpr ⟨he, hwrite e (by simp [hea])⟩

/-- An insert is legible when no text of the entries that it writes has the lead. -/
theorem legible_insertions
    (hs : ∀ s ∈ (p.filter (·.isWritten .insert)).flatMap Entry.strings, d.Avoids s) :
    d.Avoids (String.intercalate "," (p.insertions.map (·.column))) ∧
      (Fragment.join "," (p.insertions.map (·.value))).Legible d := by
  have hall : ∀ a ∈ p.insertions, d.Avoids a.column ∧ a.value.Legible d := by
    intro a ha
    obtain ⟨e, hea, hstrings⟩ := exists_entry (fun e h => Entry.isWritten_insert h) ha
    exact Entry.legible_insertion? hea fun s h => hs s (hstrings s h)
  constructor
  · refine Dialect.avoids_intercalate fun s hmem => ?_
    obtain ⟨a, ha, rfl⟩ := List.mem_map.mp hmem
    exact (hall a ha).1
  · have hcomma : d.Avoids "," := by cases d <;> decide
    refine Fragment.legible_join hcomma (Fragment.startsApart_text rfl rfl []) fun f hf => ?_
    obtain ⟨a, ha, rfl⟩ := List.mem_map.mp hf
    exact (hall a ha).2

/-- An update is legible when no text of the entries that it writes has the lead. -/
theorem legible_updates
    (hs : ∀ s ∈ (p.filter (·.isWritten .update)).flatMap Entry.strings, d.Avoids s) :
    (Fragment.join "," (p.updates.map Assignment.fragment)).Legible d := by
  have hcomma : d.Avoids "," := by cases d <;> decide
  refine Fragment.legible_join hcomma (Fragment.startsApart_text rfl rfl []) fun f hf => ?_
  obtain ⟨a, ha, rfl⟩ := List.mem_map.mp hf
  obtain ⟨e, hea, hstrings⟩ := exists_entry (fun e h => Entry.isWritten_update h) ha
  exact Entry.legible_update? hea fun s h => hs s (hstrings s h)

end Payload

end FilterSql
