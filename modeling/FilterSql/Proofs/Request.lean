import FilterSql.Request

/-!
# The requests of operations

Which request a descriptor has for an operation, when it has one (`request_eq_ok`).
-/

namespace FilterSql

/-- Whether an operation gives back the columns of a select list. -/
def Exec.hasSelectList : Exec → Bool
  | find | read | list => true
  | _ => false

/-- Whether the statement of an operation has the filter of its descriptor. -/
def Exec.isFiltered : Exec → Bool
  | insert | drop | truncate => false
  | _ => true

namespace Descriptor

variable {d : Descriptor} {mode : BindMode} {exec : Exec} {r : Request}

/-- A key that is there and not empty is there. -/
theorem presentKey_eq_some {key : Option String} {k : String} (h : presentKey key = some k) :
    key = some k := by
  unfold presentKey at h
  exact (Option.filter_eq_some_iff.mp h).1

/-- The request of an aggregate operation has no keys but those of its spec. -/
theorem scalarRequest_eq_ok (h : d.scalarRequest = .ok r) :
    ∃ spec, d.scalar = some spec ∧
      ((∃ key, spec.key = some key ∧ r = .group key (presentKey spec.key2)) ∨
        ∃ function key, (∀ k ∈ key, spec.key = some k) ∧ r = .aggregate function key) := by
  unfold scalarRequest at h
  cases hs : d.scalar with
  | none => simp [hs] at h
  | some spec =>
    refine ⟨spec, rfl, ?_⟩
    simp only [hs] at h
    split at h
    · split at h
      · rename_i key hkey
        obtain rfl := Except.ok.inj h
        exact .inl ⟨key, presentKey_eq_some hkey, rfl⟩
      · simp at h
    · split at h
      · simp at h
      · obtain rfl := Except.ok.inj h
        refine .inr ⟨_, _, fun k hk => ?_, rfl⟩
        exact presentKey_eq_some (Option.filter_eq_some_iff.mp hk).1

/-- What the request of an operation is made of. -/
def HasRequest (d : Descriptor) (r : Request) : Exec → Prop
  | .find | .read | .list => r = .select (d.fields.getD [])
  | .count | .check => r = .count
  | .insert => r = .insert (d.payload.getD []).insertions
  | .update => r = .update (d.payload.getD []).updates
  | .remove => r = .remove
  | .drop => r = .drop
  | .truncate => r = .truncate
  | .scalar => d.scalarRequest = .ok r
  | .query => ∃ text, d.query = some text ∧ r = .template text

theorem request_eq_ok (h : d.request mode exec = .ok r) : d.HasRequest r exec := by
  unfold request at h
  split at h
  · simp at h
  · split at h
    · simp at h
    · cases exec with
      | insert =>
        simp only at h
        split at h
        · simp at h
        · exact (Except.ok.inj h).symm
      | update =>
        simp only at h
        split at h
        · simp at h
        · exact (Except.ok.inj h).symm
      | scalar => exact h
      | query =>
        simp only at h
        split at h
        · rename_i text htext
          exact ⟨text, (Option.filter_eq_some_iff.mp htext).1, (Except.ok.inj h).symm⟩
        · simp at h
      | _ => exact (Except.ok.inj h).symm

theorem isCompile_of_scalarRequest {e : Error} (h : d.scalarRequest = .error e) : e.isCompile := by
  unfold scalarRequest at h
  repeat' split at h
  all_goals cases h
  all_goals rfl

/-- What a request is refused for is an error of compiling. -/
theorem isCompile_of_request {e : Error} (h : d.request mode exec = .error e) : e.isCompile := by
  unfold request at h
  split at h
  · cases h
    rfl
  · split at h
    · cases h
      rfl
    · cases exec with
      | scalar => exact isCompile_of_scalarRequest h
      | _ =>
        simp only at h
        repeat' split at h
        all_goals cases h
        all_goals rfl

/-- A select list is that of the descriptor, and belongs to an operation that has one. -/
theorem request_eq_select {fields : List String} (h : d.request mode exec = .ok (.select fields)) :
    exec.hasSelectList ∧ fields = d.fields.getD [] := by
  have hr := request_eq_ok h
  cases exec with
  | find | read | list => exact ⟨rfl, Request.select.inj hr⟩
  | scalar =>
    obtain ⟨spec, -, ⟨key, -, hr⟩ | ⟨function, key, -, hr⟩⟩ := scalarRequest_eq_ok hr
    · cases hr
    · cases hr
  | query =>
    obtain ⟨text, -, hr⟩ := hr
    cases hr
  | _ => cases hr

/-- Outside raw queries a request does not depend on how values reach the database. -/
theorem request_mode (he : exec ≠ .query) (mode' : BindMode) :
    d.request mode exec = d.request mode' exec := by
  unfold request
  simp [he]

end Descriptor

end FilterSql
