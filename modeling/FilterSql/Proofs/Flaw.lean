import FilterSql.Proofs.Plan

/-!
# Why a compilation fails

A descriptor can be wrong for an operation in the ways of `Flaw`. Each of them is a condition on
the descriptor and the settings (`Flaw.Holds`) and has an error (`Flaw.error`), and they are
looked for in one order: first what the operation needs of the descriptor, and then, where the
compiler is strict, unknown kinds in the filter. A compilation fails when there is a flaw, and with
the error of the first (`Settings.outcome_eq_error_iff`): `Flaw.Checks` says this of a check and
some of the flaws, and the check of a request is put together from the checks of its parts.

Being strict has no other effect. A strict compiler that accepts a descriptor has met no unknown
kind, and without one it does what a lenient compiler does, step by step
(`Settings.compileAs_strict_eq`).
-/

namespace FilterSql

namespace Condition

mutual

/-- The unknown kinds in a condition, depth first and from left to right. -/
def unknownKinds : Condition → List String
  | unknown kind => [kind]
  | any conditions => unknownKindsAll conditions
  | _ => []

/-- The unknown kinds in a list of conditions. -/
def unknownKindsAll : List Condition → List String
  | [] => []
  | c :: cs => unknownKinds c ++ unknownKindsAll cs

end

/-- The kind that a strict compiler refuses is the first of the unknown kinds. -/
theorem unknown?_eq_head? :
    (∀ c, unknown? c = (unknownKinds c).head?) ∧
      ∀ cs, firstUnknown? cs = (unknownKindsAll cs).head? := by
  apply induction_both
  case test =>
    intro c hc
    cases c with
    | any _ | unknown _ => exact absurd hc Bool.false_ne_true
    | _ => rfl
  case unknown => exact fun kind => rfl
  case any => exact fun cs ih => ih
  case nil => rfl
  case cons =>
    intro c cs hc hcs
    rw [firstUnknown?, unknownKindsAll, hc, hcs, List.head?_append]

/-- Without unknown kinds a strict compiler does with conditions what a lenient one does. -/
theorem resolve_strict_eq (language : String) :
    (∀ c, unknown? c = none → resolve language true c = resolve language false c) ∧
      ∀ cs, firstUnknown? cs = none →
        resolveAll language true cs = resolveAll language false cs := by
  apply induction_both
  case test =>
    intro c hc _
    cases c with
    | any _ | unknown _ => exact absurd hc Bool.false_ne_true
    | _ => rw [resolve, resolve]
  case unknown =>
    intro kind h
    simp [unknown?] at h
  case any =>
    intro cs ih h
    rw [resolve, resolve, ih h]
  case nil => exact fun _ => rfl
  case cons =>
    intro c cs hc hcs h
    obtain ⟨hhead, htail⟩ := Option.or_eq_none_iff.mp h
    rw [resolveAll, resolveAll, hc hhead, hcs htail]

end Condition

/-! ## Flaws -/

/-- What can be wrong with a descriptor for an operation. -/
inductive Flaw where
  | blankTable
  /-- Positional parameters where values are written into the text. -/
  | inlineParams
  | missingTemplate
  | missingScalar
  | groupWithoutKey
  /-- A second key for a function that takes one. -/
  | strayKey
  /-- Nothing to write. -/
  | emptyPayload
  /-- A condition of a kind that is not known, where that is not allowed. -/
  | unknownKind
  deriving DecidableEq, Repr

namespace Flaw

/-- The flaws that are found before a name is looked up, in the order in which they are looked
for. -/
def beforeLookup : List Flaw :=
  [blankTable, inlineParams, missingTemplate, missingScalar, groupWithoutKey, strayKey,
    emptyPayload]

/-- The flaws in the order in which they are looked for. -/
def all : List Flaw :=
  beforeLookup ++ [unknownKind]

section Descriptors

variable (settings : Settings) (d : Descriptor) (exec : Exec)

/-- Whether a descriptor has a flaw, for an operation and a compiler. -/
def Holds : Flaw → Prop
  | blankTable => exec ≠ .query ∧ Text.isBlankText d.table
  | inlineParams => exec = .query ∧ settings.mode = .inline ∧ d.params ≠ []
  | missingTemplate => exec = .query ∧ ∀ text ∈ d.query, Text.isBlankText text
  | missingScalar => exec = .scalar ∧ d.scalar.isNone
  | groupWithoutKey =>
    exec = .scalar ∧ ∃ spec ∈ d.scalar, spec.aggregate = .group ∧ ∀ key ∈ spec.key, key = ""
  | strayKey =>
    exec = .scalar ∧ ∃ spec ∈ d.scalar, spec.aggregate ≠ .group ∧ ∃ key ∈ spec.key2, key ≠ ""
  | emptyPayload =>
    (exec = .insert ∧ ∀ e ∈ d.payload.getD [], e.value.isNone ∨ e.change = .rawUpdate) ∨
      exec = .update ∧ ∀ e ∈ d.payload.getD [], e.value.isNone
  | unknownKind =>
    settings.strict ∧
      exec ∈ [.find, .read, .list, .count, .check, .update, .remove, .scalar, .query] ∧
      Condition.unknownKindsAll d.conditions ≠ []

instance (f : Flaw) : Decidable (f.Holds settings d exec) :=
  match f with
  | blankTable | inlineParams | missingTemplate | missingScalar | groupWithoutKey | strayKey
  | unknownKind => inferInstanceAs (Decidable (_ ∧ _))
  | emptyPayload => inferInstanceAs (Decidable (_ ∨ _))

/-- The error of a flaw. -/
def error : Flaw → Error
  | blankTable => .invalidDescriptor "table name is empty"
  | inlineParams => .inlineParams d.params.length
  | missingTemplate => .missingQuery d.table
  | missingScalar => .missingScalar d.table
  | groupWithoutKey => .unsupportedScalar "group requires a key"
  | strayKey =>
    .unsupportedScalar
      ("key2 is only valid with group, not " ++ (d.scalar.map (·.aggregate.name)).getD "")
  | emptyPayload => .emptyPayload exec d.table
  | unknownKind => .unknownCondition ((Condition.unknownKindsAll d.conditions).headD "")

/-- The first of some flaws that a descriptor has. -/
def first? (flaws : List Flaw) : Option Flaw :=
  flaws.find? fun f => decide (f.Holds settings d exec)

/-- Whether a check fails with the error of the first of some flaws, and only for one of them. -/
def Checks {α : Type} (flaws : List Flaw) (r : Except Error α) : Prop :=
  match first? settings d exec flaws with
  | some f => r = .error (f.error d exec)
  | none => ∃ a, r = .ok a

end Descriptors

variable {settings : Settings} {d : Descriptor} {exec : Exec} {α : Type} {f : Flaw}
  {flaws : List Flaw} {r : Except Error α}

theorem checks_ok (a : α) : Checks settings d exec [] (.ok a) :=
  ⟨a, rfl⟩

/-- A flaw that a descriptor has is found before all that come after it. -/
theorem checks_cons_of_holds (h : f.Holds settings d exec) :
    Checks settings d exec (f :: flaws) (.error (f.error d exec) : Except Error α) := by
  simp [Checks, first?, h]

/-- A flaw that a descriptor does not have need not be looked for. -/
theorem checks_cons_of_not (h : ¬ f.Holds settings d exec) :
    Checks settings d exec (f :: flaws) r ↔ Checks settings d exec flaws r := by
  simp [Checks, first?, h]

/-- Nor need several such flaws, one after the other. -/
theorem checks_append_of_not {skipped : List Flaw} (h : ∀ f ∈ skipped, ¬ f.Holds settings d exec) :
    Checks settings d exec (skipped ++ flaws) r ↔ Checks settings d exec flaws r := by
  induction skipped with
  | nil => rfl
  | cons f fs ih =>
    obtain ⟨hf, hfs⟩ := List.forall_mem_cons.mp h
    rw [List.cons_append, checks_cons_of_not hf, ih hfs]

/-- A guard that fails for a flaw looks for that flaw. -/
theorem Checks.guard {c : Prop} [Decidable c] (hc : c ↔ f.Holds settings d exec)
    (h : ¬ c → Checks settings d exec flaws r) :
    Checks settings d exec (f :: flaws) (if c then .error (f.error d exec) else r) := by
  by_cases hholds : c
  · rw [if_pos hholds]
    exact checks_cons_of_holds (hc.mp hholds)
  · rw [if_neg hholds, checks_cons_of_not fun hf => hholds (hc.mpr hf)]
    exact h hholds

/-- What a check fails with is the error of the first flaw. -/
theorem Checks.eq_error_iff (h : Checks settings d exec flaws r) (e : Error) :
    r = .error e ↔ ∃ f, first? settings d exec flaws = some f ∧ f.error d exec = e := by
  unfold Checks at h
  cases hf : first? settings d exec flaws with
  | some f => simp [hf] at h; simp [h]
  | none =>
    obtain ⟨a, rfl⟩ : ∃ a, r = .ok a := by simpa [hf] using h
    simp

/-- A check and then another looks for the flaws of the one and then for those of the other. -/
theorem Checks.bind {β : Type} {more : List Flaw} {g : α → Except Error β}
    (h : Checks settings d exec flaws r)
    (hg : ∀ a, r = .ok a → Checks settings d exec more (g a)) :
    Checks settings d exec (flaws ++ more) (r.bind g) := by
  unfold Checks first? at h ⊢
  rw [List.find?_append]
  cases hf : flaws.find? fun f => decide (f.Holds settings d exec) with
  | some f =>
    obtain rfl : r = .error (f.error d exec) := by simpa [hf] using h
    rfl
  | none =>
    obtain ⟨a, rfl⟩ : ∃ a, r = .ok a := by simpa [hf] using h
    exact hg a rfl

end Flaw

/-! ## The check of a request -/

namespace Payload

variable {p : Payload}

theorem insertions_eq_nil_iff :
    p.insertions = [] ↔ ∀ e ∈ p, e.value.isNone ∨ e.change = .rawUpdate := by
  rw [insertions, List.filterMap_eq_nil_iff]
  refine forall₂_congr fun e _ => ?_
  obtain ⟨column, change, value⟩ := e
  cases value <;> cases change <;> simp [Entry.insertion?, Entry.inserted?]

theorem updates_eq_nil_iff : p.updates = [] ↔ ∀ e ∈ p, e.value.isNone := by
  rw [updates, List.filterMap_eq_nil_iff]
  refine forall₂_congr fun e _ => ?_
  obtain ⟨column, change, value⟩ := e
  cases value <;> simp [Entry.update?]

end Payload

namespace Descriptor

open Flaw

variable (settings : Settings) (d : Descriptor) {exec : Exec}

theorem presentKey_eq_none_iff {key : Option String} :
    presentKey key = none ↔ ∀ k ∈ key, k = "" := by
  simp [presentKey]

/-- A group looks at its first key only. -/
theorem scalarRequest_of_group {spec : ScalarSpec} (hs : d.scalar = some spec)
    (h : spec.aggregate = .group) :
    d.scalarRequest = match presentKey spec.key with
      | some key => .ok (.group key (presentKey spec.key2))
      | none => .error (.unsupportedScalar "group requires a key") := by
  cases hkey : presentKey spec.key <;> simp [scalarRequest, hs, h, hkey]

/-- Every other function looks at its second key first. -/
theorem scalarRequest_of_ne_group {spec : ScalarSpec} (hs : d.scalar = some spec)
    (h : spec.aggregate ≠ .group) :
    d.scalarRequest =
      if (presentKey spec.key2).isSome then
        .error (.unsupportedScalar ("key2 is only valid with group, not " ++ spec.aggregate.name))
      else .ok (.aggregate spec.aggregate ((presentKey spec.key).filter (· ≠ "*"))) := by
  unfold scalarRequest
  simp only [hs]

/-- The check of an aggregate operation looks for its function and its keys. -/
theorem checks_scalarRequest :
    Checks settings d .scalar [missingScalar, groupWithoutKey, strayKey] d.scalarRequest := by
  cases hs : d.scalar with
  | none =>
    have hmissing : missingScalar.Holds settings d .scalar := by simp [Holds, hs]
    have hrequest : d.scalarRequest = .error (missingScalar.error d .scalar) := by
      simp [scalarRequest, hs, error]
    rw [hrequest]
    exact checks_cons_of_holds hmissing
  | some spec =>
    rw [checks_cons_of_not (by simp [Holds, hs])]
    by_cases hgroup : spec.aggregate = .group
    · have hkey : groupWithoutKey.Holds settings d .scalar ↔ presentKey spec.key = none := by
        simp [Holds, hs, hgroup, presentKey_eq_none_iff]
      have hstray : ¬ strayKey.Holds settings d .scalar := by simp [Holds, hs, hgroup]
      rw [scalarRequest_of_group d hs hgroup]
      cases hpresent : presentKey spec.key with
      | none => exact checks_cons_of_holds (hkey.mpr hpresent)
      | some key =>
        rw [checks_cons_of_not (by simp [hkey, hpresent]), checks_cons_of_not hstray]
        exact checks_ok _
    · have hkey : ¬ groupWithoutKey.Holds settings d .scalar := by simp [Holds, hs, hgroup]
      have hstray : strayKey.Holds settings d .scalar ↔ presentKey spec.key2 ≠ none := by
        simp [Holds, hs, hgroup, presentKey_eq_none_iff]
      have herror : strayKey.error d .scalar =
          .unsupportedScalar ("key2 is only valid with group, not " ++ spec.aggregate.name) := by
        simp [error, hs]
      rw [scalarRequest_of_ne_group d hs hgroup, checks_cons_of_not hkey, ← herror]
      cases hpresent : presentKey spec.key2 with
      | none =>
        rw [checks_cons_of_not (by simp [hstray, hpresent])]
        exact checks_ok _
      | some key2 => exact checks_cons_of_holds (by simp [hstray, hpresent])

/-- A payload is refused where nothing is written of it. -/
theorem checks_written {as : List Assignment} (make : List Assignment → Request)
    (h : emptyPayload.Holds settings d exec ↔ as = []) :
    Checks settings d exec [emptyPayload]
      (match as with | [] => .error (.emptyPayload exec d.table) | as => .ok (make as)) := by
  cases as with
  | nil => exact checks_cons_of_holds (h.mpr rfl)
  | cons a as =>
    rw [checks_cons_of_not (by simp [h])]
    exact checks_ok _

/-- An insert and an update need nothing but something to write. -/
theorem checks_of_emptyPayload {α : Type} {r : Except Error α}
    (hexec : exec = .insert ∨ exec = .update) (h : Checks settings d exec [emptyPayload] r) :
    Checks settings d exec
      [missingTemplate, missingScalar, groupWithoutKey, strayKey, emptyPayload] r := by
  have hskipped : ∀ f ∈ [missingTemplate, missingScalar, groupWithoutKey, strayKey],
      ¬ f.Holds settings d exec := by
    obtain rfl | rfl := hexec <;> simp [Holds]
  exact (checks_append_of_not hskipped).mpr h

/-- The check of a request looks for all flaws that do not need a lookup. -/
theorem checks_request :
    Checks settings d exec beforeLookup (d.request settings.mode exec) := by
  unfold beforeLookup request
  refine Checks.guard (f := blankTable) Iff.rfl fun _ => ?_
  refine Checks.guard (f := inlineParams) (by simp [Holds]) fun _ => ?_
  -- What is looked for next depends on the operation.
  cases exec with
  | query =>
    have hquery : missingTemplate.Holds settings d .query ↔
        d.query.filter (!Text.isBlankText ·) = none := by simp [Holds]
    have hrest : ∀ f ∈ [missingScalar, groupWithoutKey, strayKey, emptyPayload],
        ¬ f.Holds settings d .query := by simp [Holds]
    cases htext : d.query.filter (!Text.isBlankText ·) with
    | none => exact checks_cons_of_holds (hquery.mpr htext)
    | some text =>
      rw [checks_cons_of_not (by simp [hquery, htext])]
      exact (checks_append_of_not hrest).mpr (checks_ok _)
  | scalar =>
    have htemplate : ¬ missingTemplate.Holds settings d .scalar := by simp [Holds]
    have hpayload : ¬ emptyPayload.Holds settings d .scalar := by simp [Holds]
    have hscalar := (d.checks_scalarRequest settings).bind fun r _ =>
      (checks_cons_of_not hpayload).mpr (checks_ok r)
    rw [checks_cons_of_not htemplate]
    cases hr : d.scalarRequest <;> rw [hr] at hscalar <;> exact hscalar
  | insert =>
    have hempty : emptyPayload.Holds settings d .insert ↔ (d.payload.getD []).insertions = [] := by
      simp [Holds, Payload.insertions_eq_nil_iff]
    exact checks_of_emptyPayload settings d (.inl rfl) (d.checks_written settings .insert hempty)
  | update =>
    have hempty : emptyPayload.Holds settings d .update ↔ (d.payload.getD []).updates = [] := by
      simp [Holds, Payload.updates_eq_nil_iff]
    exact checks_of_emptyPayload settings d (.inr rfl) (d.checks_written settings .update hempty)
  | _ =>
    -- The other operations need nothing but a table.
    simp [checks_cons_of_not, Holds, checks_ok]

end Descriptor

/-! ## Strict compilers -/

/-- Without an unknown kind in it a request is drafted by a strict compiler as by a lenient one. -/
theorem Request.draft_strict_eq {d : Descriptor} {r : Request} (h : r.unknown? d = none) :
    r.draft d true = r.draft d false := by
  have hfilter : r.isFiltered →
      Condition.whereClause d.languageCode true d.conditions =
        Condition.whereClause d.languageCode false d.conditions := by
    intro hr
    rw [unknown?, if_pos hr] at h
    rw [Condition.whereClause, Condition.whereClause, (Condition.resolve_strict_eq _).2 _ h]
  unfold draft
  cases r with
  | insert _ | drop | truncate => rfl
  | _ => simp only [hfilter rfl]

namespace Settings

variable {settings : Settings} {d : Descriptor} {exec : Exec}

/-- What a strict compiler accepts it compiles as a lenient one does. -/
theorem compileAs_strict_eq {s : Session} {st : Statement}
    (h : (compileAs { settings with strict := true } d exec).outcome s = .ok st) :
    compileAs { settings with strict := true } d exec =
      compileAs { settings with strict := false } d exec := by
  rw [outcome_compileAs] at h
  obtain ⟨r, hr, -⟩ := compileUnder_eq_ok h
  have hunknown := unknown?_of_strict rfl hr h
  have hr' : d.request settings.mode exec = .ok r := hr
  have hplan : d.plan true exec r = d.plan false exec r := by
    rw [Descriptor.plan, Descriptor.plan, Request.draft_strict_eq hunknown]
  unfold compileAs
  show (liftM (d.request settings.mode exec) >>= _) = (liftM (d.request settings.mode exec) >>= _)
  rw [hr']
  show (d.plan true exec r >>= _) = (d.plan false exec r >>= _)
  rw [hplan]

/-- Compiling looks for all flaws, in their order. -/
theorem checks_compileAs (settings : Settings) (d : Descriptor) (exec : Exec) (s : Session) :
    Flaw.Checks settings d exec Flaw.all ((settings.compileAs d exec).outcome s) := by
  rw [outcome_compileAs, compileUnder, Flaw.all]
  refine (d.checks_request settings).bind fun r hr => ?_
  have hfiltered : exec.isFiltered ↔
      exec ∈ [.find, .read, .list, .count, .check, .update, .remove, .scalar, .query] := by
    cases exec <;> decide
  have hunknown : r.unknown? d =
      if exec.isFiltered then (Condition.unknownKindsAll d.conditions).head? else none := by
    rw [Request.unknown?, Request.isFiltered_eq hr, Condition.unknown?_eq_head?.2]
  have hholds : Flaw.unknownKind.Holds settings d exec ↔
      settings.strict ∧ r.unknown? d ≠ none := by
    simp [Flaw.Holds, hunknown, hfiltered]
  rw [Condition.checked_map]
  cases hkind : r.unknown? d with
  | none =>
    rw [Flaw.checks_cons_of_not (by simp [hholds, hkind])]
    exact Flaw.checks_ok _
  | some kind =>
    have hhead : (Condition.unknownKindsAll d.conditions).head? = some kind := by
      by_cases hfilter : exec.isFiltered
      · simpa [hkind, hfilter] using hunknown.symm
      · simp [hkind, hfilter] at hunknown
    have herror : Flaw.unknownKind.error d exec = .unknownCondition kind := by
      simp [Flaw.error, List.headD_eq_head?_getD, hhead]
    cases hstrict : settings.strict with
    | false =>
      rw [Flaw.checks_cons_of_not (by simp [hholds, hstrict])]
      exact Flaw.checks_ok _
    | true =>
      rw [Condition.checked, if_pos rfl, ← herror]
      exact Flaw.checks_cons_of_holds (by simp [hholds, hstrict, hkind])

/-- Compiling fails when the descriptor has a flaw, and then with the error of the first that it
has. Such an error is one of compiling. What a strict compiler makes of a descriptor, if anything,
a lenient one makes of it too, and leaves the session behind that the strict one does. -/
theorem outcome_eq_error_iff (settings : Settings) (d : Descriptor) (exec : Exec) (s : Session) :
    (∀ e, (settings.compileAs d exec).outcome s = .error e ↔
      ∃ f, Flaw.first? settings d exec Flaw.all = some f ∧ f.error d exec = e) ∧
    (∀ e, (settings.compileAs d exec).outcome s = .error e → e.isCompile) ∧
    ∀ st, (compileAs { settings with strict := true } d exec).outcome s = .ok st →
      (compileAs { settings with strict := false } d exec).outcome s = .ok st ∧
      (compileAs { settings with strict := false } d exec).after s =
        (compileAs { settings with strict := true } d exec).after s := by
  refine ⟨(settings.checks_compileAs d exec s).eq_error_iff, fun e h => ?_, fun st h => ?_⟩
  · rw [outcome_compileAs] at h
    exact isCompile_of_compileUnder h
  · rw [← compileAs_strict_eq h]
    exact ⟨h, rfl⟩

-- Nothing to write is found before a condition of an unknown kind in a group.
example : Flaw.first? { strict := true }
    { table := "note", conditions := [.any [.blank "title", .unknown "near"]] } .update Flaw.all =
      some .emptyPayload := by decide

end Settings

end FilterSql
