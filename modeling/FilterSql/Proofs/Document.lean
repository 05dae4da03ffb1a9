import FilterSql.Condition.Reader
import FilterSql.Proofs.Filter
import FilterSql.Proofs.Members

/-!
# Documents of conditions

A condition is written as an object with its kind as the `type` and a member for each of its
arguments (`Condition.toJson`). There are other documents of the same condition
(`Condition.Written`): the members may stand in any order and among others that the kind does not
know, an argument with a default may be left out, and a list of one value may be that value. Each of
them is read as the condition (`Condition.ofJson_of_written`), by an induction over the condition
with one lemma for each form that an argument takes (`Slot`).

What a value says is lost in its document where JSON has no form of its own for it, so that all of
this is about the values with such a form (`Value.isPlain`).
-/

namespace FilterSql

/-! ## Values -/

namespace Value

mutual

/-- Whether a value is read from its document as it is. -/
def isPlain : Value → Bool
  | null | bool _ | int _ | text _ => true
  | float x => x.isFinite
  | array items => allPlain items
  | json (.object _) => true
  | json _ | dateTime _ | deferred _ => false

/-- Whether all values are read from their documents as they are. -/
def allPlain : List Value → Bool
  | [] => true
  | v :: vs => isPlain v && allPlain vs

end

def isArray : Value → Bool
  | array _ => true
  | _ => false

/-- A 64-bit integer is read as the integer that it is. -/
theorem isInt64_toInt (n : Int64) : isInt64 n.toInt := by
  have hmin := n.minValue_le_toInt
  have hmax := n.toInt_le
  simp only [isInt64, Bool.and_eq_true, decide_eq_true_eq]
  exact ⟨hmin, hmax⟩

mutual

/-- Reading a value undoes writing it. -/
theorem ofJson_toJson : ∀ v : Value, v.isPlain → ofJson v.toJson = v
  | null, _ | bool _, _ | text _, _ => rfl
  | int n, _ => by rw [toJson, ofJson, if_pos (isInt64_toInt n), Int64.ofInt_toInt]
  | float x, h => by
    have hfinite : x.isFinite := h
    rw [toJson, Json.ofBinary64, if_pos hfinite, ofJson]
  | array items, h => by rw [toJson, ofJson, ofJsons_toJsons items h]
  | json (.object _), _ => rfl

theorem ofJsons_toJsons : ∀ vs : List Value, allPlain vs → ofJsons (toJsons vs) = vs
  | [], _ => rfl
  | v :: vs, h => by
    obtain ⟨hv, hvs⟩ := Bool.and_eq_true_iff.mp h
    rw [toJsons, ofJsons, ofJson_toJson v hv, ofJsons_toJsons vs hvs]

end

end Value

namespace Condition

/-! ## Written conditions -/

/-- The types of the kinds that are known. -/
def knownKinds : List String :=
  ["where", "in", "notin", "between", "search", "empty", "contains", "permit", "query", "or"] ++
    DatePart.all.map DatePart.name

/-- The type of a condition in its document. -/
def kind : Condition → String
  | compare .. => "where"
  | among .. => "in"
  | notAmong .. => "notin"
  | between .. => "between"
  | search .. => "search"
  | blank _ => "empty"
  | filled _ => "contains"
  | datePart part .. => part.name
  | permit .. => "permit"
  | raw _ => "query"
  | any _ => "or"
  | unknown kind => kind

end Condition

/-- The name of an anchor in a document. -/
def Anchor.name : Anchor → String
  | start => "begin"
  | finish => "end"
  | anywhere => "contains"

namespace Condition

mutual

/-- The document of a condition. -/
def toJson : Condition → Json
  | c@(compare name comparer value) | c@(datePart _ name comparer value) =>
    .object [("type", .text c.kind), ("name", .text name), ("comparer", .text comparer.sql),
      ("value", value.toJson)]
  | c@(among name values) | c@(notAmong name values) =>
    .object [("type", .text c.kind), ("name", .text name), ("value", .array (Value.toJsons values))]
  | between name low high =>
    .object [("type", .text "between"), ("name", .text name), ("a", low.toJson),
      ("b", high.toJson)]
  | search name term anchor =>
    .object [("type", .text "search"), ("name", .text name), ("value", .text term),
      ("anchor", .text anchor.name)]
  | c@(blank name) | c@(filled name) => .object [("type", .text c.kind), ("name", .text name)]
  | permit name values required owner =>
    .object [("type", .text "permit"), ("name", .text name),
      ("value", .array (Value.toJsons values)), ("required", .bool required),
      ("userid", (owner.getD .null).toJson)]
  | raw sql => .object [("type", .text "query"), ("value", .text sql)]
  | any conditions => .object [("type", .text "or"), ("value", .array (allToJson conditions))]
  | unknown kind => .object [("type", .text kind)]

/-- The documents of conditions. -/
def allToJson : List Condition → List Json
  | [] => []
  | c :: cs => toJson c :: allToJson cs

end

/-- An argument of a condition as a member of its document. -/
structure Slot where
  name : String
  /-- The documents that say what the argument is. -/
  writes : Json → Prop
  /-- Whether the argument is its default. -/
  isDefault : Prop

namespace Slot

/-- A text that has to be there. -/
def text (name s : String) : Slot :=
  ⟨name, (· = .text s), False⟩

/-- A value that has to be there. -/
def value (name : String) (v : Value) : Slot :=
  ⟨name, (· = v.toJson), False⟩

/-- A value that is null where it is left out. -/
def valueOrNull (name : String) (v : Value) : Slot :=
  ⟨name, (· = v.toJson), v = .null⟩

/-- Values as an array, or one that is no array itself. -/
def values (vs : List Value) : Slot :=
  ⟨"value", fun j => j = .array (Value.toJsons vs) ∨ ∃ v, vs = [v] ∧ !v.isArray ∧ j = v.toJson,
    False⟩

/-- A comparison operator by one of its names. -/
def comparer (c : Comparer) : Slot :=
  ⟨"comparer", fun j => ∃ s, Comparer.ofName? s = some c ∧ j = .text s, c = .eq⟩

/-- An anchor by one of its names. -/
def anchor (a : Anchor) : Slot :=
  ⟨"anchor", fun j => ∃ s, Anchor.ofName? s = some a ∧ j = .text s, a = .anywhere⟩

/-- Whether an access list has to be there. -/
def required (b : Bool) : Slot :=
  ⟨"required", (· = .bool b), b = false⟩

/-- The conditions of a group, written in one of some ways. -/
def group (writes : List Json → Prop) : Slot :=
  ⟨"value", fun j => ∃ js, writes js ∧ j = .array js, False⟩

end Slot

/-- The arguments of a test. -/
def slots : Condition → List Slot
  | compare name comparer value | datePart _ name comparer value =>
    [.text "name" name, .comparer comparer, .valueOrNull "value" value]
  | among name values | notAmong name values => [.text "name" name, .values values]
  | between name low high => [.text "name" name, .value "a" low, .value "b" high]
  | search name term anchor => [.text "name" name, .text "value" term, .anchor anchor]
  | blank name | filled name => [.text "name" name]
  | permit name values required owner =>
    [.text "name" name, .values values, .required required,
      .valueOrNull "userid" (owner.getD .null)]
  | raw sql => [.text "value" sql]
  | any _ | unknown _ => []

/-- The names that a kind knows besides those of its arguments. -/
def aliases : Condition → List String
  | search .. => ["compare"]
  | _ => []

/-- Members for arguments, in their order. What is the default may have none. -/
inductive Fills : List Slot → Members Json → Prop
  | nil : Fills [] []
  | written {slot : Slot} {slots : List Slot} {ms : Members Json} {j : Json} (h : slot.writes j)
      (rest : Fills slots ms) : Fills (slot :: slots) ((slot.name, j) :: ms)
  | default {slot : Slot} {slots : List Slot} {ms : Members Json} (h : slot.isDefault)
      (rest : Fills slots ms) : Fills (slot :: slots) ms

/-- A document of a kind with these arguments: an object with the type, the members of the arguments
and any others that the kind does not know, in any order. -/
def IsDocument (kind : String) (slots : List Slot) (aliases : List String) (j : Json) : Prop :=
  ∃ ms own others, j = .object ms ∧ (Members.names ms).Nodup ∧ Fills slots own ∧
    (∀ n ∈ Members.names others, n ≠ "type" ∧ n ∉ slots.map Slot.name ∧ n ∉ aliases) ∧
    ms.Perm (("type", .text kind) :: own ++ others)

mutual

/-- The documents of a condition. -/
def Written : Condition → Json → Prop
  | any conditions => IsDocument "or" [.group (WrittenAll conditions)] []
  | c => IsDocument c.kind c.slots c.aliases

/-- The documents of conditions, one for each. -/
def WrittenAll : List Condition → List Json → Prop
  | [], js => js = []
  | c :: cs, js => ∃ j js', js = j :: js' ∧ Written c j ∧ WrittenAll cs js'

end

mutual

/-- Whether a condition has plain values only, an owner that is not null if it has one, and a kind
that is not known only if it is of an unknown kind. -/
def isPlain : Condition → Bool
  | compare _ _ value | datePart _ _ _ value => value.isPlain
  | among _ values | notAmong _ values => Value.allPlain values
  | between _ low high => low.isPlain && high.isPlain
  | permit _ values _ owner =>
    Value.allPlain values && owner.all fun v => v.isPlain && !v.isNull
  | any conditions => allPlain conditions
  | unknown kind => kind ∉ knownKinds
  | search .. | blank _ | filled _ | raw _ => true

/-- Whether all conditions are plain. -/
def allPlain : List Condition → Bool
  | [] => true
  | c :: cs => isPlain c && allPlain cs

end

/-- The documents of a test are those of its kind with its arguments. -/
theorem written_iff_of_isTest {c : Condition} (htest : c.isTest) (j : Json) :
    Written c j ↔ IsDocument c.kind c.slots c.aliases j := by
  cases c with
  | any _ => exact absurd htest Bool.false_ne_true
  | _ => rfl

/-! ## The members of a document -/

variable {slot : Slot} {slots : List Slot} {own : Members Json}

/-- Members for arguments have names of arguments, in order. -/
theorem Fills.names_sublist (h : Fills slots own) :
    (Members.names own).Sublist (slots.map Slot.name) := by
  induction h with
  | nil => exact .slnil
  | written _ _ ih => exact ih.cons_cons _
  | default _ _ ih => exact ih.cons _

/-- An argument has a member that says what it is, or it is the default and has none. -/
theorem Fills.mem_or_default (h : Fills slots own) (hslots : (slots.map Slot.name).Nodup)
    (hslot : slot ∈ slots) :
    (∃ j, slot.writes j ∧ (slot.name, j) ∈ own) ∨
      slot.isDefault ∧ slot.name ∉ Members.names own := by
  induction h with
  | nil => exact absurd hslot List.not_mem_nil
  | written hj rest ih =>
    obtain ⟨hfirst, hslots⟩ := List.nodup_cons.mp hslots
    obtain rfl | hslot := List.mem_cons.mp hslot
    · exact .inl ⟨_, hj, List.mem_cons_self⟩
    · refine (ih hslots hslot).imp ?_ (And.imp_right fun hnot hmem => ?_)
      · rintro ⟨j, hj, hmem⟩
        exact ⟨j, hj, List.mem_cons_of_mem _ hmem⟩
      · obtain heq | hmem := List.mem_cons.mp hmem
        · exact hfirst (List.mem_map.mpr ⟨_, hslot, heq⟩)
        · exact hnot hmem
  | default hdefault rest ih =>
    obtain ⟨hfirst, hslots⟩ := List.nodup_cons.mp hslots
    obtain rfl | hslot := List.mem_cons.mp hslot
    · exact .inr ⟨hdefault, fun hmem => hfirst (rest.names_sublist.mem hmem)⟩
    · exact ih hslots hslot

theorem withGroups_eq_map (ms : Members Json) :
    withGroups ms = ms.map fun m => (m.1, (m.2, groupOfJson m.2)) := by
  induction ms with
  | nil => rfl
  | cons m ms ih => rw [withGroups, ih, List.map_cons]

@[simp]
theorem names_withGroups (ms : Members Json) :
    Members.names (withGroups ms) = Members.names ms := by
  simp [withGroups_eq_map, Members.names]

theorem mem_withGroups {ms : Members Json} {n : String} {j : Json} (h : (n, j) ∈ ms) :
    (n, (j, groupOfJson j)) ∈ withGroups ms := by
  rw [withGroups_eq_map]
  exact List.mem_map_of_mem h

/-- What is said of an argument by the members of a condition. -/
def Arguments.Tells (args : Arguments) (slot : Slot) : Prop :=
  (∃ j, slot.writes j ∧ args.lookup slot.name = some (j, groupOfJson j)) ∨
    slot.isDefault ∧ args.lookup slot.name = none

/-- Members that tell what some arguments are, each name once and none of the aliases. -/
structure Arguments.Matches (args : Arguments) (slots : List Slot) (aliases : List String) :
    Prop where
  nodup : (Members.names args).Nodup
  tells : ∀ slot ∈ slots, args.Tells slot
  alias_notMem : ∀ n ∈ aliases, n ∉ Members.names args

/-- A document is read by the type in it, from members that tell what its arguments are. -/
theorem ofJson_of_isDocument {kind : String} {aliases : List String} {j : Json}
    (h : IsDocument kind slots aliases j)
    (hslots : ("type" :: (slots.map Slot.name ++ aliases)).Nodup) :
    ∃ args : Arguments, ofJson j = ofArguments kind args ∧ args.Matches slots aliases := by
  obtain ⟨ms, own, others, rfl, hnames, hfills, hothers, hperm⟩ := h
  obtain ⟨hslots, -, hdisjoint⟩ := List.nodup_append.mp hslots.of_cons
  have hgroups : (withGroups ms).Perm
      (("type", (.text kind, groupOfJson (.text kind))) :: withGroups (own ++ others)) := by
    simp only [withGroups_eq_map]
    exact hperm.map _
  have hlookup : (withGroups ms).lookup "type" = some (.text kind, groupOfJson (.text kind)) :=
    Members.lookup_of_mem (by simpa using hnames) (hgroups.mem_iff.mpr List.mem_cons_self)
  obtain ⟨args, hswap, hargs⟩ := Members.swapRemove?_of_lookup hlookup
  have hrest : args.Perm (withGroups (own ++ others)) := (hargs.symm.trans hgroups).cons_inv
  have hnodup : (Members.names args).Nodup := by
    have hall : (Members.names (withGroups ms)).Nodup := by simpa using hnames
    exact ((Members.names_perm hargs).nodup_iff.mp hall).of_cons
  have hmem : ∀ n, n ∈ Members.names args ↔ n ∈ Members.names own ∨ n ∈ Members.names others := by
    intro n
    rw [(Members.names_perm hrest).mem_iff, names_withGroups, Members.names_append, List.mem_append]
  refine ⟨args, by rw [ofJson, hswap], hnodup, fun slot hslot => ?_, fun n hn hmem' => ?_⟩
  · refine (hfills.mem_or_default hslots hslot).imp ?_ (And.imp_right fun hnot => ?_)
    · rintro ⟨j, hj, hown⟩
      have hgroup := mem_withGroups (List.mem_append_left others hown)
      exact ⟨j, hj, Members.lookup_of_mem hnodup (hrest.mem_iff.mpr hgroup)⟩
    · rw [Members.lookup_eq_none_iff_not_mem, hmem]
      rintro (hown | hother)
      · exact hnot hown
      · exact (hothers _ hother).2.1 (List.mem_map_of_mem hslot)
  · obtain hown | hother := (hmem n).mp hmem'
    · exact hdisjoint _ (hfills.names_sublist.mem hown) _ hn rfl
    · exact (hothers _ hother).2.2 hn

/-! ## The arguments of a kind -/

/-- One of some named values is read by its name. -/
theorem asVariant_text {α : Type} {known : List String} {find? : String → Option α} {s : String}
    {a : α} (h : find? s = some a) : Json.asVariant known find? (.text s) = .ok a := by
  rw [Json.asVariant, Json.asVariant.named, h]

namespace Arguments

variable {args : Arguments} {name : String} {v : Value}

/-- An argument without a default has a member. -/
theorem required_of_tells (h : args.Tells slot) (hslot : ¬ slot.isDefault) :
    ∃ j, slot.writes j ∧ args.required slot.name = .ok (j, groupOfJson j) := by
  obtain ⟨j, hj, hlookup⟩ | ⟨hdefault, -⟩ := h
  · exact ⟨j, hj, by rw [required, hlookup]⟩
  · exact absurd hdefault hslot

theorem column_of_tells (h : args.Tells (.text "name" name)) : args.column = .ok name := by
  obtain ⟨j, rfl, hrequired⟩ := required_of_tells h id
  rw [column, show args.required "name" = _ from hrequired]
  rfl

theorem value_of_tells (hv : v.isPlain) (h : args.Tells (.value name v)) :
    args.value name = .ok v := by
  obtain ⟨j, rfl, hrequired⟩ := required_of_tells h id
  rw [value, show args.required name = _ from hrequired]
  exact congrArg Except.ok (v.ofJson_toJson hv)

theorem values_of_tells {vs : List Value} (hvs : Value.allPlain vs) (h : args.Tells (.values vs)) :
    args.values = .ok vs := by
  obtain ⟨j, hj, hrequired⟩ := required_of_tells h id
  rw [values, show args.required "value" = _ from hrequired]
  obtain rfl | ⟨v, rfl, hv, rfl⟩ := hj
  · show (match Value.ofJson (.array (Value.toJsons vs)) with
      | .array items => Except.ok items
      | v => .ok [v]) = _
    rw [Value.ofJson, Value.ofJsons_toJsons vs hvs]
  · show (match Value.ofJson v.toJson with
      | .array items => Except.ok items
      | v => .ok [v]) = _
    have hplain : v.isPlain := by simpa [Value.allPlain] using hvs
    rw [v.ofJson_toJson hplain]
    cases v with
    | array items => exact absurd hv Bool.false_ne_true
    | _ => rfl

theorem valueOrNull_of_tells (hv : v.isPlain) (h : args.Tells (.valueOrNull name v)) :
    args.valueOrNull name = v := by
  obtain ⟨j, rfl, hlookup⟩ | ⟨rfl, hlookup⟩ := h
  · rw [valueOrNull, show args.lookup name = _ from hlookup]
    exact v.ofJson_toJson hv
  · rw [valueOrNull, show args.lookup name = _ from hlookup]

theorem comparer_of_tells {c : Comparer} (h : args.Tells (.comparer c)) :
    args.comparer = .ok c := by
  obtain ⟨j, ⟨s, hs, rfl⟩, hlookup⟩ | ⟨rfl, hlookup⟩ := h
  · rw [comparer, show args.lookup "comparer" = _ from hlookup]
    exact asVariant_text hs
  · rw [comparer, show args.lookup "comparer" = _ from hlookup]

theorem anchor_of_tells {a : Anchor} (h : args.Tells (.anchor a))
    (halias : "compare" ∉ Members.names args) : args.anchor = .ok a := by
  obtain ⟨j, ⟨s, hs, rfl⟩, hlookup⟩ | ⟨rfl, hlookup⟩ := h
  · rw [anchor, show args.lookup "anchor" = _ from hlookup]
    exact asVariant_text hs
  · rw [anchor, show args.lookup "anchor" = _ from hlookup,
      Members.lookup_eq_none_iff_not_mem.mpr halias]
    rfl

/-- An owner is read where there is one, and it is not null. -/
theorem owner_of_tells {owner : Option Value} (howner : owner.all fun v => v.isPlain && !v.isNull)
    (h : args.Tells (.valueOrNull name (owner.getD .null))) :
    (match args.valueOrNull name with
      | .null => none
      | v => some v) = owner := by
  cases owner with
  | none => rw [valueOrNull_of_tells rfl h, Option.getD_none]
  | some v =>
    obtain ⟨hplain, hnull⟩ := Bool.and_eq_true_iff.mp howner
    rw [valueOrNull_of_tells hplain h]
    cases v with
    | null => exact absurd hnull Bool.false_ne_true
    | _ => rfl

end Arguments

/-- Whether members pass the check of a parameter, and none of them has its other name. -/
def Parameter.Passes (p : Parameter) (args : Arguments) : Prop :=
  (∀ a, (p.name, a) ∈ args → p.check a = .ok ()) ∧ ∀ n ∈ p.also, n ∉ Members.names args

/-- An argument passes a check that every way to write it passes. -/
theorem Parameter.passes_of_tells {p : Parameter} {args : Arguments}
    (hnodup : (Members.names args).Nodup) (h : args.Tells slot) (hname : p.name = slot.name)
    (hcheck : ∀ j, slot.writes j → p.check (j, groupOfJson j) = .ok ())
    (halso : ∀ n ∈ p.also, n ∉ Members.names args) : p.Passes args := by
  refine ⟨fun a ha => ?_, halso⟩
  have hlookup := Members.lookup_of_mem hnodup (hname ▸ ha)
  obtain ⟨j, hj, hfound⟩ | ⟨-, hnone⟩ := h
  · obtain rfl : (j, groupOfJson j) = a := Option.some.inj (hfound.symm.trans hlookup)
    exact hcheck j hj
  · rw [hnone] at hlookup
    cases hlookup

/-- The check of a condition passes where each of its parameters does. -/
theorem checkArguments_of_passes {parameters : List Parameter} {seen : List String}
    {args : Arguments} (hnodup : (Members.names args).Nodup)
    (hseen : ∀ n ∈ Members.names args, n ∉ seen) (h : ∀ p ∈ parameters, p.Passes args) :
    checkArguments parameters seen args = .ok () := by
  induction args generalizing seen with
  | nil => rfl
  | cons m args ih =>
    obtain ⟨n, a⟩ := m
    obtain ⟨hn, hnodupRest⟩ := List.nodup_cons.mp hnodup
    obtain ⟨hnseen, hseenRest⟩ := List.forall_mem_cons.mp hseen
    have hrest : ∀ p ∈ parameters, p.Passes args := fun p hp =>
      ⟨fun a ha => (h p hp).1 a (List.mem_cons_of_mem _ ha),
        fun n hn hmem => (h p hp).2 n hn (List.mem_cons_of_mem _ hmem)⟩
    rw [checkArguments]
    cases hfind : parameters.find? (·.isNamed n) with
    | none => exact ih hnodupRest hseenRest hrest
    | some p =>
      obtain ⟨hcheck, halso⟩ := h p (List.mem_of_find?_eq_some hfind)
      have hnamed : p.name = n ∨ p.also = some n := by
        simpa [Parameter.isNamed] using List.find?_some hfind
      obtain rfl | halias := hnamed
      · have hseen' : ∀ n ∈ Members.names args, n ∉ p.name :: seen := by
          intro n' hn' hmem
          obtain rfl | hmem := List.mem_cons.mp hmem
          · exact hn hn'
          · exact hseenRest n' hn' hmem
        have hpass : p.check a = .ok () := hcheck a List.mem_cons_self
        simp only [if_neg hnseen, hpass]
        exact ih hnodupRest hseen' hrest
      · exact absurd List.mem_cons_self (halso n halias)

theorem passes_textParameter {args : Arguments} {name t : String}
    (hnodup : (Members.names args).Nodup) (h : args.Tells (.text name t)) :
    (textParameter name).Passes args := by
  refine Parameter.passes_of_tells hnodup h rfl ?_ (by simp [textParameter])
  rintro _ rfl
  rfl

theorem passes_comparerParameter {args : Arguments} {c : Comparer}
    (hnodup : (Members.names args).Nodup) (h : args.Tells (.comparer c)) :
    comparerParameter.Passes args := by
  refine Parameter.passes_of_tells hnodup h rfl ?_ (by simp [comparerParameter])
  rintro _ ⟨s, hs, rfl⟩
  show discard (Comparer.ofJson (.text s)) = _
  rw [Comparer.ofJson, asVariant_text hs]
  rfl

theorem comparison_of_matches {args : Arguments} {name : String} {c : Comparer} {v : Value}
    (hv : v.isPlain)
    (h : args.Matches [.text "name" name, .comparer c, .valueOrNull "value" v] []) :
    comparison args = .ok (name, c, v) := by
  have hname := h.tells (.text "name" name) (by simp)
  have hcomparer := h.tells (.comparer c) (by simp)
  have hvalue := h.tells (.valueOrNull "value" v) (by simp)
  have hcheck : checkArguments [textParameter "name", comparerParameter] [] args = .ok () := by
    refine checkArguments_of_passes h.nodup (by simp) ?_
    simp [passes_textParameter h.nodup hname, passes_comparerParameter h.nodup hcomparer]
  rw [comparison, hcheck, Arguments.column_of_tells hname, Arguments.comparer_of_tells hcomparer,
    Arguments.valueOrNull_of_tells hv hvalue]
  rfl

theorem passes_anchorParameter {args : Arguments} {a : Anchor}
    (hnodup : (Members.names args).Nodup) (h : args.Tells (.anchor a))
    (halias : "compare" ∉ Members.names args) :
    Parameter.Passes
      { name := "anchor", also := some "compare", check := fun a => discard (Anchor.ofJson a.1) }
      args := by
  refine Parameter.passes_of_tells hnodup h rfl ?_ (by simpa using halias)
  rintro _ ⟨s, hs, rfl⟩
  show discard (Anchor.ofJson (.text s)) = _
  rw [Anchor.ofJson, asVariant_text hs]
  rfl

theorem passes_requiredParameter {args : Arguments} {b : Bool}
    (hnodup : (Members.names args).Nodup) (h : args.Tells (.required b)) :
    Parameter.Passes { name := "required", check := fun a => discard a.1.asBool } args := by
  refine Parameter.passes_of_tells hnodup h rfl ?_ (by simp)
  rintro _ rfl
  rfl

/-- The arguments of a test have names of their own. -/
theorem nodup_names_slots (c : Condition) :
    ("type" :: (c.slots.map Slot.name ++ c.aliases)).Nodup := by
  cases c <;> simp [slots, aliases, Slot.text, Slot.value, Slot.valueOrNull, Slot.values,
    Slot.comparer, Slot.anchor, Slot.required]

/-- A test is read from members that tell what its arguments are. -/
theorem ofArguments_of_matches {c : Condition} {args : Arguments} (htest : c.isTest)
    (hc : c.isPlain) (h : args.Matches c.slots c.aliases) : ofArguments c.kind args = .ok c := by
  have hcheck : ∀ {parameters : List Parameter}, (∀ p ∈ parameters, p.Passes args) →
      checkArguments parameters [] args = .ok () :=
    checkArguments_of_passes h.nodup (by simp)
  have hname : ∀ {name}, .text "name" name ∈ c.slots →
      args.column = .ok name ∧ (textParameter "name").Passes args := fun hmem =>
    have htells := h.tells _ hmem
    ⟨Arguments.column_of_tells htells, passes_textParameter h.nodup htells⟩
  cases c with
  | compare name comparer value =>
    have hcomparison := comparison_of_matches hc h
    simp only [kind, ofArguments, hcomparison]
    rfl
  | datePart part name comparer value =>
    have hcomparison := comparison_of_matches hc h
    cases part <;>
    · simp only [kind, ofArguments, DatePart.name, hcomparison]
      rfl
  | blank name | filled name =>
    obtain ⟨hcolumn, hpasses⟩ := hname List.mem_cons_self
    simp only [kind, ofArguments, hcheck (List.forall_mem_singleton.mpr hpasses), hcolumn]
    rfl
  | among name values | notAmong name values =>
    obtain ⟨hcolumn, hpasses⟩ := hname List.mem_cons_self
    have hvalues := Arguments.values_of_tells hc (h.tells (.values values) (by simp [slots]))
    simp only [kind, ofArguments, hcheck (List.forall_mem_singleton.mpr hpasses), hcolumn, hvalues]
    rfl
  | between name low high =>
    obtain ⟨hcolumn, hpasses⟩ := hname List.mem_cons_self
    obtain ⟨hlow, hhigh⟩ := Bool.and_eq_true_iff.mp hc
    have ha := Arguments.value_of_tells hlow (h.tells (.value "a" low) (by simp [slots]))
    have hb := Arguments.value_of_tells hhigh (h.tells (.value "b" high) (by simp [slots]))
    simp only [kind, ofArguments, hcheck (List.forall_mem_singleton.mpr hpasses), hcolumn, ha, hb]
    rfl
  | search name term anchor =>
    obtain ⟨hcolumn, hpasses⟩ := hname List.mem_cons_self
    have halias := h.alias_notMem "compare" List.mem_cons_self
    have htells := h.tells (.anchor anchor) (by simp [slots])
    have hanchor := Arguments.anchor_of_tells htells halias
    have hterm : args.value "value" = .ok (.text term) :=
      Arguments.value_of_tells rfl (h.tells (.text "value" term) (by simp [slots]))
    have hchecked := hcheck (List.forall_mem_cons.mpr ⟨hpasses,
      List.forall_mem_singleton.mpr (passes_anchorParameter h.nodup htells halias)⟩)
    simp only [kind, ofArguments, hchecked, hcolumn, hterm, hanchor]
    rfl
  | permit name values required owner =>
    obtain ⟨hcolumn, hpasses⟩ := hname List.mem_cons_self
    obtain ⟨hplain, howner⟩ := Bool.and_eq_true_iff.mp hc
    have hvalues := Arguments.values_of_tells hplain (h.tells (.values values) (by simp [slots]))
    have htells := h.tells (.required required) (by simp [slots])
    have hchecked := hcheck (List.forall_mem_cons.mpr ⟨hpasses,
      List.forall_mem_singleton.mpr (passes_requiredParameter h.nodup htells)⟩)
    have howner : (match args.valueOrNull "userid" with
        | .null => none
        | v => some v) = owner :=
      Arguments.owner_of_tells howner (h.tells (.valueOrNull "userid" (owner.getD .null))
        (by simp [slots]))
    simp only [kind, ofArguments, hchecked, hcolumn, hvalues]
    obtain ⟨_, rfl, hrequired⟩ | ⟨rfl, hrequired⟩ := htells
    · rw [show args.lookup "required" = _ from hrequired]
      exact congrArg (fun owner => Except.ok (permit name values required owner)) howner
    · rw [show args.lookup "required" = _ from hrequired]
      exact congrArg (fun owner => Except.ok (permit name values false owner)) howner
  | raw sql =>
    have htells := h.tells (.text "value" sql) List.mem_cons_self
    have hpasses := passes_textParameter h.nodup htells
    obtain ⟨j, rfl, hvalue⟩ := Arguments.required_of_tells htells id
    simp only [kind, ofArguments, hcheck (List.forall_mem_singleton.mpr hpasses),
      show args.required "value" = _ from hvalue]
    rfl
  | any _ | unknown _ => exact absurd htest Bool.false_ne_true

/-! ## Reading documents -/

/-- A kind that is not known is kept without its members. -/
theorem ofArguments_of_unknown {kind : String} (h : kind ∉ knownKinds) (args : Arguments) :
    ofArguments kind args = .ok (unknown kind) := by
  unfold ofArguments
  split
  all_goals try exact absurd (by decide) h
  have hpart : DatePart.ofName? kind = none := by
    refine List.find?_eq_none.mpr fun part hpart hname => h ?_
    have hmem : part.name ∈ knownKinds := List.mem_append_right _ (List.mem_map_of_mem hpart)
    exact of_decide_eq_true hname ▸ hmem
  rw [hpart]

/-- Every document of a condition is read as the condition. -/
theorem ofJson_eq_of_written :
    (∀ c, isPlain c → ∀ j, Written c j → ofJson j = .ok c) ∧
      ∀ cs, allPlain cs → ∀ js, WrittenAll cs js → allOfJson js = .ok cs := by
  apply induction_both
  case test =>
    intro c htest hc j hj
    have hdocument := (written_iff_of_isTest htest j).mp hj
    obtain ⟨args, hread, hargs⟩ := ofJson_of_isDocument hdocument c.nodup_names_slots
    rw [hread, ofArguments_of_matches htest hc hargs]
  case unknown =>
    intro kind hkind j hj
    obtain ⟨args, hread, -⟩ := ofJson_of_isDocument hj (unknown kind).nodup_names_slots
    have hknown : kind ∉ knownKinds := by simpa [isPlain] using hkind
    exact hread.trans (ofArguments_of_unknown hknown args)
  case any =>
    intro cs ih hcs j hj
    obtain ⟨args, hread, hargs⟩ := ofJson_of_isDocument hj (by simp [Slot.group])
    have htells := hargs.tells (.group (WrittenAll cs)) List.mem_cons_self
    have hpasses : Parameter.Passes { name := "value", check := fun a => discard a.2 } args := by
      refine Parameter.passes_of_tells hargs.nodup htells rfl ?_ (by simp)
      rintro _ ⟨js, hjs, rfl⟩
      show discard (allOfJson js) = _
      rw [ih hcs js hjs]
      rfl
    have hchecked : checkArguments [_] [] args = .ok () :=
      checkArguments_of_passes hargs.nodup (by simp) (List.forall_mem_singleton.mpr hpasses)
    obtain ⟨_, ⟨js, hjs, rfl⟩, hvalue⟩ := Arguments.required_of_tells htells id
    rw [hread]
    simp only [ofArguments, hchecked, show args.required "value" = _ from hvalue]
    show (groupOfJson (.array js)).bind (fun cs => .ok (any cs)) = _
    rw [groupOfJson, ih hcs js hjs]
    rfl
  case nil =>
    rintro - _ rfl
    rfl
  case cons =>
    rintro c cs hc hcs hplain _ ⟨j, js, rfl, hj, hjs⟩
    obtain ⟨hcplain, hcsplain⟩ := Bool.and_eq_true_iff.mp hplain
    rw [allOfJson, hc hcplain j hj, hcs hcsplain js hjs]
    rfl

/-! ## The document of a condition -/

/-- The type with members for the arguments is a document. -/
theorem isDocument_of_fills {kind : String} {aliases : List String}
    (hslots : ("type" :: (slots.map Slot.name ++ aliases)).Nodup) (h : Fills slots own) :
    IsDocument kind slots aliases (.object (("type", .text kind) :: own)) := by
  have hnames : (Members.names (("type", Json.text kind) :: own)).Nodup :=
    hslots.sublist ((h.names_sublist.trans (List.sublist_append_left _ _)).cons_cons _)
  exact ⟨_, own, [], rfl, hnames, h, by simp [Members.names], by simp⟩

theorem ofName?_sql (c : Comparer) : Comparer.ofName? c.sql = some c := by
  cases c <;> rfl

theorem ofName?_name (a : Anchor) : Anchor.ofName? a.name = some a := by
  cases a <;> rfl

/-- The document of a test has a member for each argument. -/
theorem exists_fills {c : Condition} (htest : c.isTest) :
    ∃ own, Fills c.slots own ∧ c.toJson = .object (("type", .text c.kind) :: own) := by
  cases c with
  | compare _ comparer _ | datePart _ _ comparer _ =>
    have hcomparer := ofName?_sql comparer
    exact ⟨_, .written rfl (.written ⟨_, hcomparer, rfl⟩ (.written rfl .nil)), rfl⟩
  | among _ _ | notAmong _ _ => exact ⟨_, .written rfl (.written (.inl rfl) .nil), rfl⟩
  | between _ _ _ => exact ⟨_, .written rfl (.written rfl (.written rfl .nil)), rfl⟩
  | search _ _ anchor =>
    have hanchor := ofName?_name anchor
    exact ⟨_, .written rfl (.written rfl (.written ⟨_, hanchor, rfl⟩ .nil)), rfl⟩
  | blank _ | filled _ | raw _ => exact ⟨_, .written rfl .nil, rfl⟩
  | permit _ _ _ _ =>
    exact ⟨_, .written rfl (.written (.inl rfl) (.written rfl (.written rfl .nil))), rfl⟩
  | any _ | unknown _ => exact absurd htest Bool.false_ne_true

/-- The document of a condition is one of its documents. -/
theorem written_toJson :
    (∀ c, Written c (toJson c)) ∧ ∀ cs, WrittenAll cs (allToJson cs) := by
  apply induction_both
  case test =>
    intro c htest
    obtain ⟨own, hfills, hjson⟩ := exists_fills htest
    rw [written_iff_of_isTest htest, hjson]
    exact isDocument_of_fills c.nodup_names_slots hfills
  case unknown => exact fun kind => isDocument_of_fills (unknown kind).nodup_names_slots .nil
  case any =>
    intro cs ih
    exact isDocument_of_fills (by simp [Slot.group]) (.written ⟨_, ih, rfl⟩ .nil)
  case nil => rfl
  case cons => exact fun c cs hc hcs => ⟨_, _, rfl, hc, hcs⟩

/-- Reading a condition undoes writing it, for all plain conditions. It does so too where any object
in the document has its members in another order or has members that its kind does not know, where a
list of one value is written as that value, and where a default is left out. -/
theorem ofJson_of_written {c : Condition} (h : c.isPlain) :
    ofJson c.toJson = .ok c ∧ ∀ j, Written c j → ofJson j = .ok c := by
  have hread := ofJson_eq_of_written.1 c h
  exact ⟨hread _ (written_toJson.1 c), hread⟩

/-- A group of tests, one of them with nothing but defaults. -/
private def sampleGroup : Condition :=
  .any [.compare "deleted" .eq .null, .among "id" [.int 5]]

/-- The group in another document: without the defaults and with the type at the end. -/
private def sampleGroupJson : Json :=
  .object [
    ("value", .array [
      .object [("name", .text "deleted"), ("note", .bool true), ("type", .text "where")],
      .object [("value", .integer 5), ("name", .text "id"), ("type", .text "in")]]),
    ("type", .text "or")]

/-- Both documents are read as the group. -/
theorem ofJson_of_written_group :
    sampleGroup.isPlain ∧ ofJson sampleGroup.toJson = .ok sampleGroup ∧
      ofJson sampleGroupJson = .ok sampleGroup := by
  have hplain : sampleGroup.isPlain := by decide
  obtain ⟨hread, hwritten⟩ := ofJson_of_written hplain
  have hdeleted : Written (.compare "deleted" .eq .null)
      (.object [("name", .text "deleted"), ("note", .bool true), ("type", .text "where")]) :=
    ⟨_, [("name", .text "deleted")], [("note", .bool true)], rfl, by decide,
      .written rfl (.default rfl (.default rfl .nil)), by decide,
      List.perm_append_singleton ("type", Json.text "where")
        [("name", .text "deleted"), ("note", .bool true)]⟩
  have hid : Written (.among "id" [.int 5])
      (.object [("value", .integer 5), ("name", .text "id"), ("type", .text "in")]) :=
    ⟨_, [("name", .text "id"), ("value", .integer 5)], [], rfl, by decide,
      .written rfl (.written (.inr ⟨_, rfl, rfl, rfl⟩) .nil), by simp [Members.names],
      List.reverse_perm [("type", Json.text "in"), ("name", .text "id"), ("value", .integer 5)]⟩
  refine ⟨hplain, hread, hwritten _ ?_⟩
  exact ⟨_, [("value", _)], [], rfl, by decide,
    .written ⟨_, ⟨_, _, rfl, hdeleted, _, _, rfl, hid, rfl⟩, rfl⟩ .nil, by simp [Members.names],
    List.Perm.swap _ _ _⟩

end Condition

end FilterSql
