import FilterSql.Descriptor.Reader
import FilterSql.Proofs.ObjectText

/-!
# Keys with sigils

A key of a payload is a sigil and a column, or a column alone. The two tables of sigils are inverse
to each other (`Change.ofSigil?_eq_some_iff`), so a key is split into the one change and column that
have it as their key (`Entry.splitKey_eq_iff`). A change and a column have a key, unless the column
is assigned to and itself starts with a sigil.

So the entries of an object tell its keys apart: one entry for each name that is written, in the
order in which the names first stand there, with the value that stands there last
(`Payload.keys_correspond`).
-/

namespace FilterSql

namespace Change

variable {c : Char} {change : Change}

/-- The characters that name a change. -/
def sigils : List Char :=
  ['+', '-', '*', '/', '>', '<', '!', '=', '#']

/-- The two tables of sigils are inverse to each other. -/
theorem ofSigil?_eq_some_iff : ofSigil? c = some change ↔ change.sigil? = some c := by
  constructor
  · intro h
    rw [ofSigil?] at h
    split_ifs at h <;> cases h <;> subst c <;> rfl
  · intro h
    cases change <;> cases h <;> rfl

theorem ofSigil?_eq_none_iff : ofSigil? c = none ↔ c ∉ sigils := by
  constructor
  · intro h hc
    simp only [sigils, List.mem_cons, List.not_mem_nil, or_false] at hc
    rcases hc with rfl | rfl | rfl | rfl | rfl | rfl | rfl | rfl | rfl <;> cases h
  · intro hc
    cases h : ofSigil? c with
    | none => rfl
    | some change =>
      have hsigil := ofSigil?_eq_some_iff.mp h
      refine absurd ?_ hc
      cases change <;> cases hsigil <;> decide

theorem sigil?_eq_none_iff : change.sigil? = none ↔ change = .assign := by
  cases change <;> decide

end Change

namespace Entry

variable {cs column : List Char} {change : Change}

/-- Whether a change and a column have a key: a column that has no sigil in front of it may not
start with one. -/
def HasKey (change : Change) (column : List Char) : Prop :=
  change ≠ .assign ∨ ∀ c ∈ column.head?, c ∉ Change.sigils

/-- A key is split into the one change and column that have it as their key. -/
theorem splitKey_eq_iff :
    splitKey cs = (change, column) ↔ joinKey change column = cs ∧ HasKey change column := by
  constructor
  · intro h
    cases cs with
    | nil =>
      cases h
      exact ⟨rfl, .inr nofun⟩
    | cons c cs =>
      rw [splitKey] at h
      cases hsigil : Change.ofSigil? c with
      | some named =>
        rw [hsigil] at h
        cases h
        have hnamed := Change.ofSigil?_eq_some_iff.mp hsigil
        refine ⟨by rw [joinKey, hnamed]; rfl, .inl ?_⟩
        rintro rfl
        cases hnamed
      | none =>
        rw [hsigil] at h
        cases h
        refine ⟨rfl, .inr ?_⟩
        rintro d ⟨⟩
        exact Change.ofSigil?_eq_none_iff.mp hsigil
  · rintro ⟨rfl, hkey⟩
    cases hsigil : change.sigil? with
    | some c =>
      rw [joinKey, hsigil, Option.toList_some, List.singleton_append, splitKey,
        Change.ofSigil?_eq_some_iff.mpr hsigil]
    | none =>
      have hassign := Change.sigil?_eq_none_iff.mp hsigil
      subst hassign
      have hcolumn := hkey.resolve_left (not_not_intro rfl)
      cases column with
      | nil => rfl
      | cons c cs =>
        show splitKey (c :: cs) = _
        rw [splitKey, Change.ofSigil?_eq_none_iff.mpr (hcolumn c rfl)]

/-- The key that asks for an entry. -/
def key (e : Entry) : String :=
  String.ofList (joinKey e.change e.column.toList)

theorem key_ofKey (k : String) (value : Option Value) : (ofKey k value).key = k := by
  have hjoin : joinKey (splitKey k.toList).1 (splitKey k.toList).2 = k.toList :=
    (splitKey_eq_iff.mp rfl).1
  rw [key, ofKey, String.toList_ofList, hjoin, String.ofList_toList]

theorem ofKey_eq_iff {k : String} {e : Entry} :
    ofKey k e.value = e ↔ splitKey k.toList = (e.change, e.column.toList) := by
  constructor
  · intro h
    rw [← h, ofKey, String.toList_ofList]
  · intro h
    rw [ofKey, h]
    simp only [String.ofList_toList]

theorem ofKey_key_iff (e : Entry) : ofKey e.key e.value = e ↔ HasKey e.change e.column.toList := by
  rw [ofKey_eq_iff, splitKey_eq_iff, key, String.toList_ofList]
  exact and_iff_right rfl

theorem eq_of_change_eq_of_column_eq {k k' : String} {value value' : Option Value}
    (hchange : (ofKey k value).change = (ofKey k' value').change)
    (hcolumn : (ofKey k value).column = (ofKey k' value').column) : k = k' := by
  rw [← key_ofKey k value, ← key_ofKey k' value', key, key, hchange, hcolumn]

end Entry

namespace Payload

open Members

/-- An object gives one entry for each of its names, with the last value that is written for it. -/
theorem ofMembers_ofAssignments (written : List (String × Json)) :
    ofMembers (ofAssignments written) = (names written).eraseDups.map fun key =>
      Entry.ofKey key ((written.reverse.lookup key).map Value.ofJson) := by
  rw [← names_ofAssignments, names, List.map_map, ofMembers]
  refine List.map_congr_left fun m hm => ?_
  obtain ⟨name, j⟩ := m
  have hlookup := lookup_of_mem (nodup_names_ofAssignments written) hm
  rw [lookup_ofAssignments] at hlookup
  rw [Function.comp_apply, hlookup]
  rfl

theorem reader_eq_ok_iff {depth : Nat} {cs rest : List Char} {p : Payload} :
    reader depth cs = .ok (p, rest) ↔
      ∃ written, Reader.ObjectText depth cs written rest ∧
        p = ofMembers (ofAssignments written) := by
  rw [reader, Reader.bind_eq_ok_iff]
  constructor
  · rintro ⟨ms, cs', hms, ⟨⟩⟩
    obtain ⟨written, htext, rfl⟩ := Reader.map_eq_ok_iff.mp hms
    exact ⟨written, htext, rfl⟩
  · rintro ⟨written, htext, rfl⟩
    exact ⟨ofAssignments written, rest, Reader.map_eq_ok_iff.mpr ⟨written, htext, rfl⟩, rfl⟩

/-- Keys and entries correspond: the key of the entry of a key is that key, and the entry of the key
of an entry is that entry, exactly if it has a sigil or its column does not start with one. So
different keys differ in their changes or columns, and what is read from the text of an object is
one entry for each key, in the order in which they first stand there, with its last value. -/
theorem keys_correspond :
    (∀ (k : String) (value : Option Value),
      (Entry.ofKey k value).key = k ∧ (Entry.ofKey k value).value = value) ∧
    (∀ e : Entry, Entry.ofKey e.key e.value = e ↔
      e.change ≠ .assign ∨ ∀ c ∈ e.column.toList.head?, c ∉ Change.sigils) ∧
    (∀ (k k' : String) (value value' : Option Value), k ≠ k' →
      ¬((Entry.ofKey k value).change = (Entry.ofKey k' value').change ∧
        (Entry.ofKey k value).column = (Entry.ofKey k' value').column)) ∧
    ∀ (depth : Nat) (cs rest : List Char) (p : Payload),
      reader depth cs = .ok (p, rest) ↔
        ∃ written, Reader.ObjectText depth cs written rest ∧
          p = (names written).eraseDups.map fun k =>
            Entry.ofKey k ((written.reverse.lookup k).map Value.ofJson) := by
  refine ⟨fun k value => ⟨Entry.key_ofKey k value, rfl⟩, Entry.ofKey_key_iff, ?_, ?_⟩
  · rintro k k' value value' hne ⟨hchange, hcolumn⟩
    exact hne (Entry.eq_of_change_eq_of_column_eq hchange hcolumn)
  · intro depth cs rest p
    rw [reader_eq_ok_iff]
    simp only [ofMembers_ofAssignments]

/-- A key that stands twice, and a column that starts like a sigil. -/
theorem keys_correspond_repeated :
    reader Reader.nesting "\x7b\"+a\":\"x\", \"a\":\"y\", \"+a\":\"z\"\x7d".toList =
      .ok ([⟨"a", .add, some (.text "z")⟩, ⟨"a", .assign, some (.text "y")⟩], []) ∧
    Entry.ofKey (Entry.key ⟨"+a", .add, none⟩) none = ⟨"+a", .add, none⟩ ∧
    ¬((Entry.ofKey "+a" none).change = (Entry.ofKey "a" none).change ∧
      (Entry.ofKey "+a" none).column = (Entry.ofKey "a" none).column) := by
  obtain ⟨-, hentry, hkeys, hreader⟩ := keys_correspond
  refine ⟨?_, (hentry ⟨"+a", .add, none⟩).mpr (.inl nofun), hkeys "+a" "a" none none (by decide)⟩
  refine (hreader _ _ _ _).mpr
    ⟨[("+a", .text "x"), ("a", .text "y"), ("+a", .text "z")], ⟨by decide, _, rfl, ?_⟩, rfl⟩
  refine .member ⟨_, rfl, rfl⟩ rfl rfl (Reader.document_quote rfl) ?_
  refine .member ⟨_, rfl, rfl⟩ rfl rfl (Reader.document_quote rfl) ?_
  refine .member ⟨_, rfl, rfl⟩ rfl rfl (Reader.document_quote rfl) ?_
  exact .close rfl

end Payload

end FilterSql
