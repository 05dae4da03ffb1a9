import FilterSql.Proofs.Consumption
import FilterSql.Proofs.Members

/-!
# Objects as they are written

The readers of values, sequences and objects carry fuel. More of it than the text has characters is
enough, and how much more makes no difference (`value_congr`). So the members of an object can be
read without it, each value as a document of its own (`members_eq_ok_iff`): a text is read as an
object exactly when it is one (`ObjectText`), and what is read is made of the names and values in
the order in which they are written (`map_eq_ok_iff`), names that stand there twice included.
-/

namespace FilterSql.Reader

variable {α β σ : Type} {cs rest : List Char}

/-! ## The fuel of values -/

theorem bind_congr_of_ok {x x' : Reader α} {f g : α → Reader β} (hx : x cs = x' cs)
    (h : ∀ a cs', x cs = .ok (a, cs') → f a cs' = g a cs') : (x >>= f) cs = (x' >>= g) cs := by
  show Except.bind (x cs) (fun r => f r.1 r.2) = Except.bind (x' cs) (fun r => g r.1 r.2)
  rw [← hx]
  cases hr : x cs with
  | error e => rfl
  | ok r => exact h r.1 r.2 hr

/-- Two steps that agree on a text and on what is left of it read the same items. -/
theorem items_congr {step step' : σ → Reader σ} {fuel fuel' : Nat} (first : Bool) (s : σ)
    (hstep : ∀ s cs', cs'.length ≤ cs.length → step s cs' = step' s cs')
    (hconsumes : ∀ s, Consumes (step s)) (hfuel : cs.length < fuel) (hfuel' : cs.length < fuel') :
    items step fuel first s cs = items step' fuel' first s cs := by
  induction fuel generalizing fuel' first s cs with
  | zero => exact absurd hfuel (Nat.not_lt_zero _)
  | succ fuel ih =>
    obtain ⟨fuel', rfl⟩ := Nat.exists_eq_add_one_of_ne_zero (Nat.ne_zero_of_lt hfuel')
    refine bind_congr_of_ok rfl fun more cs₁ hmore => ?_
    have h₁ : cs₁.length ≤ cs.length := leavesAtMost_moreItems first le_rfl more cs₁ hmore
    split
    · refine bind_congr_of_ok (hstep s cs₁ h₁) fun s' cs₂ hs' => ?_
      have h₂ := (hconsumes s cs₁ s' cs₂ hs').trans_le h₁
      exact ih false s' (fun s cs' h => hstep s cs' (h.trans h₂.le)) (by omega) (by omega)
    · rfl

/-- Two steps that agree on a text and on what is left of it read the same members. -/
theorem members_congr {kept : Bool} {step step' : String → σ → Reader σ} {fuel fuel' : Nat}
    (first : Bool) (s : σ)
    (hstep : ∀ name s cs', cs'.length ≤ cs.length → step name s cs' = step' name s cs')
    (hconsumes : ∀ name s, Consumes (step name s))
    (hfuel : cs.length < fuel) (hfuel' : cs.length < fuel') :
    members kept step fuel first s cs = members kept step' fuel' first s cs := by
  induction fuel generalizing fuel' first s cs with
  | zero => exact absurd hfuel (Nat.not_lt_zero _)
  | succ fuel ih =>
    obtain ⟨fuel', rfl⟩ := Nat.exists_eq_add_one_of_ne_zero (Nat.ne_zero_of_lt hfuel')
    refine bind_congr_of_ok rfl fun name? cs₁ hname => ?_
    have h₁ : cs₁.length ≤ cs.length := leavesAtMost_memberName? name? cs₁ hname
    cases name? with
    | some name =>
      refine bind_congr_of_ok (hstep name s cs₁ h₁) fun s' cs₂ hs' => ?_
      have h₂ := (hconsumes name s cs₁ s' cs₂ hs').trans_le h₁
      exact ih false s' (fun name s cs' h => hstep name s cs' (h.trans h₂.le)) (by omega) (by omega)
    | none => rfl

/-- More fuel than the text has characters is enough. -/
theorem value_congr {kept : Bool} {fuel fuel' : Nat} (depth : Nat) (hfuel : cs.length < fuel)
    (hfuel' : cs.length < fuel') : value kept fuel depth cs = value kept fuel' depth cs := by
  induction fuel generalizing fuel' depth cs with
  | zero => exact absurd hfuel (Nat.not_lt_zero _)
  | succ fuel ih =>
    obtain ⟨fuel', rfl⟩ := Nat.exists_eq_add_one_of_ne_zero (Nat.ne_zero_of_lt hfuel')
    refine bind_congr_of_ok rfl fun c cs₁ hpeek => ?_
    obtain ⟨tl, htl, rfl⟩ := peek_eq_ok_iff.mp hpeek
    have h₁ := length_lt_of_dropWhile_isSpace htl
    split
    · rfl
    · rfl
    · rfl
    · rfl
    · refine bind_congr_of_ok rfl fun u cs₂ hadvance => ?_
      cases hadvance
      refine bind_congr_of_ok rfl fun depth' cs₃ henter => ?_
      obtain ⟨-, rfl, rfl⟩ := enter_eq_ok_iff.mp henter
      refine bind_congr_of_ok ?_ fun _ _ _ => rfl
      refine items_congr _ _ (fun js cs' h => ?_) (fun js => (value_consumes _ _ _).bind_pure _)
        (by omega) (by omega)
      exact bind_congr_of_ok (ih _ (by omega) (by omega)) fun _ _ _ => rfl
    · refine bind_congr_of_ok rfl fun u cs₂ hadvance => ?_
      cases hadvance
      refine bind_congr_of_ok rfl fun depth' cs₃ henter => ?_
      obtain ⟨-, rfl, rfl⟩ := enter_eq_ok_iff.mp henter
      refine bind_congr_of_ok ?_ fun _ _ _ => rfl
      refine members_congr _ _ (fun name ms cs' h => ?_)
        (fun name ms => ((value_consumes _ _ _).bind_pure _).colon_bind) (by omega) (by omega)
      refine bind_congr_of_ok rfl fun u cs'' hcolon => ?_
      have hlength : cs''.length ≤ cs'.length := leavesAtMost_colon u cs'' hcolon
      exact bind_congr_of_ok (ih _ (by omega) (by omega)) fun _ _ _ => rfl
    · rfl

theorem document_eq_value {fuel : Nat} (depth : Nat) (hfuel : cs.length < fuel) :
    document depth cs = value true fuel depth cs :=
  value_congr depth (Nat.lt_succ_self _) hfuel

/-! ## The members of an object -/

/-- Whether a text is the members of an object, past its brace, with these names and values in this
order, and what is left after the closing brace. -/
inductive Lists (depth : Nat) :
    Bool → List Char → List (String × Json) → List Char → Prop where
  | close {first : Bool} {cs rest : List Char} :
    cs.dropWhile isSpace = '\x7d' :: rest → Lists depth first cs [] rest
  | member {first : Bool} {cs text afterName valueText afterValue rest : List Char}
      {name : String} {j : Json} {written : List (String × Json)} :
    NextName first cs text → stringRest true text = .ok (name, afterName) →
    afterName.dropWhile isSpace = ':' :: valueText →
    document depth valueText = .ok (j, afterValue) →
    Lists depth false afterValue written rest → Lists depth first cs ((name, j) :: written) rest

/-- Reads the value of a member and puts the member in front. -/
def member (depth : Nat) (name : String) (ms : Members Json) : Reader (Members Json) := do
  colon
  return (name, ← document depth) :: ms

theorem member_eq_ok_iff {depth : Nat} {name : String} {ms ms' : Members Json} :
    member depth name ms cs = .ok (ms', rest) ↔
      ∃ valueText, cs.dropWhile isSpace = ':' :: valueText ∧
        ∃ j, document depth valueText = .ok (j, rest) ∧ ms' = (name, j) :: ms := by
  rw [member, bind_eq_ok_iff]
  constructor
  · rintro ⟨u, valueText, hcolon, h⟩
    obtain ⟨j, cs', hj, ⟨⟩⟩ := bind_eq_ok_iff.mp h
    exact ⟨valueText, colon_eq_ok_iff.mp hcolon, j, hj, rfl⟩
  · rintro ⟨valueText, hcolon, j, hj, rfl⟩
    exact ⟨(), valueText, colon_eq_ok_iff.mpr hcolon, bind_eq_ok_iff.mpr ⟨j, rest, hj, rfl⟩⟩

theorem members_eq_ok_iff {depth fuel : Nat} {first : Bool} {ms ms' : Members Json}
    (hfuel : cs.length < fuel) :
    members true (member depth) fuel first ms cs = .ok (ms', rest) ↔
      ∃ written, Lists depth first cs written rest ∧ ms' = written.reverse ++ ms := by
  induction fuel generalizing first ms cs with
  | zero => exact absurd hfuel (Nat.not_lt_zero _)
  | succ fuel ih =>
    -- What is left after a member is shorter, so the fuel is enough for it.
    have hleft : ∀ {name : String} {text afterName valueText afterValue : List Char} {j : Json},
        NextName first cs text → stringRest true text = .ok (name, afterName) →
        afterName.dropWhile isSpace = ':' :: valueText →
        document depth valueText = .ok (j, afterValue) → afterValue.length < fuel := by
      intro name text afterName valueText afterValue j htext hname hcolon hj
      have h₁ := htext.length_lt
      have h₂ : afterName.length ≤ text.length :=
        leavesAtMost_stringRest le_rfl name afterName hname
      have h₃ := length_lt_of_dropWhile_isSpace hcolon
      have h₄ := document_consumes depth valueText j afterValue hj
      omega
    rw [members, bind_eq_ok_iff]
    constructor
    · rintro ⟨name?, cs₁, hname, h⟩
      cases name? with
      | none =>
        obtain ⟨tl, htl, rfl⟩ := memberName?_eq_none_iff.mp hname
        cases h
        exact ⟨[], .close htl, rfl⟩
      | some name =>
        obtain ⟨text, htext, hread⟩ := memberName?_eq_some_iff.mp hname
        obtain ⟨ms₁, cs₂, hmember, h⟩ := bind_eq_ok_iff.mp h
        obtain ⟨valueText, hcolon, j, hj, rfl⟩ := member_eq_ok_iff.mp hmember
        obtain ⟨written, hlists, rfl⟩ := (ih (hleft htext hread hcolon hj)).mp h
        refine ⟨(name, j) :: written, .member htext hread hcolon hj hlists, ?_⟩
        rw [List.reverse_cons, List.append_assoc, List.singleton_append]
    · rintro ⟨written, hlists, rfl⟩
      cases hlists with
      | close hclose =>
        exact ⟨none, _, memberName?_eq_none_iff.mpr ⟨rest, hclose, rfl⟩, rfl⟩
      | @member _ _ text afterName valueText afterValue _ name j written htext hread hcolon hj
          hlists =>
        refine ⟨some name, afterName, memberName?_eq_some_iff.mpr ⟨text, htext, hread⟩, ?_⟩
        refine bind_eq_ok_iff.mpr ⟨(name, j) :: ms, afterValue, ?_, ?_⟩
        · exact member_eq_ok_iff.mpr ⟨valueText, hcolon, j, hj, rfl⟩
        · refine (ih (hleft htext hread hcolon hj)).mpr ⟨written, hlists, ?_⟩
          rw [List.reverse_cons, List.append_assoc, List.singleton_append]

/-- Whether a text starts with an object that has these names and values in this order, and what is
left after it. -/
def ObjectText (depth : Nat) (cs : List Char) (written : List (String × Json))
    (rest : List Char) : Prop :=
  1 < depth ∧ ∃ body, cs.dropWhile isSpace = '\x7b' :: body ∧
    Lists (depth - 1) true body written rest

theorem document_quote {depth : Nat} {s : String} (h : stringRest true cs = .ok (s, rest)) :
    document depth ('"' :: cs) = .ok (.text s, rest) := by
  show (stringRest true >>= fun s => pure (Json.text s)) cs = _
  exact bind_eq_ok_iff.mpr ⟨s, rest, h, rfl⟩

/-- The values of an object may be read with the fuel for the text that they start. -/
theorem document_brace (depth : Nat) (body : List Char) :
    document depth ('\x7b' :: body) = (do
      let depth' ← enter true depth
      let ms ← members true (member depth') (body.length + 2) true []
      return Json.object (Members.ofAssignments ms.reverse)) body := by
  show (do
    let depth' ← enter true depth
    let ms ← members true (fun name ms => do
      colon
      return (name, ← value true (body.length + 1) depth') :: ms) (body.length + 2) true []
    return Json.object (Members.ofAssignments ms.reverse)) body = _
  refine bind_congr_of_ok rfl fun depth' cs henter => ?_
  obtain ⟨-, rfl, rfl⟩ := enter_eq_ok_iff.mp henter
  refine bind_congr_of_ok ?_ fun _ _ _ => rfl
  refine members_congr true [] (fun name ms cs' h => ?_)
    (fun name ms => ((value_consumes _ _ _).bind_pure _).colon_bind) (by omega) (by omega)
  refine bind_congr_of_ok rfl fun u cs'' hcolon => ?_
  have hlength : cs''.length ≤ cs'.length := leavesAtMost_colon u cs'' hcolon
  exact bind_congr_of_ok (document_eq_value _ (by omega)).symm fun _ _ _ => rfl

theorem document_eq_ok_iff_of_brace {depth : Nat} {body : List Char} {j : Json} :
    document depth ('\x7b' :: body) = .ok (j, rest) ↔
      1 < depth ∧ ∃ written, Lists (depth - 1) true body written rest ∧
        j = .object (Members.ofAssignments written) := by
  rw [document_brace, bind_eq_ok_iff]
  constructor
  · rintro ⟨depth', cs₁, henter, h⟩
    obtain ⟨hdepth, rfl, rfl⟩ := enter_eq_ok_iff.mp henter
    obtain ⟨ms, cs₂, hms, ⟨⟩⟩ := bind_eq_ok_iff.mp h
    obtain ⟨written, hlists, rfl⟩ := (members_eq_ok_iff (by omega)).mp hms
    refine ⟨hdepth rfl, written, hlists, ?_⟩
    rw [List.append_nil, List.reverse_reverse]
  · rintro ⟨hdepth, written, hlists, rfl⟩
    refine ⟨depth - 1, body, enter_eq_ok_iff.mpr ⟨fun _ => hdepth, rfl, rfl⟩, ?_⟩
    refine bind_eq_ok_iff.mpr ⟨written.reverse, rest, ?_, ?_⟩
    · exact (members_eq_ok_iff (by omega)).mpr ⟨written, hlists, (List.append_nil _).symm⟩
    · rw [List.reverse_reverse]
      rfl

/-- Whether a reader takes no text at all. -/
def Refuses (read : Reader α) : Prop :=
  ∀ cs r, read cs ≠ .ok r

theorem Refuses.bind {x : Reader α} {f : α → Reader β} (hf : ∀ a, Refuses (f a)) :
    Refuses (x >>= f) := by
  rintro cs ⟨b, rest⟩ h
  obtain ⟨a, cs', -, hb⟩ := bind_eq_ok_iff.mp h
  exact hf a cs' _ hb

theorem refuses_fail (f : Fault) : Refuses (fail f : Reader α) := nofun

theorem refuses_refuse (wanted : String) : Refuses (refuse wanted : Reader α) := by
  refine Refuses.bind fun c => ?_
  split
  · exact Refuses.bind fun _ => Refuses.bind fun _ => refuses_fail _
  · exact Refuses.bind fun _ => Refuses.bind fun _ => refuses_fail _
  · exact Refuses.bind fun _ => Refuses.bind fun _ => refuses_fail _
  · exact Refuses.bind fun _ => Refuses.bind fun _ => refuses_fail _
  · exact refuses_fail _
  · exact refuses_fail _
  · split
    · exact Refuses.bind fun _ => refuses_fail _
    · exact refuses_fail _

theorem map_eq_ok_iff {depth : Nat} {ms : Members Json} :
    map depth cs = .ok (ms, rest) ↔
      ∃ written, ObjectText depth cs written rest ∧ ms = Members.ofAssignments written := by
  rw [map, peek_bind_eq_ok_iff]
  constructor
  · rintro ⟨c, tl, htl, h⟩
    split at h
    · obtain ⟨j, cs', hj, h⟩ := bind_eq_ok_iff.mp h
      obtain ⟨hdepth, written, hlists, rfl⟩ := document_eq_ok_iff_of_brace.mp hj
      cases h
      exact ⟨written, ⟨hdepth, tl, htl, hlists⟩, rfl⟩
    · exact absurd h (refuses_refuse _ _ _)
  · rintro ⟨written, ⟨hdepth, body, hbody, hlists⟩, rfl⟩
    have hdocument := document_eq_ok_iff_of_brace.mpr ⟨hdepth, written, hlists, rfl⟩
    exact ⟨'\x7b', body, hbody, bind_eq_ok_iff.mpr ⟨_, rest, hdocument, rfl⟩⟩

end FilterSql.Reader
