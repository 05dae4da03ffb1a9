import FilterSql.Text.Blank

/-!
# Query templates

A raw query may have places for the filter, each written as `where` between braces in any case.
`fill` puts a clause there; a template without a place gets the clause at its end. Where the clause
is empty the place is taken out together with the blanks around it, so that a single blank is left
between what it stood between.
-/

namespace FilterSql.Template

open Text

/-- A part of a template. -/
inductive Part where
  /-- Text up to the next brace, or a single brace. -/
  | text (cs : List Char)
  /-- A place for the filter. -/
  | slot
  deriving DecidableEq, Repr

/-- The rest of a text that starts with a word, in any case of its ASCII letters. -/
def stripWord? : (word : List Char) → List Char → Option (List Char)
  | [], cs => some cs
  | _ :: _, [] => none
  | w :: ws, c :: cs => if c.toLower = w then stripWord? ws cs else none

/-- The place for the filter, in lower case. -/
def token : List Char :=
  ['\x7b', 'w', 'h', 'e', 'r', 'e', '\x7d']

theorem stripWord?_length {word cs rest : List Char} (h : stripWord? word cs = some rest) :
    rest.length + word.length = cs.length := by
  induction word generalizing cs with
  | nil => simp_all [stripWord?]
  | cons w ws ih =>
    cases cs with
    | nil => simp [stripWord?] at h
    | cons c cs =>
      simp only [stripWord?] at h
      split at h
      · have := ih h
        simp only [List.length_cons]
        omega
      · simp at h

/-- The parts of a template, from the left. -/
def parts (cs : List Char) : List Part :=
  match cs with
  | [] => []
  | c :: cs =>
    match _h : stripWord? token (c :: cs) with
    | some rest => .slot :: parts rest
    | none =>
      if c = '\x7b' then .text [c] :: parts cs
      else
        .text (c :: cs.takeWhile (· ≠ '\x7b')) :: parts (cs.dropWhile (· ≠ '\x7b'))
termination_by cs.length
decreasing_by
  · have := stripWord?_length _h
    simp only [token, List.length_cons, List.length_nil] at this ⊢
    omega
  · simp
  · have := (List.dropWhile_suffix (l := cs) (· ≠ '\x7b')).length_le
    simp only [List.length_cons]
    omega

/-- Writes the parts after what is written. `dropped` tells that a place was just taken out, so
that the blanks after it come down to one. -/
def assemble (clause : List Char) : (written : List Char) → (dropped : Bool) → List Part → List Char
  | written, _, [] => written
  | written, dropped, .text t :: ps =>
    if dropped && (t.head?.map isBlank).getD false then
      let rest := trimStart t
      let gap := if written.isEmpty || rest.isEmpty then [] else [' ']
      assemble clause (written ++ gap ++ rest) false ps
    else assemble clause (written ++ t) false ps
  | written, dropped, .slot :: ps =>
    if clause.isEmpty then assemble clause (trimEnd written) true ps
    else assemble clause (written ++ clause) dropped ps

/-- A template with its filter. -/
def fillChars (template clause : List Char) : List Char :=
  let clause := trimStart clause
  let ps := parts template
  if ps.contains .slot then trimEnd (assemble clause [] false ps)
  else if clause.isEmpty then template
  else trimEnd template ++ ' ' :: clause

/-- A template with its filter. -/
def fill (template clause : String) : String :=
  String.ofList (fillChars template.toList clause.toList)

end FilterSql.Template
