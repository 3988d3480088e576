/-!
# Readings

A rule reads a value off the front of a text or refuses it. Beside the outcome it keeps a mark: the
place of the furthest named rule that failed on the way, counted in characters left, so that fewer
left means further. Marks are kept through choices and repetitions that go on to succeed; they
decide where a refused text is reported, and nothing else (`outcome_bind`, `outcome_orElse` and
their like never mention them).

Between the parts of a rule blanks and comments may stand, which `gap` reads.
-/

namespace Linkage.Script

/-- What a rule makes of a text. -/
structure Reading (α : Type) where
  /-- The value and the text behind it, or nothing when the rule refuses. -/
  outcome : Option (α × List Char)
  /-- The characters left where the furthest failed rule began. -/
  mark : Option Nat

/-- A way of reading a value off the front of a text. -/
def Rule (α : Type) : Type := List Char → Reading α

/-- The further of two marks. -/
def further : Option Nat → Option Nat → Option Nat
  | none, mark => mark
  | mark, none => mark
  | some a, some b => some (min a b)

namespace Rule

variable {α β : Type}

/-- Read nothing. -/
def value (a : α) : Rule α := fun text => ⟨some (a, text), none⟩

/-- Read one thing and then, depending on it, another. -/
def andThen (first : Rule α) (next : α → Rule β) : Rule β := fun text =>
  let reading := first text
  match reading.outcome with
  | none => ⟨none, reading.mark⟩
  | some (a, rest) => ⟨(next a rest).outcome, further reading.mark (next a rest).mark⟩

instance : Monad Rule where
  pure := value
  bind := andThen

/-- A rule that leaves its mark where it fails. -/
def named (rule : Rule α) : Rule α := fun text =>
  let reading := rule text
  match reading.outcome with
  | none => ⟨none, further reading.mark (some text.length)⟩
  | some _ => reading

/-- The first of two rules that does not refuse. -/
def orElse (first second : Rule α) : Rule α := fun text =>
  let reading := first text
  match reading.outcome with
  | none => ⟨(second text).outcome, further reading.mark (second text).mark⟩
  | some _ => reading

/-- A rule, or nothing where it refuses. -/
def optional (rule : Rule α) : Rule (Option α) := orElse (rule >>= fun a => value (some a)) (value none)

/-- A rule over and over, until it refuses or stands still. -/
def repeated (rule : Rule α) : Rule (List α) := fun text =>
  let reading := rule text
  match reading.outcome with
  | none => ⟨some ([], text), reading.mark⟩
  | some (a, rest) =>
    if rest.length < text.length then
      let more := repeated rule rest
      ⟨more.outcome.map fun found => (a :: found.1, found.2), further reading.mark more.mark⟩
    else ⟨some ([], text), reading.mark⟩
termination_by text => text.length

/-- A rule without marks, given by a function that splits a text. -/
def ofScan (scan : List Char → Option (α × List Char)) : Rule α := fun text => ⟨scan text, none⟩

/-- A fixed word. -/
def word (letters : String) : Rule Unit := ofScan fun text =>
  if letters.toList.isPrefixOf text then some ((), text.drop letters.toList.length) else none

/-- The end of the text. -/
def finish : Rule Unit := named <| ofScan fun text =>
  match text with
  | [] => some ((), [])
  | _ => none

end Rule

/-- The characters that may separate the parts of a rule. -/
def isSpace (c : Char) : Bool := c = ' ' || c = '\t' || c = '\r' || c = '\n'

/-- Split leading blanks and comments off a text. A comment starts with two slashes and ends before
the next line feed or with the text; the flag says whether one is open. -/
def splitGap : Bool → List Char → List Char × List Char
  | _, [] => ([], [])
  | true, c :: rest => (splitGap (c != '\n') rest).map (c :: ·) id
  | false, '/' :: '/' :: rest => (splitGap true rest).map ('/' :: '/' :: ·) id
  | false, c :: rest =>
    if isSpace c then (splitGap false rest).map (c :: ·) id else ([], c :: rest)

/-- What is split off and what is left make up the whole text. -/
theorem splitGap_append (inComment : Bool) (text : List Char) :
    (splitGap inComment text).1 ++ (splitGap inComment text).2 = text := by
  fun_induction splitGap inComment text with
  | case1 => rfl
  | case2 c rest ih => exact congrArg (c :: ·) ih
  | case3 rest ih => exact congrArg ('/' :: '/' :: ·) ih
  | case4 c rest _ _ ih => exact congrArg (c :: ·) ih
  | case5 => rfl

namespace Rule

/-- Blanks and comments, as far as they go; the value is the text passed over. -/
def gap : Rule (List Char) := ofScan fun text => some (splitGap false text)

/-- One item after another, with gaps between them. -/
def many {α : Type} (item : Rule α) : Rule (List α) := do
  match ← optional item with
  | none => return []
  | some first =>
    let rest ← repeated (do let _ ← gap; item)
    return first :: rest

/-- Items with a comma between each two. -/
def commaSeparated {α : Type} (item : Rule α) : Rule (List α) := do
  let first ← item
  let _ ← gap
  let rest ← many (do word ","; let _ ← gap; item)
  return first :: rest

variable {α β : Type}

theorem outcome_bind (first : Rule α) (next : α → Rule β) (text : List Char) :
    ((first >>= next) text).outcome = (first text).outcome.bind fun r => (next r.1 r.2).outcome := by
  show (andThen first next text).outcome = _
  unfold andThen
  cases h : (first text).outcome <;> simp [h]

theorem outcome_pure (a : α) (text : List Char) :
    ((pure a : Rule α) text).outcome = some (a, text) := rfl

theorem outcome_named (rule : Rule α) (text : List Char) :
    (named rule text).outcome = (rule text).outcome := by
  unfold named
  cases h : (rule text).outcome <;> simp [h]

theorem outcome_orElse (first second : Rule α) (text : List Char) :
    (orElse first second text).outcome = (first text).outcome.or (second text).outcome := by
  unfold orElse
  cases h : (first text).outcome <;> simp [h]

/-- A repetition stops where the rule refuses. -/
theorem outcome_repeated_of_none {rule : Rule α} {text : List Char}
    (h : (rule text).outcome = none) : (rule.repeated text).outcome = some ([], text) := by
  rw [repeated]
  simp only [h]

/-- A repetition goes on behind what the rule has read. -/
theorem outcome_repeated_of_some {rule : Rule α} {a : α} {text rest : List Char}
    (h : (rule text).outcome = some (a, rest)) (hless : rest.length < text.length) :
    (rule.repeated text).outcome =
      (rule.repeated rest).outcome.map fun found => (a :: found.1, found.2) := by
  rw [repeated]
  simp only [h, if_pos hless]

end Rule

end Linkage.Script
