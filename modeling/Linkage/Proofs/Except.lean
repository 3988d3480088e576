/-!
# Computations that may fail

When a chain of computations succeeds, every link of it does. Each lemma takes one link off:
`bind_eq_ok_iff` for a step followed by another, `mapM_cons_eq_ok_iff` for a step taken on every
element of a list.

Two computations are compared by `Except.Rel`: they end alike, with related failures or related
results. `Except.RelUnless` leaves the second one open where the first one fails in a way that counts
as lost.
-/

namespace Except

variable {ε ε' α β : Type}

@[simp] theorem ok_bind (a : α) (next : α → Except ε β) : (Except.ok a >>= next) = next a := rfl

@[simp] theorem error_bind (e : ε) (next : α → Except ε β) :
    ((Except.error e : Except ε α) >>= next) = .error e := rfl

/-- A step followed by another succeeds when both do. -/
theorem bind_eq_ok_iff {first : Except ε α} {next : α → Except ε β} {b : β} :
    (first >>= next) = .ok b ↔ ∃ a, first = .ok a ∧ next a = .ok b := by
  cases first with
  | error e =>
    constructor
    · intro h
      cases h
    · rintro ⟨a, h, -⟩
      cases h
  | ok a =>
    constructor
    · exact fun h => ⟨a, rfl, h⟩
    · rintro ⟨_, ⟨⟩, h⟩
      exact h

theorem map_eq_ok_iff {f : α → β} {first : Except ε α} {b : β} :
    first.map f = .ok b ↔ ∃ a, first = .ok a ∧ f a = b := by
  cases first <;> simp [Except.map]

/-- What is done to a result leaves failures alone. -/
theorem eq_error_of_map_eq_error {f : α → β} {first : Except ε α} {e : ε}
    (h : first.map f = .error e) : first = .error e := by
  cases first with
  | error e' => cases h; rfl
  | ok a => cases h

/-- What is left when the failure is forgotten decides success. -/
theorem toOption_eq_some_iff {first : Except ε α} {a : α} :
    first.toOption = some a ↔ first = .ok a := by
  cases first <;> simp [Except.toOption]

/-- Wording a failure anew does not touch success. -/
theorem mapError_eq_ok_iff {f : ε → ε'} {first : Except ε α} {a : α} :
    first.mapError f = .ok a ↔ first = .ok a := by
  cases first with
  | error e =>
    constructor
    · rintro ⟨⟩
    · rintro ⟨⟩
  | ok b =>
    constructor
    · rintro ⟨⟩
      rfl
    · rintro ⟨⟩
      rfl

/-- A step taken on every element of a list succeeds when it does on the first and on the others. -/
theorem mapM_cons_eq_ok_iff {f : α → Except ε β} {x : α} {xs : List α} {ys : List β} :
    (x :: xs).mapM f = .ok ys ↔ ∃ y rest, f x = .ok y ∧ xs.mapM f = .ok rest ∧ ys = y :: rest := by
  rw [List.mapM_cons, bind_eq_ok_iff]
  constructor
  · rintro ⟨y, hy, h⟩
    obtain ⟨rest, hrest, h⟩ := bind_eq_ok_iff.1 h
    cases h
    exact ⟨y, rest, hy, hrest, rfl⟩
  · rintro ⟨y, rest, hy, hrest, rfl⟩
    exact ⟨y, hy, bind_eq_ok_iff.2 ⟨rest, hrest, rfl⟩⟩

/-- Every result of a step taken on all elements of a list is the result on one of them. -/
theorem exists_of_mem_mapM {f : α → Except ε β} {xs : List α} {ys : List β} {y : β}
    (h : xs.mapM f = .ok ys) (hy : y ∈ ys) : ∃ x ∈ xs, f x = .ok y := by
  induction xs generalizing ys with
  | nil =>
    cases h
    cases hy
  | cons x xs ih =>
    obtain ⟨first, rest, hfirst, hrest, rfl⟩ := mapM_cons_eq_ok_iff.1 h
    rcases List.mem_cons.1 hy with rfl | hy
    · exact ⟨x, List.mem_cons_self, hfirst⟩
    · obtain ⟨source, hsource, hy⟩ := ih hrest hy
      exact ⟨source, List.mem_cons_of_mem _ hsource, hy⟩

/-- A step taken on all elements of a list succeeds on each of them. -/
theorem exists_ok_of_mapM {f : α → Except ε β} {xs : List α} {ys : List β} {x : α}
    (h : xs.mapM f = .ok ys) (hx : x ∈ xs) : ∃ y ∈ ys, f x = .ok y := by
  induction xs generalizing ys with
  | nil => cases hx
  | cons first others ih =>
    obtain ⟨y, rest, hfirst, hrest, rfl⟩ := mapM_cons_eq_ok_iff.1 h
    rcases List.mem_cons.1 hx with rfl | hx
    · exact ⟨y, List.mem_cons_self, hfirst⟩
    · obtain ⟨result, hresult, hx⟩ := ih hrest hx
      exact ⟨result, List.mem_cons_of_mem _ hresult, hx⟩

/-- Where every result tells which element it came from, the results tell the list. -/
theorem map_of_mapM {f : α → Except ε β} {origin : β → α}
    (back : ∀ x y, f x = .ok y → origin y = x) {xs : List α} {ys : List β}
    (h : xs.mapM f = .ok ys) : ys.map origin = xs := by
  induction xs generalizing ys with
  | nil =>
    cases h
    rfl
  | cons x xs ih =>
    obtain ⟨y, rest, hy, hrest, rfl⟩ := mapM_cons_eq_ok_iff.1 h
    rw [List.map_cons, back x y hy, ih hrest]

/-- What is done to each result of a step may be done to all of them at the end. -/
theorem mapM_map {γ : Type} (f : α → Except ε β) (g : β → γ) (xs : List α) :
    (xs.mapM fun x => (f x).map g) = (xs.mapM f).map (List.map g) := by
  induction xs with
  | nil => rfl
  | cons x xs ih =>
    rw [List.mapM_cons, List.mapM_cons, ih]
    cases f x with
    | error e => rfl
    | ok y => cases xs.mapM f <;> rfl

/-- Two computations that end alike: both fail, with related failures, or both succeed, with related
results. -/
inductive Rel {α' : Type} (onError : ε → ε' → Prop) (onOk : α → α' → Prop) :
    Except ε α → Except ε' α' → Prop where
  | error {e : ε} {e' : ε'} (h : onError e e') : Rel onError onOk (.error e) (.error e')
  | ok {a : α} {a' : α'} (h : onOk a a') : Rel onError onOk (.ok a) (.ok a')

namespace Rel

variable {α' β' : Type} {onError : ε → ε' → Prop} {onOk : α → α' → Prop} {first : Except ε α}
  {first' : Except ε' α'}

/-- The two ways in which computations end alike. -/
theorem cases (h : Rel onError onOk first first') :
    (∃ e e', first = .error e ∧ first' = .error e' ∧ onError e e') ∨
      ∃ a a', first = .ok a ∧ first' = .ok a' ∧ onOk a a' := by
  cases h with
  | error h => exact Or.inl ⟨_, _, rfl, rfl, h⟩
  | ok h => exact Or.inr ⟨_, _, rfl, rfl, h⟩

theorem exists_error {e : ε} (h : Rel onError onOk (.error e) first') :
    ∃ e', first' = .error e' ∧ onError e e' := by
  cases h with
  | error h => exact ⟨_, rfl, h⟩

theorem exists_ok {a : α} (h : Rel onError onOk (.ok a) first') :
    ∃ a', first' = .ok a' ∧ onOk a a' := by
  cases h with
  | ok h => exact ⟨_, rfl, h⟩

theorem bind {onNext : β → β' → Prop} {next : α → Except ε β} {next' : α' → Except ε' β'}
    (h : Rel onError onOk first first')
    (hnext : ∀ a a', onOk a a' → Rel onError onNext (next a) (next' a')) :
    Rel onError onNext (first >>= next) (first' >>= next') := by
  cases h with
  | error h => exact .error h
  | ok h => exact hnext _ _ h

theorem map {onMapped : β → β' → Prop} {f : α → β} {f' : α' → β'}
    (h : Rel onError onOk first first') (hmap : ∀ a a', onOk a a' → onMapped (f a) (f' a')) :
    Rel onError onMapped (first.map f) (first'.map f') := by
  cases h with
  | error h => exact .error h
  | ok h => exact .ok (hmap _ _ h)

end Rel

/-- Two computations that end alike, unless the first one fails in a way that counts as lost. Nothing
is said of the second one then. -/
inductive RelUnless {α' : Type} (lost : ε → Prop) (onError : ε → ε' → Prop)
    (onOk : α → α' → Prop) : Except ε α → Except ε' α' → Prop where
  | lost {e : ε} {second : Except ε' α'} (h : lost e) :
      RelUnless lost onError onOk (.error e) second
  | rel {first : Except ε α} {second : Except ε' α'} (h : Rel onError onOk first second) :
      RelUnless lost onError onOk first second

namespace RelUnless

variable {α' β' : Type} {lost : ε → Prop} {onError : ε → ε' → Prop} {onOk : α → α' → Prop}
  {first : Except ε α} {second : Except ε' α'}

theorem error {e : ε} {e' : ε'} (h : onError e e') :
    RelUnless lost onError onOk (.error e) (.error e') := .rel (.error h)

theorem ok {a : α} {a' : α'} (h : onOk a a') :
    RelUnless lost onError onOk (.ok a) (.ok a') := .rel (.ok h)

theorem imp {onOk' : α → α' → Prop} (h : RelUnless lost onError onOk first second)
    (hok : ∀ a a', onOk a a' → onOk' a a') : RelUnless lost onError onOk' first second := by
  cases h with
  | lost h => exact .lost h
  | rel h =>
    cases h with
    | error h => exact .error h
    | ok h => exact .ok (hok _ _ h)

/-- The three ways in which the two computations end. -/
theorem cases (h : RelUnless lost onError onOk first second) :
    (∃ e, first = .error e ∧ lost e) ∨
      (∃ e e', first = .error e ∧ second = .error e' ∧ onError e e') ∨
      ∃ a a', first = .ok a ∧ second = .ok a' ∧ onOk a a' := by
  cases h with
  | lost h => exact Or.inl ⟨_, rfl, h⟩
  | rel h => exact Or.inr h.cases

/-- A failure that is not lost is a failure of both. -/
theorem exists_error {e : ε} (h : RelUnless lost onError onOk (.error e) second)
    (kept : ¬ lost e) : ∃ e', second = .error e' ∧ onError e e' := by
  cases h with
  | lost h => exact absurd h kept
  | rel h => exact h.exists_error

/-- Success of the first one is success of both. -/
theorem exists_ok {a : α} (h : RelUnless lost onError onOk (.ok a) second) :
    ∃ a', second = .ok a' ∧ onOk a a' := by
  cases h with
  | rel h => exact h.exists_ok

/-- Where nothing counts as lost, the two computations end alike. -/
theorem rel_of_kept {onError' : ε → ε' → Prop} (h : RelUnless lost onError onOk first second)
    (kept : ∀ e, ¬ lost e) (herror : ∀ e e', onError e e' → onError' e e') :
    Rel onError' onOk first second := by
  rcases h.cases with ⟨e, rfl, he⟩ | ⟨e, e', rfl, rfl, he⟩ | ⟨a, a', rfl, rfl, ha⟩
  · exact absurd he (kept e)
  · exact .error (herror e e' he)
  · exact .ok ha

/-- Where related failures are equal, a failure that is not lost stays as it is. -/
theorem unchanged {second : Except ε α'} {onError : ε → ε → Prop}
    (h : RelUnless lost onError onOk first second) (heq : ∀ e e', onError e e' → e' = e) :
    (∀ a, first = .ok a → ∃ a', second = .ok a' ∧ onOk a a') ∧
      ∀ e, first = .error e → ¬ lost e → second = .error e := by
  constructor
  · rintro a rfl
    exact h.exists_ok
  · rintro e rfl kept
    obtain ⟨e', rfl, herror⟩ := h.exists_error kept
    rw [heq e e' herror]

theorem bind {onNext : β → β' → Prop} {next : α → Except ε β} {next' : α' → Except ε' β'}
    (h : RelUnless lost onError onOk first second)
    (hnext : ∀ a a', onOk a a' → RelUnless lost onError onNext (next a) (next' a')) :
    RelUnless lost onError onNext (first >>= next) (second >>= next') := by
  rcases h.cases with ⟨e, rfl, he⟩ | ⟨e, e', rfl, rfl, he⟩ | ⟨a, a', rfl, rfl, ha⟩
  · exact .lost he
  · exact .error he
  · exact hnext a a' ha

theorem map {onMapped : β → β' → Prop} {f : α → β} {f' : α' → β'}
    (h : RelUnless lost onError onOk first second)
    (hmap : ∀ a a', onOk a a' → onMapped (f a) (f' a')) :
    RelUnless lost onError onMapped (first.map f) (second.map f') := by
  cases h with
  | lost h => exact .lost h
  | rel h => exact .rel (h.map hmap)

end RelUnless

end Except
