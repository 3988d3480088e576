import Linkage.Unit.Registry
import Mathlib.Data.List.Induction

/-!
# Registries and their histories

A registry that is filled declaration by declaration, going on after failures, is what its history
makes it: it holds the first declaration of each name that is accepted (`FirstAccepted`), in the order
in which these stand in the history. `Registry.enter_cases` says what one step can do, and
`Registry.Reflects.enter` that the step keeps the registry in agreement with the history; a refused
declaration does not reserve its name, and a second one of a name neither replaces nor moves the
first. `Registry.firstWins` puts the run together and compares it with the batch, which stops at the
first failure.
-/

namespace Linkage

variable {stamp : Nat}

theorem CodeUnit.name_of_define {d : Declaration} {unit : CodeUnit}
    (h : CodeUnit.define stamp d = .ok unit) : unit.name = d.name := by
  rw [CodeUnit.name, CodeUnit.declaration_of_define h]

/-! ## First accepted declarations -/

/-- At a place of a history stands the first declaration of its name that is accepted, and it
describes a unit. -/
structure FirstAccepted (stamp : Nat) (history : List Declaration) (place : Nat)
    (unit : CodeUnit) : Prop where
  accepted : ∃ d, history[place]? = some d ∧ CodeUnit.define stamp d = .ok unit
  refused_before : ∀ earlier < place, ∀ d, history[earlier]? = some d → d.name = unit.name →
    ∃ error, CodeUnit.define stamp d = .error error

namespace FirstAccepted

variable {history : List Declaration} {place other : Nat} {unit unit' : CodeUnit} {d : Declaration}

theorem place_lt (first : FirstAccepted stamp history place unit) : place < history.length := by
  obtain ⟨d, hplace, -⟩ := first.accepted
  exact (List.getElem?_eq_some_iff.1 hplace).1

/-- No accepted declaration of the name stands in front of the first one. -/
theorem not_lt (first : FirstAccepted stamp history place unit)
    (second : FirstAccepted stamp history other unit')
    (hname : unit.name = unit'.name) : ¬ place < other := by
  intro hlt
  obtain ⟨d, hplace, hdefine⟩ := first.accepted
  have hd : d.name = unit'.name := by rw [← CodeUnit.name_of_define hdefine, hname]
  obtain ⟨error, herror⟩ := second.refused_before place hlt d hplace hd
  rw [hdefine] at herror
  cases herror

/-- The first accepted declaration of a name is one declaration in one place. -/
theorem unique (first : FirstAccepted stamp history place unit)
    (second : FirstAccepted stamp history other unit') (hname : unit.name = unit'.name) :
    place = other ∧ unit = unit' := by
  obtain rfl : place = other :=
    Nat.le_antisymm (Nat.not_lt.1 (second.not_lt first hname.symm))
      (Nat.not_lt.1 (first.not_lt second hname))
  obtain ⟨d, hplace, hdefine⟩ := first.accepted
  obtain ⟨same, hsame, hdefine'⟩ := second.accepted
  obtain rfl : d = same := Option.some.inj (hplace.symm.trans hsame)
  exact ⟨rfl, Except.ok.inj (hdefine.symm.trans hdefine')⟩

/-- What follows later does not matter. -/
theorem append (first : FirstAccepted stamp history place unit) (later : List Declaration) :
    FirstAccepted stamp (history ++ later) place unit := by
  have hfront : ∀ place < history.length, (history ++ later)[place]? = history[place]? :=
    fun _ => List.getElem?_append_left
  obtain ⟨d, hplace, hdefine⟩ := first.accepted
  refine ⟨⟨d, by rw [hfront place first.place_lt, hplace], hdefine⟩, ?_⟩
  intro earlier hlt d hd hname
  rw [hfront earlier (Nat.lt_trans hlt first.place_lt)] at hd
  exact first.refused_before earlier hlt d hd hname

end FirstAccepted

/-- With one more declaration the first accepted ones are those from before, and the new one if it is
accepted and none of its name was. -/
theorem firstAccepted_concat_iff {history : List Declaration} {d : Declaration} {place : Nat}
    {unit : CodeUnit} :
    FirstAccepted stamp (history ++ [d]) place unit ↔
      FirstAccepted stamp history place unit ∨
        place = history.length ∧ CodeUnit.define stamp d = .ok unit ∧
          ∀ e ∈ history, e.name = unit.name → ∃ error, CodeUnit.define stamp e = .error error := by
  have hfront : ∀ place < history.length, (history ++ [d])[place]? = history[place]? :=
    fun _ => List.getElem?_append_left
  have hlast : (history ++ [d])[history.length]? = some d := List.getElem?_concat_length
  constructor
  · intro first
    obtain ⟨e, hplace, hdefine⟩ := first.accepted
    have hle : place ≤ history.length := by
      have hlt := first.place_lt
      rw [List.length_append, List.length_singleton] at hlt
      exact Nat.le_of_lt_succ hlt
    rcases Nat.lt_or_eq_of_le hle with hlt | rfl
    · refine Or.inl ⟨⟨e, by rw [← hfront place hlt, hplace], hdefine⟩, ?_⟩
      intro earlier hearlier e he
      rw [← hfront earlier (Nat.lt_trans hearlier hlt)] at he
      exact first.refused_before earlier hearlier e he
    · obtain rfl : d = e := Option.some.inj (hlast.symm.trans hplace)
      refine Or.inr ⟨rfl, hdefine, fun e he => ?_⟩
      obtain ⟨earlier, hearlier, hget⟩ := List.mem_iff_getElem.1 he
      refine first.refused_before earlier hearlier e ?_
      rw [hfront earlier hearlier, List.getElem?_eq_getElem hearlier, hget]
  · rintro (first | ⟨rfl, hdefine, hrefused⟩)
    · exact first.append [d]
    · refine ⟨⟨d, hlast, hdefine⟩, fun earlier hearlier e he => ?_⟩
      rw [hfront earlier hearlier] at he
      exact hrefused e (List.mem_of_getElem? he)

/-- Where a declaration of a name is accepted, there is a first one of that name. -/
theorem exists_firstAccepted {history : List Declaration} {e : Declaration} {unit : CodeUnit}
    (he : e ∈ history) (hdefine : CodeUnit.define stamp e = .ok unit) :
    ∃ place first, FirstAccepted stamp history place first ∧ first.name = e.name := by
  induction history using List.reverseRecOn generalizing e unit with
  | nil => cases he
  | append_singleton history d ih =>
    rcases List.mem_append.1 he with he | he
    · obtain ⟨place, first, hfirst, hname⟩ := ih he hdefine
      exact ⟨place, first, hfirst.append [d], hname⟩
    · obtain rfl := List.mem_singleton.1 he
      -- either an accepted one of the name stands in front, or the last one is the first
      by_cases hfront : ∃ other ∈ history, other.name = e.name ∧
          ∃ unit, CodeUnit.define stamp other = .ok unit
      · obtain ⟨other, hother, hname, unit, hunit⟩ := hfront
        obtain ⟨place, first, hfirst, hsame⟩ := ih hother hunit
        exact ⟨place, first, hfirst.append [e], hsame.trans hname⟩
      · refine ⟨history.length, unit, firstAccepted_concat_iff.2 (Or.inr ⟨rfl, hdefine, ?_⟩),
          CodeUnit.name_of_define hdefine⟩
        intro other hother hname
        cases hunit : CodeUnit.define stamp other with
        | error error => exact ⟨error, rfl⟩
        | ok found =>
          rw [CodeUnit.name_of_define hdefine] at hname
          exact absurd ⟨other, hother, hname, found, hunit⟩ hfront

namespace Registry

/-! ## Steps -/

variable {registry : Registry} {history : List Declaration} {d : Declaration}

/-- What a step can do: the declaration is refused, its name is taken, or its unit is put at the end.
In the first two cases the registry stays as it is. -/
theorem enter_cases (stamp : Nat) (registry : Registry) (d : Declaration) :
    (∃ error, CodeUnit.define stamp d = .error error ∧
      registry.enter stamp d = (some error, registry)) ∨
      (∃ unit, CodeUnit.define stamp d = .ok unit ∧ d.name ∈ registry.names ∧
        registry.enter stamp d = (some (.duplicateDefinition d.name), registry)) ∨
      ∃ unit next, CodeUnit.define stamp d = .ok unit ∧ d.name ∉ registry.names ∧
        registry.enter stamp d = (none, next) ∧ next.units = registry.units ++ [unit] := by
  cases hdefine : CodeUnit.define stamp d with
  | error error => exact Or.inl ⟨error, rfl, by rw [enter, declare, hdefine]⟩
  | ok unit =>
    have hname := CodeUnit.name_of_define hdefine
    have hdeclare : registry.declare stamp d = registry.register unit := by rw [declare, hdefine]
    cases hregister : registry.register unit with
    | error error =>
      have henter : registry.enter stamp d = (some error, registry) := by
        rw [enter, hdeclare, hregister]
      rw [register] at hregister
      split at hregister
      · next htaken =>
        cases hregister
        refine Or.inr (Or.inl ⟨unit, rfl, ?_, by rw [henter, hname]⟩)
        by_contra hfree
        rw [← hname, ← contains_eq_false_iff, htaken] at hfree
        cases hfree
      · cases hregister
    | ok next =>
      have henter : registry.enter stamp d = (none, next) := by rw [enter, hdeclare, hregister]
      have hunits := registry.units_register hregister
      refine Or.inr (Or.inr ⟨unit, next, rfl, ?_, henter, hunits⟩)
      -- the names of the new registry are distinct, and the last one is that of the unit
      have hdistinct := next.names_distinct
      rw [hunits, List.map_append, List.map_singleton, List.nodup_append, hname] at hdistinct
      exact fun hmem => hdistinct.2.2 d.name hmem d.name (List.mem_singleton.2 rfl) rfl

/-- A registry that holds the first accepted declaration of each name, in the order of the history. -/
structure Reflects (stamp : Nat) (registry : Registry) (history : List Declaration) : Prop where
  mem_iff : ∀ unit, unit ∈ registry.units ↔ ∃ place, FirstAccepted stamp history place unit
  in_order : registry.units.Pairwise fun unit other => ∀ place place',
    FirstAccepted stamp history place unit → FirstAccepted stamp history place' other → place < place'

namespace Reflects

theorem nil : empty.Reflects stamp [] where
  mem_iff unit := by
    refine iff_of_false List.not_mem_nil ?_
    rintro ⟨place, first⟩
    exact Nat.not_lt_zero place first.place_lt
  in_order := .nil

/-- The names that are taken are those of accepted declarations. -/
theorem mem_names_iff (reflects : registry.Reflects stamp history) {name : QualifiedName} :
    name ∈ registry.names ↔
      ∃ e ∈ history, e.name = name ∧ ∃ unit, CodeUnit.define stamp e = .ok unit := by
  rw [names, List.mem_map]
  constructor
  · rintro ⟨unit, hunit, rfl⟩
    obtain ⟨place, first⟩ := (reflects.mem_iff unit).1 hunit
    obtain ⟨e, hplace, hdefine⟩ := first.accepted
    exact ⟨e, List.mem_of_getElem? hplace, (CodeUnit.name_of_define hdefine).symm, unit, hdefine⟩
  · rintro ⟨e, he, rfl, unit, hdefine⟩
    obtain ⟨place, first, hfirst, hname⟩ := exists_firstAccepted he hdefine
    exact ⟨first, (reflects.mem_iff first).2 ⟨place, hfirst⟩, hname⟩

/-- A declaration that leaves the first accepted ones as they were may be added to the history. -/
theorem concat_of_forall (reflects : registry.Reflects stamp history)
    (hsame : ∀ place unit, FirstAccepted stamp (history ++ [d]) place unit →
      FirstAccepted stamp history place unit) : registry.Reflects stamp (history ++ [d]) where
  mem_iff unit := by
    rw [reflects.mem_iff]
    exact ⟨fun ⟨place, first⟩ => ⟨place, first.append [d]⟩,
      fun ⟨place, first⟩ => ⟨place, hsame place unit first⟩⟩
  in_order := reflects.in_order.imp fun hlt place place' first second =>
    hlt place place' (hsame _ _ first) (hsame _ _ second)

/-- A step keeps the registry in agreement with the history. -/
theorem enter (reflects : registry.Reflects stamp history) (d : Declaration) :
    (registry.enter stamp d).2.Reflects stamp (history ++ [d]) := by
  rcases registry.enter_cases stamp d with ⟨error, hdefine, henter⟩ | ⟨unit, hdefine, htaken, henter⟩ |
    ⟨unit, next, hdefine, hfree, henter, hunits⟩
  · -- a refused declaration is not accepted
    rw [henter]
    refine reflects.concat_of_forall fun place other first => ?_
    rcases firstAccepted_concat_iff.1 first with first | ⟨-, haccepted, -⟩
    · exact first
    · rw [hdefine] at haccepted
      cases haccepted
  · -- a second one of a name is not the first
    rw [henter]
    refine reflects.concat_of_forall fun place other first => ?_
    rcases firstAccepted_concat_iff.1 first with first | ⟨-, haccepted, hrefused⟩
    · exact first
    · obtain ⟨e, he, hname, found, hfound⟩ := reflects.mem_names_iff.1 htaken
      obtain ⟨error, herror⟩ :=
        hrefused e he (hname.trans (CodeUnit.name_of_define haccepted).symm)
      rw [hfound] at herror
      cases herror
  · -- the first one of a name is the last one of all
    have hlast : FirstAccepted stamp (history ++ [d]) history.length unit := by
      refine firstAccepted_concat_iff.2 (Or.inr ⟨rfl, hdefine, fun e he hname => ?_⟩)
      cases hfound : CodeUnit.define stamp e with
      | error error => exact ⟨error, rfl⟩
      | ok found =>
        rw [CodeUnit.name_of_define hdefine] at hname
        exact absurd (reflects.mem_names_iff.2 ⟨e, he, hname, found, hfound⟩) hfree
    rw [henter]
    constructor
    · intro other
      rw [hunits, List.mem_append, List.mem_singleton, reflects.mem_iff]
      constructor
      · rintro (⟨place, first⟩ | rfl)
        · exact ⟨place, first.append [d]⟩
        · exact ⟨history.length, hlast⟩
      · rintro ⟨place, first⟩
        rcases firstAccepted_concat_iff.1 first with first | ⟨-, haccepted, -⟩
        · exact Or.inl ⟨place, first⟩
        · exact Or.inr (Except.ok.inj (haccepted.symm.trans hdefine))
    · -- units from before have their places in the history from before
      have hold : ∀ other ∈ registry.units, ∀ place,
          FirstAccepted stamp (history ++ [d]) place other →
            FirstAccepted stamp history place other := by
        intro other hother place first
        obtain ⟨place', first'⟩ := (reflects.mem_iff other).1 hother
        rwa [(first.unique (first'.append [d]) rfl).1]
      rw [hunits, List.pairwise_append]
      refine ⟨?_, List.pairwise_singleton _ _, ?_⟩
      · refine reflects.in_order.imp_of_mem fun hone hother hlt place place' first second => ?_
        exact hlt place place' (hold _ hone place first) (hold _ hother place' second)
      · intro one hone other hother place place' first second
        obtain rfl := List.mem_singleton.1 hother
        rw [(second.unique hlast rfl).1]
        exact (hold one hone place first).place_lt

/-- A lookup finds the first accepted declaration of the name. -/
theorem lookup?_eq_some_iff (reflects : registry.Reflects stamp history) {name : QualifiedName}
    {unit : CodeUnit} :
    registry.lookup? name = some unit ↔
      unit.name = name ∧ ∃ place, FirstAccepted stamp history place unit := by
  rw [Registry.lookup?_eq_some_iff, reflects.mem_iff, and_comm]

end Reflects

/-! ## Runs -/

/-- The registry that a history leaves behind. -/
def ofHistory (stamp : Nat) (history : List Declaration) : Registry :=
  (empty.enterAll stamp history).2

/-- What the steps of a history come to, one by one. -/
def failures (stamp : Nat) (history : List Declaration) : List (Option DefinitionError) :=
  (empty.enterAll stamp history).1

theorem enterAll_cons (stamp : Nat) (registry : Registry) (d : Declaration)
    (rest : List Declaration) :
    registry.enterAll stamp (d :: rest) =
      ((registry.enter stamp d).1 :: ((registry.enter stamp d).2.enterAll stamp rest).1,
        ((registry.enter stamp d).2.enterAll stamp rest).2) := rfl

theorem enterAll_append (stamp : Nat) (registry : Registry) (front back : List Declaration) :
    registry.enterAll stamp (front ++ back) =
      ((registry.enterAll stamp front).1 ++ ((registry.enterAll stamp front).2.enterAll stamp back).1,
        ((registry.enterAll stamp front).2.enterAll stamp back).2) := by
  induction front generalizing registry with
  | nil => rfl
  | cons d front ih =>
    rw [List.cons_append, enterAll_cons, enterAll_cons, ih, List.cons_append]

theorem length_enterAll (stamp : Nat) (registry : Registry) (history : List Declaration) :
    (registry.enterAll stamp history).1.length = history.length := by
  induction history generalizing registry with
  | nil => rfl
  | cons d history ih =>
    rw [enterAll_cons, List.length_cons, List.length_cons, ih]

theorem ofHistory_concat (stamp : Nat) (history : List Declaration) (d : Declaration) :
    ofHistory stamp (history ++ [d]) = ((ofHistory stamp history).enter stamp d).2 := by
  rw [ofHistory, enterAll_append]
  rfl

/-- What a step comes to in the middle of a history. -/
theorem getElem?_failures (stamp : Nat) (front : List Declaration) (d : Declaration)
    (back : List Declaration) :
    (failures stamp (front ++ d :: back))[front.length]? =
      some ((ofHistory stamp front).enter stamp d).1 := by
  have hlength := length_enterAll stamp empty front
  rw [failures, enterAll_append, List.getElem?_append_right (Nat.le_of_eq hlength), hlength,
    Nat.sub_self, enterAll_cons]
  rfl

theorem reflects_ofHistory (stamp : Nat) (history : List Declaration) :
    (ofHistory stamp history).Reflects stamp history := by
  induction history using List.reverseRecOn with
  | nil => exact Reflects.nil
  | append_singleton history d ih =>
    rw [ofHistory_concat]
    exact ih.enter d

/-- Declaring one after the other stops at the first failure, and goes as far as entering does. -/
theorem foldlM_declare (stamp : Nat) (registry : Registry) (history : List Declaration) :
    history.foldlM (fun registry d => registry.declare stamp d) registry =
      match (registry.enterAll stamp history).1.findSome? id with
      | some error => .error error
      | none => .ok (registry.enterAll stamp history).2 := by
  induction history generalizing registry with
  | nil => rfl
  | cons d history ih =>
    rw [List.foldlM_cons, enterAll_cons]
    cases hdeclare : registry.declare stamp d with
    | error error =>
      have henter : registry.enter stamp d = (some error, registry) := by rw [enter, hdeclare]
      rw [henter]
      rfl
    | ok next =>
      have henter : registry.enter stamp d = (none, next) := by rw [enter, hdeclare]
      rw [henter]
      exact ih next

/-- A step in the middle of a history fails when the declaration is refused, or when it would be
accepted and one of its name was accepted in front of it. -/
theorem failed_iff (stamp : Nat) (front : List Declaration) (d : Declaration)
    (back : List Declaration)
    (error : DefinitionError) :
    (failures stamp (front ++ d :: back))[front.length]? = some (some error) ↔
      CodeUnit.define stamp d = .error error ∨
        error = .duplicateDefinition d.name ∧ (∃ unit, CodeUnit.define stamp d = .ok unit) ∧
          ∃ e ∈ front, e.name = d.name ∧ ∃ unit, CodeUnit.define stamp e = .ok unit := by
  have htaken : d.name ∈ (ofHistory stamp front).names ↔
      ∃ e ∈ front, e.name = d.name ∧ ∃ unit, CodeUnit.define stamp e = .ok unit :=
    (reflects_ofHistory stamp front).mem_names_iff
  rw [getElem?_failures, Option.some.injEq, ← htaken]
  rcases (ofHistory stamp front).enter_cases stamp d with ⟨refusal, hdefine, henter⟩ |
    ⟨unit, hdefine, hname, henter⟩ | ⟨unit, next, hdefine, hname, henter, -⟩
  · simp [hdefine, henter]
  · simp [hdefine, henter, hname, eq_comm]
  · simp [hdefine, henter, hname]

/-- A step that fails leaves the registry as it is. -/
theorem ofHistory_concat_of_failed {front : List Declaration} {d : Declaration}
    {back : List Declaration} {error : DefinitionError}
    (h : (failures stamp (front ++ d :: back))[front.length]? = some (some error)) :
    ofHistory stamp (front ++ [d]) = ofHistory stamp front := by
  rw [getElem?_failures, Option.some.injEq] at h
  rw [ofHistory_concat]
  rcases (ofHistory stamp front).enter_cases stamp d with ⟨refusal, -, henter⟩ | ⟨unit, -, -, henter⟩ |
    ⟨unit, next, -, -, henter, -⟩
  · rw [henter]
  · rw [henter]
  · rw [henter] at h
    cases h

/-- What a history makes of a registry, step by step and as a batch. -/
structure FirstWins (stamp : Nat) (history : List Declaration) : Prop
    extends Reflects stamp (ofHistory stamp history) history where
  names_distinct : (ofHistory stamp history).names.Nodup
  lookup?_iff : ∀ name unit, (ofHistory stamp history).lookup? name = some unit ↔
    unit.name = name ∧ ∃ place, FirstAccepted stamp history place unit
  /-- The steps that fail, each with its error. -/
  failed : ∀ front d back error, history = front ++ d :: back →
    ((failures stamp history)[front.length]? = some (some error) ↔
      CodeUnit.define stamp d = .error error ∨
        error = .duplicateDefinition d.name ∧ (∃ unit, CodeUnit.define stamp d = .ok unit) ∧
          ∃ e ∈ front, e.name = d.name ∧ ∃ unit, CodeUnit.define stamp e = .ok unit)
  /-- They change nothing: the registry is the same, and with it its names, their order, its size and
  every lookup. -/
  unchanged : ∀ front d back error, history = front ++ d :: back →
    (failures stamp history)[front.length]? = some (some error) →
      ofHistory stamp (front ++ [d]) = ofHistory stamp front
  /-- The batch comes to the first failure, if there is one, and to the same registry otherwise. -/
  batch : ofDeclarations stamp history =
    match (failures stamp history).findSome? id with
    | some error => .error error
    | none => .ok (ofHistory stamp history)

/-- A registry holds the first accepted declaration of each name in its history, in order; steps that
fail change nothing; and the batch agrees with the steps up to the first failure. -/
theorem firstWins (stamp : Nat) (history : List Declaration) : FirstWins stamp history where
  toReflects := reflects_ofHistory stamp history
  names_distinct := (ofHistory stamp history).names_distinct
  lookup?_iff _ _ := (reflects_ofHistory stamp history).lookup?_eq_some_iff
  failed _ _ _ _ hsplit := hsplit ▸ failed_iff _ _ _ _ _
  unchanged _ _ _ _ hsplit h := ofHistory_concat_of_failed (hsplit ▸ h)
  batch := foldlM_declare stamp empty history

/-! ## A name that is contested -/

namespace Contested

/-- An interface that extends a class, which is refused. -/
def refused : Declaration := ⟨⟨"p.A"⟩, .interface, some ⟨"p.B"⟩, [], []⟩

/-- The first declaration of the name that is accepted. -/
def first : Declaration := ⟨⟨"p.A"⟩, .concreteClass, some ⟨"p.B"⟩, [], []⟩

/-- A later one, which could be accepted. -/
def second : Declaration := ⟨⟨"p.A"⟩, .abstractClass, none, [], []⟩

/-- A class of another name. -/
def other : Declaration := ⟨⟨"p.B"⟩, .concreteClass, none, [], []⟩

/-- The three of one name, and the other one among them. -/
def declarations : List Declaration := [refused, first, other, second]

end Contested

/-- The name is free after the refusal and taken after that, and the batch gives up at once. -/
theorem firstWins_contested :
    (∃ unit, unit.declaration = Contested.first ∧
      (ofHistory 0 Contested.declarations).lookup? ⟨"p.A"⟩ = some unit) ∧
    (ofHistory 0 (Contested.declarations.take 4)) = ofHistory 0 (Contested.declarations.take 3) ∧
    ofDeclarations 0 Contested.declarations =
      .error (Contested.refused.broken .interfaceWithParent) := by
  have wins := firstWins 0 Contested.declarations
  have hvalid : Contested.first.Valid := Declaration.fault?_eq_none_iff.1 rfl
  have hdefine : CodeUnit.define 0 Contested.first = .ok ⟨⟨0, Contested.first⟩, hvalid⟩ :=
    CodeUnit.define_eq_ok_iff.2 rfl
  have hfirst : FirstAccepted 0 Contested.declarations 1 ⟨⟨0, Contested.first⟩, hvalid⟩ := by
    refine ⟨⟨Contested.first, rfl, hdefine⟩, fun earlier hearlier d hd _ => ?_⟩
    obtain rfl : earlier = 0 := Nat.lt_one_iff.1 hearlier
    obtain rfl : Contested.refused = d := Option.some.inj hd
    exact ⟨_, CodeUnit.define_eq_error_iff.2 rfl⟩
  have hlookup := (wins.lookup?_iff ⟨"p.A"⟩ _).2 ⟨rfl, 1, hfirst⟩
  exact ⟨⟨_, rfl, hlookup⟩,
    wins.unchanged (Contested.declarations.take 3) Contested.second [] _ rfl rfl,
    wins.batch⟩

end Registry

end Linkage
