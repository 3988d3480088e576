import Linkage.Unit.Registry
import Mathlib.Data.List.Nodup

/-!
# The rules for units

A declaration becomes a unit when it is lawful (`Declaration.Lawful`), and then its members are found
under their keys and nothing else is. When its header is lawful but something else is not, the error
names the first member that offends: `Declaration.Offence` says what the offences of a member are,
given the members in front of it, and which of them is reported when there are several.
`CodeUnit.define_lawful` puts this together.
-/

namespace Linkage

/-! ## Rules -/

/-- The kinds of members that may be declared on a unit. -/
def UnitKind.memberKinds : UnitKind → List MemberKind
  | .interface => [.abstract, .default, .interfaceStatic]
  | .concreteClass => [.virtual, .override, .static]
  | .abstractClass => [.virtual, .override, .static, .abstract]

theorem UnitKind.allows_eq_true_iff {unit : UnitKind} {member : MemberKind} :
    unit.allows member = true ↔ member ∈ unit.memberKinds := by
  cases unit <;> cases member <;> decide

/-- A body is there exactly when the member is not abstract. -/
def Member.Shaped (member : Member) : Prop := member.body.isSome = true ↔ member.kind ≠ .abstract

theorem Member.wellShaped_eq_true_iff {member : Member} :
    member.wellShaped = true ↔ member.Shaped := by
  rw [Member.wellShaped, Member.Shaped, decide_eq_true_eq]
  cases member.body <;> simp

/-- Two members share their name and their signature. -/
def Member.Clashes (one other : Member) : Prop :=
  one.key.name = other.key.name ∧ one.key.signature = other.key.signature

theorem Member.clashes_iff {one other : Member} : one.Clashes other ↔ one.key = other.key := by
  rw [Member.Clashes, MemberKey.mk.injEq]

namespace Declaration

/-- The rules for what a declaration extends. -/
structure LawfulHeader (d : Declaration) : Prop where
  interface_parentless : d.kind = .interface → d.parent = none
  not_own_parent : d.parent ≠ some d.name

/-- The rules for declarations, without any order among them. -/
structure Lawful (d : Declaration) : Prop extends LawfulHeader d where
  kinds : ∀ member ∈ d.members, member.kind ∈ d.kind.memberKinds
  bodies : ∀ member ∈ d.members, member.Shaped
  keys : d.members.Pairwise fun one other => ¬ one.Clashes other

/-- The offences of a member that stands behind others, each with the error that reports it. The
kind comes before the body, and both before the key. -/
inductive Offence (d : Declaration) (before : List Member) (member : Member) :
    DefinitionError → Prop where
  | kind (hkind : member.kind ∉ d.kind.memberKinds) :
      Offence d before member (d.broken (.kindNotAllowed member.kind member.key))
  | body (hkind : member.kind ∈ d.kind.memberKinds) (hbody : ¬ member.Shaped) :
      Offence d before member (d.broken (.wrongBodyShape member.kind member.key))
  | key (hkind : member.kind ∈ d.kind.memberKinds) (hbody : member.Shaped)
      (hkey : ∃ earlier ∈ before, earlier.Clashes member) :
      Offence d before member
        (.duplicateMember d.name member.key.name member.key.signature.text)

/-- The error reports the first member that offends, given the members in front of it. -/
def FirstOffence (d : Declaration) (error : DefinitionError) : Prop :=
  ∃ before member after, d.members = before ++ member :: after ∧ d.Offence before member error ∧
    ∀ front other rest, before = front ++ other :: rest → ∀ fault, ¬ d.Offence front other fault

variable {d : Declaration}

theorem lawful_iff_valid : d.Lawful ↔ d.Valid := by
  have hkinds : (∀ member ∈ d.members, member.kind ∈ d.kind.memberKinds) ↔
      ∀ member ∈ d.members, d.kind.allows member.kind = true :=
    forall₂_congr fun _ _ => UnitKind.allows_eq_true_iff.symm
  have hbodies : (∀ member ∈ d.members, member.Shaped) ↔
      ∀ member ∈ d.members, member.wellShaped = true :=
    forall₂_congr fun _ _ => Member.wellShaped_eq_true_iff.symm
  have hkeys : (d.members.Pairwise fun one other => ¬ one.Clashes other) ↔
      (d.members.map Member.key).Nodup := by
    rw [List.Nodup, List.pairwise_map]
    simp only [Member.clashes_iff, ne_eq]
  constructor
  · intro lawful
    exact ⟨lawful.interface_parentless, lawful.not_own_parent, hkinds.1 lawful.kinds,
      hbodies.1 lawful.bodies, hkeys.1 lawful.keys⟩
  · intro valid
    exact ⟨⟨valid.interface_has_no_parent, valid.not_own_parent⟩, hkinds.2 valid.kinds_allowed,
      hbodies.2 valid.bodies_shaped, hkeys.2 valid.keys_distinct⟩

/-! ## The first offence -/

section Members

variable {earlier : List MemberKey} {before members : List Member} {member : Member}
  {error : DefinitionError}

/-- The faults of a member are its offences, where the keys looked at are those of the members in
front. -/
theorem memberFault?_eq_some_iff (hkeys : ∀ key, key ∈ earlier ↔ key ∈ before.map Member.key) :
    d.memberFault? earlier member = some error ↔ d.Offence before member error := by
  have hclash : member.key ∈ earlier ↔ ∃ other ∈ before, other.Clashes member := by
    rw [hkeys, List.mem_map]
    simp only [Member.clashes_iff]
  rw [memberFault?]
  constructor
  · intro h
    split at h
    · next hkind =>
      cases h
      exact .kind fun hmem => by simp [UnitKind.allows_eq_true_iff.2 hmem] at hkind
    · next hkind =>
      have hmem := UnitKind.allows_eq_true_iff.1 (eq_true_of_ne_false hkind)
      split at h
      · next hbody =>
        cases h
        exact .body hmem fun hshaped => by
          simp [Member.wellShaped_eq_true_iff.2 hshaped] at hbody
      · next hbody =>
        have hshaped := Member.wellShaped_eq_true_iff.1 (eq_true_of_ne_false hbody)
        split at h
        · next hkey =>
          cases h
          exact .key hmem hshaped (hclash.1 hkey)
        · cases h
  · intro offence
    cases offence with
    | kind hkind =>
      have hkind' := Bool.eq_false_iff.2 (mt UnitKind.allows_eq_true_iff.1 hkind)
      rw [if_pos hkind']
    | body hkind hbody =>
      have hkind' := UnitKind.allows_eq_true_iff.2 hkind
      have hbody' := Bool.eq_false_iff.2 (mt Member.wellShaped_eq_true_iff.1 hbody)
      rw [if_neg (by simp [hkind']), if_pos hbody']
    | key hkind hbody hkey =>
      have hkind' := UnitKind.allows_eq_true_iff.2 hkind
      have hbody' := Member.wellShaped_eq_true_iff.2 hbody
      rw [if_neg (by simp [hkind']), if_neg (by simp [hbody']), if_pos (hclash.2 hkey)]

/-- The first fault among members is that of the first one that has a fault behind those in front of
it, whose keys are kept in reverse order. -/
theorem membersFault?_eq_some_iff :
    d.membersFault? earlier members = some error ↔ ∃ before member after,
      members = before ++ member :: after ∧
      d.memberFault? ((before.map Member.key).reverse ++ earlier) member = some error ∧
      ∀ front other rest, before = front ++ other :: rest →
        d.memberFault? ((front.map Member.key).reverse ++ earlier) other = none := by
  induction members generalizing earlier with
  | nil =>
    constructor
    · rintro ⟨⟩
    · rintro ⟨before, member, after, hsplit, -⟩
      simp at hsplit
  | cons first members ih =>
    rw [membersFault?, Option.or_eq_some_iff]
    constructor
    · rintro (hfirst | ⟨hnone, hothers⟩)
      · refine ⟨[], first, members, rfl, hfirst, ?_⟩
        intro front other rest hsplit
        simp at hsplit
      · obtain ⟨before, member, after, rfl, hmember, hbefore⟩ := ih.1 hothers
        refine ⟨first :: before, member, after, rfl, by simpa using hmember, ?_⟩
        intro front other rest hsplit
        rcases List.cons_eq_append_iff.1 hsplit with ⟨rfl, hhead⟩ | ⟨front, rfl, hfront⟩
        · cases hhead
          exact hnone
        · simpa using hbefore front other rest hfront
    · rintro ⟨before, member, after, hsplit, hmember, hbefore⟩
      rcases List.cons_eq_append_iff.1 hsplit with ⟨rfl, hhead⟩ | ⟨before, rfl, rfl⟩
      · cases hhead
        exact Or.inl hmember
      · refine Or.inr ⟨hbefore [] first before rfl, ih.2 ⟨before, member, after, rfl, ?_, ?_⟩⟩
        · simpa using hmember
        · intro front other rest hfront
          simpa using hbefore (first :: front) other rest (by rw [hfront, List.cons_append])

/-- Members are at fault when one of them offends, and the first one that does is reported. -/
theorem membersFault?_eq_some_iff_firstOffence :
    d.membersFault? [] d.members = some error ↔ d.FirstOffence error := by
  have hkeys : ∀ before : List Member, ∀ key,
      key ∈ (before.map Member.key).reverse ++ [] ↔ key ∈ before.map Member.key := by simp
  rw [membersFault?_eq_some_iff, FirstOffence]
  simp only [Option.eq_none_iff_forall_ne_some, ne_eq, memberFault?_eq_some_iff (hkeys _)]

end Members

theorem headerFault?_eq_none_iff_lawfulHeader : d.headerFault? = none ↔ d.LawfulHeader := by
  rw [headerFault?_eq_none_iff]
  exact ⟨fun h => ⟨h.1, h.2⟩, fun h => ⟨h.interface_parentless, h.not_own_parent⟩⟩

end Declaration

/-! ## Units -/

namespace CodeUnit

variable {unit : CodeUnit} {key : MemberKey} {member : Member}

/-- Under a key that was not declared, nothing is found. -/
theorem member?_eq_none_iff :
    unit.member? key = none ↔ ∀ member ∈ unit.members, member.key ≠ key := by
  simp [member?]

/-- Under a key, exactly the declared member with that key is found. -/
theorem member?_eq_some_iff :
    unit.member? key = some member ↔ member ∈ unit.members ∧ member.key = key := by
  constructor
  · exact mem_and_key_of_member?
  · rintro ⟨hmem, rfl⟩
    cases hfind : unit.member? member.key with
    | none => exact absurd rfl (member?_eq_none_iff.1 hfind member hmem)
    | some other =>
      obtain ⟨hother, hkey⟩ := mem_and_key_of_member? hfind
      exact congrArg some (List.inj_on_of_nodup_map unit.valid.keys_distinct hother hmem hkey)

theorem exists_define_eq_ok_iff {stamp : Nat} {d : Declaration} :
    (∃ unit, define stamp d = .ok unit) ↔ d.Lawful := by
  rw [Declaration.lawful_iff_valid]
  constructor
  · rintro ⟨unit, h⟩
    have hvalid := unit.valid
    rwa [define_eq_ok_iff.1 h] at hvalid
  · intro valid
    exact ⟨⟨⟨stamp, d⟩, valid⟩, define_eq_ok_iff.2 rfl⟩

/-- A declaration becomes a unit exactly when it is lawful. The unit has the name, the kind, the
parent and the capabilities that were declared, and under a key it has the member declared with that
key and none under any other. Where the header is lawful, a failure reports the first member that
offends, given the members in front of it. -/
theorem define_lawful (stamp : Nat) (d : Declaration) :
    ((∃ unit, define stamp d = .ok unit) ↔ d.Lawful) ∧
      (∀ unit, define stamp d = .ok unit →
        unit.name = d.name ∧ unit.kind = d.kind ∧ unit.parent = d.parent ∧
          unit.capabilities = d.capabilities ∧
          (∀ member ∈ d.members, unit.member? member.key = some member) ∧
          ∀ key, (∀ member ∈ d.members, member.key ≠ key) → unit.member? key = none) ∧
      (d.LawfulHeader → ∀ error, define stamp d = .error error ↔ d.FirstOffence error) := by
  refine ⟨exists_define_eq_ok_iff, ?_, ?_⟩
  · intro unit h
    obtain rfl := declaration_of_define h
    refine ⟨rfl, rfl, rfl, rfl, fun member hmember => ?_, fun key => member?_eq_none_iff.2⟩
    exact member?_eq_some_iff.2 ⟨hmember, rfl⟩
  · intro lawful error
    have hheader := Declaration.headerFault?_eq_none_iff_lawfulHeader.2 lawful
    rw [define_eq_error_iff, Declaration.fault?, hheader, Option.none_or,
      Declaration.membersFault?_eq_some_iff_firstOffence]

end CodeUnit

/-! ## Offences of several kinds -/

namespace Crowded

/-- A member that a class may declare. -/
def run : Member := ⟨⟨"run", .canonical⟩, .virtual, some (.transfer "A")⟩

/-- Another one under the same key, without the body it needs. -/
def hollowRun : Member := ⟨⟨"run", .canonical⟩, .static, none⟩

/-- One of a kind that only interfaces declare, without a body as well. -/
def hollowDefault : Member := ⟨⟨"run", .canonical⟩, .default, none⟩

/-- A class with three members under one key. -/
def declaration : Declaration where
  name := ⟨"p.A"⟩
  kind := .abstractClass
  parent := none
  capabilities := []
  members := [run, hollowRun, hollowDefault]

end Crowded

/-- The second member is reported, for its body and not for its key. -/
theorem CodeUnit.define_crowded :
    define 0 Crowded.declaration = .error (Crowded.declaration.broken
        (.wrongBodyShape .static ⟨"run", .canonical⟩)) ∧
      Crowded.declaration.FirstOffence (Crowded.declaration.broken
        (.wrongBodyShape .static ⟨"run", .canonical⟩)) := by
  have hheader : Crowded.declaration.LawfulHeader := ⟨by decide, by decide⟩
  have hdefine : define 0 Crowded.declaration = .error (Crowded.declaration.broken
      (.wrongBodyShape .static ⟨"run", .canonical⟩)) := define_eq_error_iff.2 rfl
  exact ⟨hdefine, ((define_lawful 0 Crowded.declaration).2.2 hheader _).1 hdefine⟩

end Linkage
