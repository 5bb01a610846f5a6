import ContentAccess.Proofs.Content.Log
import ContentAccess.Restriction

/-!
# Matchers of stored restrictions

A matcher that applies everywhere grants or denies access everywhere, so it may only come from
restrictions with nothing to decode.  The first restriction of a kind is the one that counts:
when it has one value, this value makes the matcher or is an error, whatever else is stored.
-/

namespace ContentAccess

/-! ## One restriction -/

namespace Restriction

theorem single?_eq_some_iff
    {restriction : Restriction}
    {value : String} :
    restriction.single? = some value ↔ restriction.values = [value] := by
  unfold single?
  split
  · rename_i only values_eq
    simp [values_eq]
  · rename_i several
    simp only [reduceCtorEq, false_iff]
    exact several value

theorem single?_eq_none_iff
    {restriction : Restriction} :
    restriction.single? = none ↔ restriction.values.length ≠ 1 := by
  rw [← not_iff_not, ne_eq, not_not, List.length_eq_one_iff, ← ne_eq, Option.ne_none_iff_exists']
  simp only [single?_eq_some_iff]

/-- A node stores a restriction under its name. -/
theorem name_of_ofNode?
    {Node : Type u}
    [ContentNode Node]
    {node : Node}
    {name : String}
    {restriction : Restriction}
    (stored : ofNode? node name = some restriction) :
    restriction.name = name := by
  unfold ofNode? at stored
  split at stored
  · contradiction
  · split at stored
    · cases stored
      rfl
    · obtain ⟨value, _, rfl⟩ := Option.map_eq_some_iff.mp stored
      rfl

end Restriction

namespace RestrictionKind

variable {kind : RestrictionKind} {layout : Layout} {anchorPath : Option String}
variable {restrictions : List Restriction} {first : Restriction}

/-! ## Decoding -/

/-- What comes of a value declared on `anchorPath`: a matcher of the kind with the rule it
writes, and with the layout if rules of the kind need one, or the failure of the reader. -/
inductive Decodes (layout : Layout) (anchorPath encoded : String) :
    RestrictionKind → Except AccessError Matcher → Prop where
  | metadata {rule : MetadataRule} (read : MetadataRule.read encoded anchorPath = .ok rule) :
      Decodes layout anchorPath encoded .metadata (.ok (.metadata ⟨rule, layout⟩))
  | level {rule : LevelRule} (read : LevelRule.read encoded anchorPath = .ok rule) :
      Decodes layout anchorPath encoded .level (.ok (.level ⟨rule⟩))
  | badMetadata {failure : AccessError}
      (failed : MetadataRule.read encoded anchorPath = .error failure) :
      Decodes layout anchorPath encoded .metadata (.error failure)
  | badLevel {failure : AccessError}
      (failed : LevelRule.read encoded anchorPath = .error failure) :
      Decodes layout anchorPath encoded .level (.error failure)

theorem Decodes.decode_eq
    {anchorPath encoded : String}
    {outcome : Except AccessError Matcher}
    (decoded : Decodes layout anchorPath encoded kind outcome) :
    kind.decode layout anchorPath encoded = outcome := by
  cases decoded with
  | metadata read | level read =>
      rw [decode, read]
      rfl
  | badMetadata failed | badLevel failed =>
      rw [decode, failed]
      rfl

theorem decodes_decode
    (kind : RestrictionKind)
    (layout : Layout)
    (anchorPath encoded : String) :
    Decodes layout anchorPath encoded kind (kind.decode layout anchorPath encoded) := by
  cases kind with
  | metadata =>
      cases outcome : MetadataRule.read encoded anchorPath with
      | error failure =>
          rw [(Decodes.badMetadata outcome).decode_eq]
          exact .badMetadata outcome
      | ok rule =>
          rw [(Decodes.metadata outcome).decode_eq]
          exact .metadata outcome
  | level =>
      cases outcome : LevelRule.read encoded anchorPath with
      | error failure =>
          rw [(Decodes.badLevel outcome).decode_eq]
          exact .badLevel outcome
      | ok rule =>
          rw [(Decodes.level outcome).decode_eq]
          exact .level outcome

theorem decode_eq_iff
    {anchorPath encoded : String}
    {outcome : Except AccessError Matcher} :
    kind.decode layout anchorPath encoded = outcome ↔
      Decodes layout anchorPath encoded kind outcome := by
  refine ⟨?_, Decodes.decode_eq⟩
  rintro rfl
  exact decodes_decode kind layout anchorPath encoded

/-- No value writes a rule that applies everywhere by its form. -/
theorem decode_ne_everything
    {anchorPath encoded : String} :
    kind.decode layout anchorPath encoded ≠ .ok .everything := by
  intro decoded
  cases decode_eq_iff.mp decoded

/-! ## The first restriction of a kind -/

/-- `first` is in the list, and is the first of this kind. -/
def IsFirst
    (kind : RestrictionKind)
    (restrictions : List Restriction)
    (first : Restriction) : Prop :=
  first.name = kind.storedName ∧
    ∃ before after, restrictions = before ++ first :: after ∧
      ∀ earlier ∈ before, earlier.name ≠ kind.storedName

/-- No restriction in the list is of this kind. -/
def IsMissing
    (kind : RestrictionKind)
    (restrictions : List Restriction) : Prop :=
  ∀ restriction ∈ restrictions, restriction.name ≠ kind.storedName

theorem find?_eq_some_iff_isFirst :
    restrictions.find? (fun restriction => restriction.name == kind.storedName) = some first ↔
      kind.IsFirst restrictions first := by
  rw [List.find?_eq_some_iff_append, IsFirst]
  simp only [beq_iff_eq, Bool.not_eq_eq_eq_not, Bool.not_true, beq_eq_false_iff_ne]

theorem find?_eq_none_iff_isMissing :
    restrictions.find? (fun restriction => restriction.name == kind.storedName) = none ↔
      kind.IsMissing restrictions := by
  rw [List.find?_eq_none, IsMissing]
  simp only [beq_iff_eq, ne_eq]

theorem isFirst_singleton
    (named : first.name = kind.storedName) :
    kind.IsFirst [first] first :=
  ⟨named, [], [], rfl, by simp⟩

theorem IsFirst.unique
    {second : Restriction}
    (isFirst : kind.IsFirst restrictions first)
    (isFirstToo : kind.IsFirst restrictions second) :
    first = second := by
  rw [← find?_eq_some_iff_isFirst] at isFirst isFirstToo
  exact Option.some.inj (isFirst.symm.trans isFirstToo)

/-! ## Matchers -/

theorem matcherAmong_of_isFirst
    (isFirst : kind.IsFirst restrictions first) :
    kind.matcherAmong layout anchorPath restrictions =
      kind.matcherOf layout anchorPath (some first) := by
  rw [matcherAmong, find?_eq_some_iff_isFirst.mpr isFirst]

theorem matcherAmong_of_isMissing
    (missing : kind.IsMissing restrictions) :
    kind.matcherAmong layout anchorPath restrictions =
      kind.matcherOf layout anchorPath none := by
  rw [matcherAmong, find?_eq_none_iff_isMissing.mpr missing]

theorem matcherOf_eq_everything_iff
    {restriction : Option Restriction} :
    kind.matcherOf layout anchorPath restriction = .ok .everything ↔
      anchorPath = none ∨ restriction.bind Restriction.single? = none := by
  unfold matcherOf
  cases anchorPath with
  | none => simp
  | some anchorPath =>
      cases restriction.bind Restriction.single? with
      | none => simp
      | some encoded => simp [decode_ne_everything]

/-- There is nothing to decode: no anchor path, no restriction of the kind, or none or several
values in the first one. -/
def NothingUsable
    (kind : RestrictionKind)
    (anchorPath : Option String)
    (restrictions : List Restriction) : Prop :=
  anchorPath = none ∨ kind.IsMissing restrictions ∨
    ∃ first, kind.IsFirst restrictions first ∧ first.values.length ≠ 1

theorem matcherAmong_eq_everything_iff :
    kind.matcherAmong layout anchorPath restrictions = .ok .everything ↔
      kind.NothingUsable anchorPath restrictions := by
  rw [matcherAmong, matcherOf_eq_everything_iff, NothingUsable]
  refine or_congr_right ?_
  cases found : restrictions.find? (fun restriction => restriction.name == kind.storedName) with
  | none =>
      have missing := find?_eq_none_iff_isMissing.mp found
      simp [missing]
  | some first =>
      have isFirst := find?_eq_some_iff_isFirst.mp found
      rw [Option.bind_some, Restriction.single?_eq_none_iff]
      constructor
      · exact fun several => .inr ⟨first, isFirst, several⟩
      · rintro (missing | ⟨same, isFirstToo, several⟩)
        · exact absurd isFirst.1 (missing first (List.mem_of_find?_eq_some found))
        · exact isFirst.unique isFirstToo ▸ several

/-- Where a matcher is not given for want of a value, one value is decoded. -/
theorem exists_of_not_nothingUsable
    (usable : ¬kind.NothingUsable anchorPath restrictions) :
    ∃ anchor first encoded, anchorPath = some anchor ∧ kind.IsFirst restrictions first ∧
      first.values = [encoded] := by
  simp only [NothingUsable, not_or] at usable
  obtain ⟨anchored, present, single⟩ := usable
  obtain ⟨anchor, anchored⟩ := Option.ne_none_iff_exists'.mp anchored
  rw [← find?_eq_none_iff_isMissing] at present
  obtain ⟨first, found⟩ := Option.ne_none_iff_exists'.mp present
  have isFirst := find?_eq_some_iff_isFirst.mp found
  have one : first.values.length = 1 := by
    by_contra several
    exact single ⟨first, isFirst, several⟩
  obtain ⟨encoded, values_eq⟩ := List.length_eq_one_iff.mp one
  exact ⟨anchor, first, encoded, anchored, isFirst, values_eq⟩

theorem matcherAmong_of_single
    {anchor encoded : String}
    (isFirst : kind.IsFirst restrictions first)
    (single : first.values = [encoded]) :
    kind.matcherAmong layout (some anchor) restrictions = kind.decode layout anchor encoded := by
  have value : (some first).bind Restriction.single? = some encoded :=
    Restriction.single?_eq_some_iff.mpr single
  rw [matcherAmong_of_isFirst isFirst]
  unfold matcherOf
  rw [value]

/-! ## One restriction of any kind, and entries -/

theorem find?_all
    (kind : RestrictionKind) :
    all.find? (fun known => known.storedName == kind.storedName) = some kind := by
  cases kind <;> rfl

theorem matcher_of_named
    (named : first.name = kind.storedName) :
    first.matcher layout anchorPath = kind.matcherAmong layout anchorPath [first] := by
  rw [Restriction.matcher, named, find?_all]

theorem matcher_of_unknown
    (unknown : ∀ known : RestrictionKind, first.name ≠ known.storedName) :
    first.matcher layout anchorPath = .ok .everything := by
  have none_known : all.find? (fun known => known.storedName == first.name) = none := by
    rw [List.find?_eq_none]
    intro known _
    simpa using (unknown known).symm
  rw [Restriction.matcher, none_known]

section Entries

variable {Node : Type u} [ContentNode Node] {entry : Node}

theorem matcherAt_of_stored
    (stored : Restriction.ofNode? entry kind.storedName = some first)
    (isFirst : kind.IsFirst restrictions first) :
    kind.matcherAt layout anchorPath entry = kind.matcherAmong layout anchorPath restrictions := by
  rw [matcherAt, stored, matcherAmong_of_isFirst isFirst]

theorem matcherAt_of_not_stored
    (absent : Restriction.ofNode? entry kind.storedName = none)
    (missing : kind.IsMissing restrictions) :
    kind.matcherAt layout anchorPath entry = kind.matcherAmong layout anchorPath restrictions := by
  rw [matcherAt, absent, matcherAmong_of_isMissing missing]

/-- A restriction that an entry stores makes the same matcher when it is handed out. -/
theorem matcher_of_stored
    (stored : Restriction.ofNode? entry kind.storedName = some first) :
    first.matcher layout anchorPath = kind.matcherAt layout anchorPath entry := by
  have named := Restriction.name_of_ofNode? stored
  rw [matcher_of_named named, matcherAt_of_stored stored (isFirst_singleton named)]

end Entries

/-- The matcher for everything is given exactly where there is nothing to decode.  Elsewhere the
one value of the first restriction of the kind is decoded, whatever else is in the list.  A
restriction alone and one that an entry stores make the same matcher as in a list. -/
theorem everything_only_without_value
    (kind : RestrictionKind)
    (layout : Layout)
    (anchorPath : Option String)
    (restrictions : List Restriction) :
    (kind.matcherAmong layout anchorPath restrictions = .ok .everything ↔
      anchorPath = none ∨ kind.IsMissing restrictions ∨
        ∃ first, kind.IsFirst restrictions first ∧ first.values.length ≠ 1) ∧
    (kind.matcherAmong layout anchorPath restrictions ≠ .ok .everything →
      ∃ anchor first encoded,
        anchorPath = some anchor ∧ kind.IsFirst restrictions first ∧ first.values = [encoded] ∧
        (∀ outcome, kind.matcherAmong layout anchorPath restrictions = outcome ↔
          Decodes layout anchor encoded kind outcome) ∧
        ∀ others, kind.IsFirst others first →
          kind.matcherAmong layout anchorPath others =
            kind.matcherAmong layout anchorPath restrictions) ∧
    (∀ restriction : Restriction,
      (restriction.name = kind.storedName →
        restriction.matcher layout anchorPath =
          kind.matcherAmong layout anchorPath [restriction]) ∧
      ((∀ known : RestrictionKind, restriction.name ≠ known.storedName) →
        restriction.matcher layout anchorPath = .ok .everything)) ∧
    (∀ (Node : Type u) [ContentNode Node] (entry : Node),
      (∀ stored, Restriction.ofNode? entry kind.storedName = some stored →
        kind.IsFirst restrictions stored →
        kind.matcherAt layout anchorPath entry =
          kind.matcherAmong layout anchorPath restrictions) ∧
      (Restriction.ofNode? entry kind.storedName = none →
        kind.IsMissing restrictions →
        kind.matcherAt layout anchorPath entry =
          kind.matcherAmong layout anchorPath restrictions)) := by
  refine ⟨matcherAmong_eq_everything_iff, fun narrowed => ?_, fun restriction => ?_,
    fun Node _ entry => ?_⟩
  · rw [ne_eq, matcherAmong_eq_everything_iff] at narrowed
    obtain ⟨anchor, first, encoded, rfl, isFirst, single⟩ := exists_of_not_nothingUsable narrowed
    refine ⟨anchor, first, encoded, rfl, isFirst, single, fun outcome => ?_,
      fun others isFirstToo => ?_⟩
    · rw [matcherAmong_of_single isFirst single, decode_eq_iff]
    · rw [matcherAmong_of_isFirst isFirst, matcherAmong_of_isFirst isFirstToo]
  · exact ⟨matcher_of_named, matcher_of_unknown⟩
  · exact ⟨fun stored => matcherAt_of_stored, matcherAt_of_not_stored⟩

/-- Of two restrictions of a kind the first counts, also for an entry that stores it, and a
restriction of another name counts for nothing. -/
theorem everything_only_without_value_of_repeated :
    let glob : Restriction := ⟨"rep:glob", ["/*"]⟩
    let stored : Restriction := ⟨"rep:subFolder", ["deny#>=1"]⟩
    let several : Restriction := ⟨"rep:subFolder", ["deny#>=2", "deny#>=3"]⟩
    let store := Store.replayed [.insertProperty "/e" "rep:subFolder" (.single "deny#>=1")]
    let entry : store.Place := ⟨⟨1, by decide +kernel⟩⟩
    let matcher := Matcher.level ⟨⟨.deny, false, .atLeast, 1, "/"⟩⟩
    level.matcherAmong .standard (some "/") [glob, stored, several] = .ok matcher ∧
      level.matcherAt .standard (some "/") entry = .ok matcher ∧
      stored.matcher .standard (some "/") = .ok matcher ∧
      level.matcherAmong .standard (some "/") [glob, several, stored] = .ok .everything ∧
      metadata.matcherAmong .standard (some "/") [glob, several, stored] = .ok .everything ∧
      glob.matcher .standard (some "/") = .ok .everything := by
  intro glob stored several store entry matcher
  have storedFirst : level.IsFirst [glob, stored, several] stored :=
    ⟨rfl, [glob], [several], rfl, by decide⟩
  have severalFirst : level.IsFirst [glob, several, stored] several :=
    ⟨rfl, [glob], [stored], rfl, by decide⟩
  have decoded : Decodes .standard "/" "deny#>=1" level (.ok matcher) := .level rfl
  have entryStores : Restriction.ofNode? entry level.storedName = some stored := by
    decide +kernel
  obtain ⟨_, usable, alone, atEntry⟩ :=
    everything_only_without_value level .standard (some "/") [glob, stored, several]
  obtain ⟨anchor, first, encoded, anchored, isFirst, single, decodes, independent⟩ := usable <| by
    rw [matcherAmong_of_single storedFirst rfl]
    exact decode_ne_everything
  obtain rfl := Option.some.inj anchored
  obtain rfl := storedFirst.unique isFirst
  obtain rfl := (List.cons.inj single).1
  have among := (decodes _).mpr decoded
  refine ⟨among, ?_, ?_, ?_, ?_, ?_⟩
  · exact ((atEntry store.Place entry).1 stored entryStores storedFirst).trans among
  · rw [(alone stored).1 rfl, independent [stored] (isFirst_singleton rfl), among]
  · exact matcherAmong_eq_everything_iff.mpr
      (.inr (.inr ⟨several, severalFirst, by decide⟩))
  · refine matcherAmong_eq_everything_iff.mpr (.inr (.inl ?_))
    unfold IsMissing
    decide
  · refine (alone glob).2 fun known => ?_
    cases known <;> decide

end RestrictionKind
end ContentAccess
