import Mathlib.Data.List.Infix
import ContentAccess.Proofs.Matcher.Level
import ContentAccess.Walk

/-!
# The order of paths

Any text is a path.  It is cut at its slashes into parts, the slashes at the end left out,
and lies within every path whose parts its own begin with.  So being within is an order up to
slashes at the end, the paths that one path lies within form a chain, and levels add up along
it.
-/

namespace ContentAccess
namespace Path

/-! ## Parts of a path -/

/-- The parts of a path between slashes; slashes at the end are left out. -/
def parts (path : String) : List String :=
  (Text.pieces '/' (bare path)).map String.ofList

/-- These are texts without slashes that make up the path, with slashes between them and any
number of slashes at the end. -/
structure IsCutInto (path : String) (parts : List String) : Prop where
  whole : ∃ slashes, path.toList =
    Text.joined '/' (parts.map String.toList) ++ List.replicate slashes '/'
  unslashed : ∀ part ∈ parts, '/' ∉ part.toList
  nonempty : parts ≠ []
  /-- An empty part at the end would make one slash more at the end. -/
  ending : parts.getLast? = some "" → parts = [""]

theorem map_toList_parts (path : String) :
    (parts path).map String.toList = Text.pieces '/' (bare path) := by
  simp [parts, Function.comp_def]

/-- What a path is cut into makes up the path without slashes at the end. -/
theorem IsCutInto.bare_eq
    {path : String}
    {list : List String}
    (cut : IsCutInto path list) :
    bare path = Text.joined '/' (list.map String.toList) := by
  obtain ⟨slashes, whole⟩ := cut.whole
  rw [bare_of_append whole]
  apply Text.dropEnding_eq_self
  intro character isEnd
  obtain ⟨last, isLast⟩ := Option.ne_none_iff_exists'.mp
    (mt List.getLast?_eq_none_iff.mp cut.nonempty)
  by_cases empty : last = ""
  · subst empty
    rw [cut.ending isLast] at isEnd
    simp [Text.joined] at isEnd
  · have lastPart : (list.map String.toList).getLast? = some last.toList := by
      rw [List.getLast?_map, isLast]
      rfl
    rw [Text.getLast?_joined lastPart (by simpa using empty)] at isEnd
    have inside := cut.unslashed last (List.mem_of_getLast? isLast)
    rw [beq_eq_false_iff_ne]
    rintro rfl
    exact inside (List.mem_of_getLast? isEnd)

theorem isCutInto_parts (path : String) : IsCutInto path (parts path) where
  whole := by
    rw [map_toList_parts, Text.joined_pieces]
    exact exists_bare_append path
  unslashed := by
    intro part member
    obtain ⟨piece, isPiece, rfl⟩ := List.mem_map.mp member
    rw [String.toList_ofList]
    exact Text.not_mem_of_mem_pieces isPiece
  nonempty := by
    simpa [parts] using Text.pieces_ne_nil '/' (bare path)
  ending := by
    intro emptyLast
    obtain ⟨front, cut⟩ := List.getLast?_eq_some_iff.mp emptyLast
    by_cases single : front = []
    · rw [cut, single]
      rfl
    · -- The text before the last part and its slash would be there without this slash.
      have whole := Text.joined_pieces '/' (bare path)
      rw [← map_toList_parts, cut, List.map_append,
        Text.joined_append '/' (by simpa using single) (by simp)] at whole
      have ends : '/' ∈ (bare path).getLast? := by
        rw [← whole]
        simp [Text.joined]
      exact absurd (Text.getLast?_dropEnding _ _ '/' ends) (by decide)

theorem parts_eq_iff
    {path : String}
    {list : List String} :
    parts path = list ↔ IsCutInto path list := by
  constructor
  · rintro rfl
    exact isCutInto_parts path
  · intro cut
    have unslashed : ∀ piece ∈ list.map String.toList, '/' ∉ piece := by
      intro piece member
      obtain ⟨part, isPart, rfl⟩ := List.mem_map.mp member
      exact cut.unslashed part isPart
    rw [parts, cut.bare_eq, Text.pieces_joined (by simpa using cut.nonempty) unslashed]
    simp [Function.comp_def]

/-! ## Being within -/

section Order

variable {anchor middle candidate : String} {levels : Nat}

/-- A path lies as many levels below an anchor as it has parts more. -/
theorem levelsBelow?_eq_some_iff_parts :
    levelsBelow? anchor candidate = some levels ↔
      ∃ extra, parts candidate = parts anchor ++ extra ∧ extra.length = levels := by
  rw [levelsBelow?_eq_some_iff, ← map_toList_parts, ← map_toList_parts]
  constructor
  · rintro ⟨extra, cut, counted⟩
    obtain ⟨front, names, whole, sameFront, rfl⟩ := List.map_eq_append_iff.mp cut
    have same : front = parts anchor :=
      (List.map_inj_right fun _ _ => String.toList_inj.mp).mp sameFront
    exact ⟨names, by rw [whole, same], by rw [← counted, List.length_map]⟩
  · rintro ⟨extra, cut, counted⟩
    exact ⟨extra.map String.toList, by rw [cut, List.map_append], by rw [List.length_map, counted]⟩

theorem isWithin_iff_parts :
    isWithin anchor candidate = true ↔ parts anchor <+: parts candidate := by
  rw [← isSome_levelsBelow?, Option.isSome_iff_exists]
  simp only [levelsBelow?_eq_some_iff_parts]
  constructor
  · rintro ⟨_, extra, cut, _⟩
    exact ⟨extra, cut.symm⟩
  · rintro ⟨extra, cut⟩
    exact ⟨extra.length, extra, cut.symm, rfl⟩

theorem descent_of_isWithin
    (within : isWithin anchor candidate = true) :
    descent anchor candidate = ((parts candidate).length : Int) - (parts anchor).length := by
  obtain ⟨levels, below⟩ := exists_levelsBelow?_of_isWithin within
  obtain ⟨extra, cut, counted⟩ := levelsBelow?_eq_some_iff_parts.mp below
  rw [descent_of_levelsBelow? below, cut, List.length_append, ← counted]
  omega

theorem isWithin_self (path : String) : isWithin path path = true :=
  isWithin_iff_parts.mpr (List.prefix_refl _)

theorem isWithin_trans
    (upper : isWithin anchor middle = true)
    (lower : isWithin middle candidate = true) :
    isWithin anchor candidate = true := by
  rw [isWithin_iff_parts] at upper lower ⊢
  exact upper.trans lower

/-- Two paths lie within each other only when they differ in slashes at the end alone. -/
theorem isWithin_antisymm_iff :
    isWithin anchor candidate = true ∧ isWithin candidate anchor = true ↔
      same anchor candidate = true := by
  rw [isWithin_iff_parts, isWithin_iff_parts, same_iff_pieces_eq, ← map_toList_parts,
    ← map_toList_parts, List.map_inj_right fun _ _ => String.toList_inj.mp]
  constructor
  · rintro ⟨first, second⟩
    exact first.eq_of_length (Nat.le_antisymm first.length_le second.length_le)
  · intro equal
    rw [equal]
    exact ⟨List.prefix_refl _, List.prefix_refl _⟩

/-- Of two paths that a path lies within, one lies within the other. -/
theorem isWithin_total
    (first : isWithin anchor candidate = true)
    (second : isWithin middle candidate = true) :
    isWithin anchor middle = true ∨ isWithin middle anchor = true := by
  rw [isWithin_iff_parts] at first second
  rw [isWithin_iff_parts, isWithin_iff_parts]
  exact List.prefix_or_prefix_of_prefix first second

theorem descent_add
    (upper : isWithin anchor middle = true)
    (lower : isWithin middle candidate = true) :
    descent anchor candidate = descent anchor middle + descent middle candidate := by
  rw [descent_of_isWithin upper, descent_of_isWithin lower,
    descent_of_isWithin (isWithin_trans upper lower)]
  omega

theorem descent_eq_zero_iff :
    descent anchor candidate = 0 ↔ same anchor candidate = true := by
  rw [← levelsBelow?_eq_some_zero_iff, descent]
  cases levelsBelow? anchor candidate with
  | none => simp
  | some levels => simp

end Order

/-- Any two texts are compared as paths by their parts.  So being within is reflexive and
transitive, and antisymmetric up to slashes at the end; what one path lies within forms a
chain, along which levels add up.  No level lies between an anchor and the paths at which walks
stop when the anchor is the root of the repository. -/
theorem within_by_parts
    {Node : Type u}
    [ContentNode Node]
    (anchor middle candidate : String) :
    (∀ path list, parts path = list ↔ IsCutInto path list) ∧
    (isWithin anchor candidate = true ↔ parts anchor <+: parts candidate) ∧
    (isWithin anchor candidate = true →
      descent anchor candidate = ((parts candidate).length : Int) - (parts anchor).length) ∧
    (isWithin anchor candidate = false → descent anchor candidate = -1) ∧
    isWithin anchor anchor = true ∧
    (isWithin anchor middle = true → isWithin middle candidate = true →
      isWithin anchor candidate = true ∧
      descent anchor candidate = descent anchor middle + descent middle candidate) ∧
    (isWithin anchor candidate = true ∧ isWithin candidate anchor = true ↔
      ∃ text slashes others, anchor.toList = text ++ List.replicate slashes '/' ∧
        candidate.toList = text ++ List.replicate others '/') ∧
    (isWithin anchor candidate = true → isWithin middle candidate = true →
      isWithin anchor middle = true ∨ isWithin middle anchor = true) ∧
    ∀ (layout : Layout) (node : Node), layout.root = anchor →
      ContentNode.path node = candidate →
        (descent anchor candidate = 0 ↔ layout.isRepositoryRoot node = true) := by
  refine ⟨fun _ _ => parts_eq_iff, isWithin_iff_parts, descent_of_isWithin,
    descent_of_not_isWithin, isWithin_self anchor, fun upper lower => ?_, ?_, isWithin_total,
    ?_⟩
  · exact ⟨isWithin_trans upper lower, descent_add upper lower⟩
  · rw [isWithin_antisymm_iff, same_eq_true_iff]
  · rintro layout node rfl rfl
    rw [descent_eq_zero_iff, Layout.isRepositoryRoot, same, same, beq_iff_eq, beq_iff_eq]
    exact eq_comm

end Path
end ContentAccess
