import Mathlib.Data.List.Induction
import ContentAccess.Path
import ContentAccess.Proofs.Text.Split

/-!
# Segments of paths

A path leads from the root along its segments, and the path of a child leads one
segment further.  A path lies below another when it goes on where the other ends, piece by
piece, and it lies as many levels below as there are pieces more.
-/

namespace ContentAccess
namespace Path

/-- A name that a path can spell. -/
def IsSegment (name : String) : Prop :=
  name ≠ "" ∧ '/' ∉ name.toList

/-- The segments of a path are names that a path can spell. -/
theorem isSegment_of_mem_segments
    {path segment : String}
    (member : segment ∈ segments path) :
    IsSegment segment := by
  simp only [segments, List.mem_map, List.mem_filter] at member
  obtain ⟨piece, ⟨isPiece, nonempty⟩, rfl⟩ := member
  constructor
  · intro empty
    have noCharacters : piece = [] := by simpa using congrArg String.toList empty
    simp [noCharacters] at nonempty
  · rw [String.toList_ofList]
    exact Text.not_mem_of_mem_pieces isPiece

@[simp] theorem segments_root : segments "/" = [] :=
  rfl

/-- The path of a child has the name of the child as one more segment. -/
theorem segments_child
    {name : String}
    (isSegment : IsSegment name)
    (path : String) :
    segments (child path name) = segments path ++ [name] := by
  obtain ⟨nonempty, noSlash⟩ := isSegment
  have last : ((Text.pieces '/' name.toList).filter fun segment => !segment.isEmpty) =
      [name.toList] := by
    rw [Text.pieces_of_not_mem noSlash]
    simpa using nonempty
  have further (front : String) :
      segments (front ++ "/" ++ name) = segments front ++ [name] := by
    have spelled : (front ++ "/" ++ name).toList = front.toList ++ '/' :: name.toList := by
      simp [String.toList_append]
    rw [segments, spelled, Text.pieces_append_separator, List.filter_append, last,
      List.map_append, List.map_singleton, String.ofList_toList]
    rfl
  unfold child
  split
  · rename_i root
    -- The path of the root ends in the slash that stands in front of the name.
    have fromNothing := further ""
    rw [String.empty_append] at fromNothing
    rw [root]
    exact fromNothing
  · exact further path

/-- The path that leads along segments. -/
def ofSegments (segments : List String) : String :=
  segments.foldl child "/"

@[simp] theorem ofSegments_concat
    (front : List String)
    (name : String) :
    ofSegments (front ++ [name]) = child (ofSegments front) name := by
  rw [ofSegments, List.foldl_append]
  rfl

/-- A path has the segments that it leads along. -/
theorem segments_ofSegments
    {route : List String}
    (spelled : ∀ segment ∈ route, IsSegment segment) :
    segments (ofSegments route) = route := by
  induction route using List.reverseRecOn with
  | nil => rfl
  | append_singleton front name step =>
      rw [ofSegments_concat, segments_child (spelled name (by simp)),
        step fun segment member => spelled segment (List.mem_append_left _ member)]

/-- The segment with which a path goes on after its beginning. -/
def nextAfter? (front route : List String) : Option String :=
  if front <+: route then route[front.length]? else none

theorem nextAfter?_eq_some_iff
    {front route : List String}
    {segment : String} :
    nextAfter? front route = some segment ↔ front ++ [segment] <+: route := by
  unfold nextAfter?
  constructor
  · intro found
    split at found
    · rename_i begins
      obtain ⟨rest, rfl⟩ := begins
      cases rest with
      | nil => simp at found
      | cons first rest =>
          rw [List.getElem?_append_right (Nat.le_refl _)] at found
          simp at found
          subst found
          exact ⟨rest, by simp⟩
    · contradiction
  · rintro ⟨rest, rfl⟩
    rw [if_pos ⟨segment :: rest, by simp⟩, List.append_assoc,
      List.getElem?_append_right (Nat.le_refl _)]
    simp

@[simp] theorem nextAfter?_cons_nil
    (segment : String)
    (front : List String) :
    nextAfter? (segment :: front) [] = none := by
  simp [nextAfter?]

/-- A segment is met before what comes after it. -/
theorem nextAfter?_cons_cons
    (segment name : String)
    (front route : List String) :
    nextAfter? (segment :: front) (name :: route) =
      if name = segment then nextAfter? front route else none := by
  unfold nextAfter?
  by_cases same : name = segment
  · simp [same]
  · have different : ¬segment = name := fun equal => same equal.symm
    simp [same, different]

/-- A route goes on after no beginning that is as long. -/
theorem nextAfter?_self
    (route : List String) :
    nextAfter? route route = none := by
  unfold nextAfter?
  rw [if_pos (List.prefix_refl route), List.getElem?_eq_none (Nat.le_refl _)]

/-- One segment more only adds what comes after the whole route. -/
theorem nextAfter?_concat
    (front route : List String)
    (segment : String) :
    nextAfter? front (route ++ [segment]) =
      if front = route then some segment else nextAfter? front route := by
  split
  · rename_i same
    subst same
    exact nextAfter?_eq_some_iff.mpr (List.prefix_refl _)
  · rename_i different
    ext next
    rw [nextAfter?_eq_some_iff, nextAfter?_eq_some_iff, List.prefix_concat_iff]
    constructor
    · rintro (whole | begins)
      · exact absurd (List.append_inj_left' whole rfl) different
      · exact begins
    · exact .inr

/-! ## Slashes at the end -/

/-- A path is its text without slashes at the end, and then slashes. -/
theorem exists_bare_append (path : String) :
    ∃ slashes, path.toList = bare path ++ List.replicate slashes '/' := by
  obtain ⟨ending, whole, dropped⟩ := Text.exists_dropEnding_append (· == '/') path.toList
  have onlySlashes : ending = List.replicate ending.length '/' :=
    List.eq_replicate_iff.mpr ⟨rfl, fun slash member => by simpa using dropped slash member⟩
  exact ⟨ending.length, by rw [← onlySlashes]; exact whole⟩

theorem bare_of_append
    {path : String}
    {text : List Char}
    {slashes : Nat}
    (whole : path.toList = text ++ List.replicate slashes '/') :
    bare path = Text.dropEnding (· == '/') text := by
  rw [bare, whole]
  exact Text.dropEnding_append (by simp) text

/-- Paths are the same when they are one text with any number of slashes after it. -/
theorem same_eq_true_iff
    {first second : String} :
    same first second = true ↔
      ∃ text slashes others, first.toList = text ++ List.replicate slashes '/' ∧
        second.toList = text ++ List.replicate others '/' := by
  rw [same, beq_iff_eq]
  constructor
  · intro equal
    obtain ⟨slashes, firstSpelled⟩ := exists_bare_append first
    obtain ⟨others, secondSpelled⟩ := exists_bare_append second
    exact ⟨bare first, slashes, others, firstSpelled, by rw [equal, ← secondSpelled]⟩
  · rintro ⟨text, slashes, others, firstSpelled, secondSpelled⟩
    rw [bare_of_append firstSpelled, bare_of_append secondSpelled]

/-! ## Levels between paths -/

/-- What lies below an anchor goes on with a slash. -/
theorem beyond?_eq_some_iff
    {anchor candidate : String}
    {rest : List Char} :
    beyond? anchor candidate = some rest ↔
      bare candidate = bare anchor ++ rest ∧ (rest = [] ∨ rest.head? = some '/') := by
  unfold beyond?
  rw [← Text.stripStart?_eq_some_iff]
  split
  · rename_i found
    rw [found]
    grind
  · rename_i further found
    rw [found]
    grind
  · rename_i notWhole notBelow
    constructor
    · intro equal
      contradiction
    · rintro ⟨found, rfl | below⟩
      · exact absurd found notWhole
      · obtain ⟨further, rfl⟩ := List.head?_eq_some_iff.mp below
        exact absurd found (notBelow further)

/-- A path lies as many levels below an anchor as it has pieces more. -/
theorem levelsBelow?_eq_some_iff
    {anchor candidate : String}
    {levels : Nat} :
    levelsBelow? anchor candidate = some levels ↔
      ∃ extra, Text.pieces '/' (bare candidate) = Text.pieces '/' (bare anchor) ++ extra ∧
        extra.length = levels := by
  rw [levelsBelow?, Option.map_eq_some_iff]
  simp only [beyond?_eq_some_iff]
  constructor
  · rintro ⟨rest, ⟨whole, rfl | below⟩, rfl⟩
    · exact ⟨[], by rw [whole, List.append_nil, List.append_nil], rfl⟩
    · obtain ⟨further, rfl⟩ := List.head?_eq_some_iff.mp below
      refine ⟨Text.pieces '/' further, ?_, ?_⟩
      · rw [whole, Text.pieces_append_separator]
      · rw [Text.length_pieces, List.count_cons_self]
  · rintro ⟨extra, cut, rfl⟩
    have whole := Text.joined_pieces '/' (bare candidate)
    rw [cut] at whole
    by_cases none : extra = []
    · subst none
      refine ⟨[], ⟨?_, .inl rfl⟩, rfl⟩
      rw [← whole, List.append_nil, List.append_nil, Text.joined_pieces]
    · have onlyPieces : Text.pieces '/' (Text.joined '/' extra) = extra := by
        refine Text.pieces_joined none fun piece member => ?_
        have isPiece : piece ∈ Text.pieces '/' (bare candidate) := by
          rw [cut]
          exact List.mem_append_right _ member
        exact Text.not_mem_of_mem_pieces isPiece
      rw [Text.joined_append '/' (Text.pieces_ne_nil _ _) none, Text.joined_pieces] at whole
      refine ⟨'/' :: Text.joined '/' extra, ⟨whole.symm, .inr rfl⟩, ?_⟩
      rw [List.count_cons_self, ← Text.length_pieces, onlyPieces]

/-- A path lies within an anchor when its pieces begin with those of the anchor. -/
theorem isWithin_iff_prefix
    {anchor candidate : String} :
    isWithin anchor candidate = true ↔
      Text.pieces '/' (bare anchor) <+: Text.pieces '/' (bare candidate) := by
  rw [← isSome_levelsBelow?, Option.isSome_iff_exists]
  simp only [levelsBelow?_eq_some_iff]
  constructor
  · rintro ⟨_, extra, cut, _⟩
    exact ⟨extra, cut.symm⟩
  · rintro ⟨extra, cut⟩
    exact ⟨extra.length, extra, cut.symm, rfl⟩

theorem same_iff_pieces_eq
    {first second : String} :
    same first second = true ↔
      Text.pieces '/' (bare first) = Text.pieces '/' (bare second) := by
  rw [same, beq_iff_eq]
  constructor
  · intro equal
    rw [equal]
  · intro equal
    rw [← Text.joined_pieces '/' (bare first), equal, Text.joined_pieces]

/-- Only the path along no segments is that of the root. -/
theorem ofSegments_eq_slash_iff
    {route : List String}
    (spelled : ∀ segment ∈ route, IsSegment segment) :
    ofSegments route = "/" ↔ route = [] := by
  constructor
  · intro equal
    rw [← segments_ofSegments spelled, equal, segments_root]
  · rintro rfl
    rfl

/-- The path along segments has a slash in front of each of them. -/
theorem toList_ofSegments
    {route : List String}
    (spelled : ∀ segment ∈ route, IsSegment segment)
    (nonempty : route ≠ []) :
    (ofSegments route).toList = Text.joined '/' ([] :: route.map String.toList) := by
  induction route using List.reverseRecOn with
  | nil => contradiction
  | append_singleton front name step =>
      have frontSpelled (segment : String) (member : segment ∈ front) : IsSegment segment :=
        spelled segment (List.mem_append_left _ member)
      have parts : Text.joined '/' ([] :: (front ++ [name]).map String.toList) =
          Text.joined '/' ([] :: front.map String.toList) ++ '/' :: name.toList := by
        rw [List.map_append, ← List.cons_append]
        exact Text.joined_append '/' (List.cons_ne_nil _ _) (List.cons_ne_nil _ _)
      rw [parts, ofSegments_concat, child]
      simp only [ofSegments_eq_slash_iff frontSpelled]
      split
      · rename_i isRoot
        subst isRoot
        rw [String.toList_append]
        rfl
      · rename_i notRoot
        rw [String.toList_append, String.toList_append, step frontSpelled notRoot]
        simp

/-- The path of a child has no slash at the end. -/
theorem bare_child
    {name : String}
    (isSegment : IsSegment name)
    (path : String) :
    bare (child path name) = (child path name).toList := by
  obtain ⟨nonempty, noSlash⟩ := isSegment
  have characters : name.toList ≠ [] := by simpa using nonempty
  obtain ⟨last, isLast⟩ := Option.ne_none_iff_exists'.mp
    (mt List.getLast?_eq_none_iff.mp characters)
  have ends : (child path name).toList.getLast? = some last := by
    unfold child
    split <;> simp [String.toList_append, List.getLast?_cons, isLast]
  have notSlash : last ≠ '/' := by
    rintro rfl
    exact noSlash (List.mem_of_getLast? isLast)
  refine Text.dropEnding_eq_self fun other isEnd => ?_
  rw [ends, Option.mem_some_iff] at isEnd
  simpa [← isEnd] using notSlash

/-- The path along segments is cut into these segments, after an empty piece. -/
theorem pieces_bare_ofSegments
    {route : List String}
    (spelled : ∀ segment ∈ route, IsSegment segment) :
    Text.pieces '/' (bare (ofSegments route)) = [] :: route.map String.toList := by
  cases route using List.reverseRecOn with
  | nil => rfl
  | append_singleton front name _ =>
      have noSlashes (piece : List Char)
          (member : piece ∈ [] :: (front ++ [name]).map String.toList) : '/' ∉ piece := by
        rcases List.mem_cons.mp member with rfl | isSegment
        · exact List.not_mem_nil
        · obtain ⟨segment, isOwn, rfl⟩ := List.mem_map.mp isSegment
          exact (spelled segment isOwn).2
      have whole := toList_ofSegments spelled (by simp)
      rw [ofSegments_concat] at whole ⊢
      rw [bare_child (spelled name (by simp)), whole]
      exact Text.pieces_joined (List.cons_ne_nil _ _) noSlashes

/-- A path along segments lies as many levels below another as it leads further along the
same way. -/
theorem levelsBelow?_ofSegments
    {route further : List String}
    (routeSpelled : ∀ segment ∈ route, IsSegment segment)
    (furtherSpelled : ∀ segment ∈ further, IsSegment segment)
    {levels : Nat} :
    levelsBelow? (ofSegments route) (ofSegments further) = some levels ↔
      ∃ names, further = route ++ names ∧ names.length = levels := by
  rw [levelsBelow?_eq_some_iff, pieces_bare_ofSegments routeSpelled,
    pieces_bare_ofSegments furtherSpelled]
  simp only [List.cons_append, List.cons.injEq, true_and, List.map_eq_append_iff]
  constructor
  · rintro ⟨_, ⟨front, names, rfl, sameFront, rfl⟩, rfl⟩
    have same : front = route :=
      (List.map_inj_right fun _ _ => String.toList_inj.mp).mp sameFront
    exact ⟨names, by rw [same], (List.length_map _).symm⟩
  · rintro ⟨names, rfl, rfl⟩
    exact ⟨_, ⟨route, names, rfl, rfl, rfl⟩, List.length_map _⟩

end Path
end ContentAccess
