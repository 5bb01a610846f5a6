import ContentAccess.Text.Split

/-!
# Splitting and putting together

Every way of cutting a text is characterised by the text that its parts put
together again, and by what the parts must not contain.  The parts are unique:
each function returns them exactly when they satisfy that description.
-/

namespace ContentAccess
namespace Text

/-! ## The first separator -/

/-- Cutting at the first separator gives the only two parts around a separator
of which the former contains none. -/
theorem splitFirst?_eq_some_iff
    {separator : Char}
    {text before after : List Char} :
    splitFirst? separator text = some (before, after) ↔
      text = before ++ separator :: after ∧ separator ∉ before := by
  induction text generalizing before with
  | nil => simp
  | cons character rest step =>
      by_cases equal : character = separator
      · subst equal
        rw [splitFirst?_separator]
        cases before with
        | nil => simp
        | cons first before =>
            simp only [Option.some.injEq, Prod.mk.injEq, List.nil_eq, reduceCtorEq,
              false_and, List.cons_append, List.cons.injEq, List.mem_cons, not_or,
              false_iff, not_and]
            rintro ⟨same, _⟩ different
            exact absurd same different
      · rw [splitFirst?, if_neg equal]
        cases before with
        | nil => simp [equal]
        | cons first before =>
            have different : separator ≠ character := fun same => equal same.symm
            simp only [Option.map_eq_some_iff, Prod.mk.injEq, List.cons.injEq,
              Prod.exists, List.cons_append, List.mem_cons, not_or]
            constructor
            · rintro ⟨part, remainder, found, ⟨rfl, rfl⟩, rfl⟩
              obtain ⟨joined, absent⟩ := step.mp found
              exact ⟨⟨rfl, joined⟩, different, absent⟩
            · rintro ⟨⟨rfl, joined⟩, _, absent⟩
              exact ⟨before, after, step.mpr ⟨joined, absent⟩, ⟨rfl, rfl⟩, rfl⟩

/-- A text without the separator cannot be cut. -/
theorem splitFirst?_eq_none_iff
    {separator : Char}
    {text : List Char} :
    splitFirst? separator text = none ↔ separator ∉ text := by
  induction text with
  | nil => simp
  | cons character rest step =>
      by_cases equal : character = separator
      · simp [equal]
      · have different : separator ≠ character := fun same => equal same.symm
        simp [splitFirst?, equal, different, step]

/-- The part before the separator can be taken off again. -/
theorem splitFirst?_append
    {separator : Char}
    {before : List Char}
    (absent : separator ∉ before)
    (after : List Char) :
    splitFirst? separator (before ++ separator :: after) = some (before, after) :=
  splitFirst?_eq_some_iff.mpr ⟨rfl, absent⟩

/-! ## A known beginning -/

/-- A beginning can be removed exactly when the text starts with it. -/
theorem stripStart?_eq_some_iff
    {beginning text rest : List Char} :
    stripStart? beginning text = some rest ↔ text = beginning ++ rest := by
  induction beginning generalizing text with
  | nil => simp
  | cons expected beginning step =>
      cases text with
      | nil => simp [stripStart?]
      | cons character text =>
          by_cases equal : expected = character
          · simp [stripStart?, equal, step]
          · have different : character ≠ expected := fun same => equal same.symm
            simp [stripStart?, equal, different]

/-- Nothing can be removed exactly when the text does not start with it. -/
theorem stripStart?_eq_none_iff
    {beginning text : List Char} :
    stripStart? beginning text = none ↔ ¬beginning <+: text := by
  rw [Option.eq_none_iff_forall_ne_some]
  simp only [ne_eq, stripStart?_eq_some_iff, List.prefix_iff_exists_eq_append, not_exists]

/-! ## Endings -/

/-- An element is dropped exactly when it is unwanted and nothing after it is
kept. -/
theorem dropEnding_cons
    (unwanted : α → Bool)
    (element : α)
    (rest : List α) :
    dropEnding unwanted (element :: rest) =
      if dropEnding unwanted rest = [] ∧ unwanted element = true then []
      else element :: dropEnding unwanted rest := by
  rw [dropEnding]
  cases dropEnding unwanted rest with
  | nil => cases unwanted element <;> simp
  | cons next others => simp

/-- Only unwanted elements are dropped. -/
theorem exists_dropEnding_append
    (unwanted : α → Bool)
    (list : List α) :
    ∃ ending, list = dropEnding unwanted list ++ ending ∧
      ∀ element ∈ ending, unwanted element = true := by
  induction list with
  | nil => exact ⟨[], rfl, by simp⟩
  | cons element rest step =>
      obtain ⟨ending, joined, dropped⟩ := step
      rw [dropEnding_cons]
      split
      · rename_i all
        rw [all.1, List.nil_append] at joined
        refine ⟨element :: ending, by rw [joined, List.nil_append], ?_⟩
        intro other member
        rcases List.mem_cons.mp member with equal | member
        · exact equal ▸ all.2
        · exact dropped other member
      · exact ⟨ending, by rw [List.cons_append, ← joined], dropped⟩

/-- What is kept does not end in an unwanted element. -/
theorem getLast?_dropEnding
    (unwanted : α → Bool)
    (list : List α) :
    ∀ last ∈ (dropEnding unwanted list).getLast?, unwanted last = false := by
  induction list with
  | nil => simp [dropEnding]
  | cons element rest step =>
      rw [dropEnding_cons]
      split
      · simp
      · rename_i wanted
        cases kept : dropEnding unwanted rest with
        | nil =>
            simp only [kept, true_and, Bool.not_eq_true] at wanted
            simpa using wanted
        | cons next others =>
            rw [kept] at step
            simpa [List.getLast?_cons_cons] using step

/-- An ending of unwanted elements makes no difference. -/
theorem dropEnding_append
    {unwanted : α → Bool}
    {ending : List α}
    (dropped : ∀ element ∈ ending, unwanted element = true)
    (list : List α) :
    dropEnding unwanted (list ++ ending) = dropEnding unwanted list := by
  induction list with
  | nil =>
      induction ending with
      | nil => rfl
      | cons element rest step =>
          have restDropped := step fun other member =>
            dropped other (List.mem_cons_of_mem _ member)
          rw [List.nil_append] at restDropped ⊢
          rw [dropEnding_cons, restDropped]
          simp [dropEnding, dropped element]
  | cons element rest step => rw [List.cons_append, dropEnding_cons, dropEnding_cons, step]

/-- A list that does not end in an unwanted element stays as it is. -/
theorem dropEnding_eq_self
    {unwanted : α → Bool}
    {list : List α}
    (wanted : ∀ last ∈ list.getLast?, unwanted last = false) :
    dropEnding unwanted list = list := by
  obtain ⟨ending, joined, dropped⟩ := exists_dropEnding_append unwanted list
  cases reversed : ending.getLast? with
  | none =>
      rw [List.getLast?_eq_none_iff.mp reversed, List.append_nil] at joined
      exact joined.symm
  | some last =>
      have keptLast : unwanted last = false := by
        apply wanted
        rw [joined, List.getLast?_append, reversed]
        rfl
      rw [dropped last (List.mem_of_getLast? reversed)] at keptLast
      contradiction

/-! ## Pieces -/

/-- A character that is no separator goes to the front of the first piece. -/
theorem exists_pieces_cons
    {separator character : Char}
    (different : character ≠ separator)
    (rest : List Char) :
    ∃ piece others, pieces separator rest = piece :: others ∧
      pieces separator (character :: rest) = (character :: piece) :: others := by
  cases equal : pieces separator rest with
  | nil => exact absurd equal (pieces_ne_nil separator rest)
  | cons piece others => exact ⟨piece, others, rfl, by simp [pieces, different, equal]⟩

/-- Everything about pieces follows from this equation at a separator and from
the one for texts without a separator. -/
theorem pieces_append_separator
    (separator : Char)
    (before after : List Char) :
    pieces separator (before ++ separator :: after) =
      pieces separator before ++ pieces separator after := by
  induction before with
  | nil => simp
  | cons character rest step =>
      by_cases equal : character = separator
      · subst equal
        simp [step]
      · obtain ⟨piece, others, restPieces, longer⟩ := exists_pieces_cons equal rest
        obtain ⟨piece', others', restPieces', longer'⟩ :=
          exists_pieces_cons equal (rest ++ separator :: after)
        rw [step, restPieces, List.cons_append, List.cons.injEq] at restPieces'
        obtain ⟨rfl, rfl⟩ := restPieces'
        rw [List.cons_append, longer', longer, List.cons_append]

/-- A text without a separator is its only piece. -/
theorem pieces_of_not_mem
    {separator : Char}
    {text : List Char}
    (absent : separator ∉ text) :
    pieces separator text = [text] := by
  induction text with
  | nil => rfl
  | cons character rest step =>
      rw [List.mem_cons, not_or] at absent
      have different : character ≠ separator := fun same => absent.1 same.symm
      simp [pieces, different, step absent.2]

/-- No piece contains a separator. -/
theorem not_mem_of_mem_pieces
    {separator : Char}
    {text piece : List Char}
    (member : piece ∈ pieces separator text) :
    separator ∉ piece := by
  induction text generalizing piece with
  | nil => simp_all
  | cons character rest step =>
      by_cases equal : character = separator
      · subst equal
        rw [pieces_separator] at member
        rcases List.mem_cons.mp member with rfl | member
        · simp
        · exact step member
      · obtain ⟨first, others, restPieces, longer⟩ := exists_pieces_cons equal rest
        rw [restPieces] at step
        rw [longer] at member
        rcases List.mem_cons.mp member with rfl | member
        · rw [List.mem_cons, not_or]
          exact ⟨fun same => equal same.symm, step List.mem_cons_self⟩
        · exact step (List.mem_cons_of_mem _ member)

/-- There is one piece more than there are separators. -/
theorem length_pieces
    (separator : Char)
    (text : List Char) :
    (pieces separator text).length = text.count separator + 1 := by
  induction text with
  | nil => rfl
  | cons character rest step =>
      by_cases equal : character = separator
      · subst equal
        rw [pieces_separator, List.length_cons, step, List.count_cons_self]
      · obtain ⟨piece, others, restPieces, longer⟩ := exists_pieces_cons equal rest
        rw [restPieces] at step
        rw [longer, List.count_cons_of_ne equal, ← step]
        rfl

/-- All pieces but the first stand after a separator. -/
theorem joined_cons
    (separator : Char)
    (piece : List Char)
    (others : List (List Char)) :
    joined separator (piece :: others) =
      piece ++ others.flatMap fun other => separator :: other := by
  induction others generalizing piece with
  | nil => simp [joined]
  | cons next others step => rw [joined, step]; simp

/-- Parts are put together in two steps with a separator between. -/
theorem joined_append
    (separator : Char)
    {front back : List (List Char)}
    (frontNonempty : front ≠ [])
    (backNonempty : back ≠ []) :
    joined separator (front ++ back) =
      joined separator front ++ separator :: joined separator back := by
  cases front with
  | nil => contradiction
  | cons first front =>
      cases back with
      | nil => contradiction
      | cons second back =>
          simp only [List.cons_append, joined_cons, List.flatMap_append, List.flatMap_cons,
            List.append_assoc, List.cons_append]

/-- What is put together ends as its last part does. -/
theorem getLast?_joined
    {separator : Char}
    {parts : List (List Char)}
    {last : List Char}
    (isLast : parts.getLast? = some last)
    (nonempty : last ≠ []) :
    (joined separator parts).getLast? = last.getLast? := by
  obtain ⟨front, rfl⟩ := List.getLast?_eq_some_iff.mp isLast
  by_cases single : front = []
  · rw [single]
    rfl
  · rw [joined_append separator single (List.cons_ne_nil last []), joined, List.getLast?_append,
      List.getLast?_cons_of_ne_nil nonempty, Option.or_of_isSome]
    rwa [List.getLast?_isSome]

/-- The pieces of a text put together give the text. -/
theorem joined_pieces
    (separator : Char)
    (text : List Char) :
    joined separator (pieces separator text) = text := by
  induction text with
  | nil => rfl
  | cons character rest step =>
      by_cases equal : character = separator
      · subst equal
        rw [pieces_separator]
        cases restPieces : pieces character rest with
        | nil => exact absurd restPieces (pieces_ne_nil character rest)
        | cons piece others =>
            rw [restPieces] at step
            rw [joined, step, List.nil_append]
      · obtain ⟨piece, others, restPieces, longer⟩ := exists_pieces_cons equal rest
        rw [restPieces, joined_cons] at step
        rw [longer, joined_cons, List.cons_append, step]

/-- Parts without a separator are the pieces of what they are put together to. -/
theorem pieces_joined
    {separator : Char}
    {parts : List (List Char)}
    (nonempty : parts ≠ [])
    (absent : ∀ part ∈ parts, separator ∉ part) :
    pieces separator (joined separator parts) = parts := by
  induction parts with
  | nil => contradiction
  | cons part others step =>
      have partAbsent := absent part List.mem_cons_self
      cases others with
      | nil => rw [joined, pieces_of_not_mem partAbsent]
      | cons next others =>
          have othersAbsent := step (List.cons_ne_nil _ _) fun other member =>
            absent other (List.mem_cons_of_mem _ member)
          rw [joined, pieces_append_separator, othersAbsent, pieces_of_not_mem partAbsent]
          rfl

/-- Separators at the end of a text make empty pieces. -/
theorem pieces_append_replicate
    (separator : Char)
    (text : List Char)
    (count : Nat) :
    pieces separator (text ++ List.replicate count separator) =
      pieces separator text ++ List.replicate count [] := by
  induction count generalizing text with
  | zero => simp
  | succ count step =>
      have following := step []
      rw [List.nil_append] at following
      rw [List.replicate_succ, pieces_append_separator, following]
      rfl

/-- Empty pieces at the end put separators at the end. -/
theorem joined_append_replicate
    (separator : Char)
    {parts : List (List Char)}
    (nonempty : parts ≠ [])
    (count : Nat) :
    joined separator (parts ++ List.replicate count []) =
      joined separator parts ++ List.replicate count separator := by
  cases parts with
  | nil => contradiction
  | cons part others =>
      rw [List.cons_append, joined_cons, joined_cons, List.flatMap_append, List.append_assoc]
      congr 2
      induction count with
      | zero => rfl
      | succ count step => rw [List.replicate_succ, List.flatMap_cons, step]; rfl

/-- What is put together begins with the beginning of the first piece, or with a
separator. -/
theorem head?_joined
    {separator character : Char}
    (different : character ≠ separator)
    (parts : List (List Char)) :
    (joined separator parts).head? = some character ↔
      ∃ part ∈ parts.head?, part.head? = some character := by
  cases parts with
  | nil => simp [joined]
  | cons part others =>
      rw [joined_cons]
      cases part with
      | cons first part => simp
      | nil =>
          cases others with
          | nil => simp
          | cons next others => simpa using fun same => different same.symm

/-- Pieces that are all empty are what separators alone are cut into. -/
theorem joined_replicate_succ
    (separator : Char)
    (count : Nat) :
    joined separator (List.replicate (count + 1) []) = List.replicate count separator := by
  have padded := joined_append_replicate separator (List.cons_ne_nil [] []) count
  simpa [joined, List.replicate_succ] using padded

/-- The pieces up to the last one that is not empty are the only parts without a
separator that, together with some separators at the end, are the text. -/
theorem dropEnding_pieces_eq_iff
    {separator : Char}
    {text : List Char}
    {kept : List (List Char)} :
    dropEnding List.isEmpty (pieces separator text) = kept ↔
      (∃ count, text = joined separator kept ++ List.replicate count separator) ∧
        (∀ piece ∈ kept, separator ∉ piece) ∧ kept.getLast? ≠ some [] := by
  constructor
  · rintro rfl
    obtain ⟨ending, cut, dropped⟩ :=
      exists_dropEnding_append List.isEmpty (pieces separator text)
    have last := getLast?_dropEnding List.isEmpty (pieces separator text)
    have endingEmpty : ending = List.replicate ending.length [] := by
      apply List.eq_replicate_iff.mpr
      exact ⟨rfl, fun piece member => List.isEmpty_iff.mp (dropped piece member)⟩
    generalize dropEnding List.isEmpty (pieces separator text) = kept at cut last
    refine ⟨?_, ?_, ?_⟩
    · have whole := joined_pieces separator text
      rw [cut, endingEmpty] at whole
      cases kept with
      | nil =>
          cases length : ending.length with
          | zero =>
              rw [List.length_eq_zero_iff.mp length] at cut
              exact absurd cut (pieces_ne_nil separator text)
          | succ count =>
              rw [length, List.nil_append, joined_replicate_succ] at whole
              exact ⟨count, by rw [← whole]; rfl⟩
      | cons piece others =>
          rw [joined_append_replicate separator (List.cons_ne_nil _ _)] at whole
          exact ⟨ending.length, whole.symm⟩
    · intro piece member
      have isPiece : piece ∈ pieces separator text := by
        rw [cut]
        exact List.mem_append_left ending member
      exact not_mem_of_mem_pieces isPiece
    · intro equal
      exact absurd (last [] equal) (by decide)
  · rintro ⟨⟨count, rfl⟩, absent, last⟩
    rw [pieces_append_replicate, dropEnding_append (by simp)]
    by_cases nonempty : kept = []
    · subst nonempty
      rfl
    · rw [pieces_joined nonempty absent]
      apply dropEnding_eq_self
      intro piece equal
      rw [Bool.eq_false_iff, ne_eq, List.isEmpty_iff]
      rintro rfl
      exact last equal

end Text
end ContentAccess
