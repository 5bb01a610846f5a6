import ContentAccess.Proofs.Rule.RoundTrip

/-!
# Writing accepted rules again

Whatever text a rule was read from, the rule can be written in the dialect of
that text and is read again as itself, so this text is a normal form of the one
that was read.  In the other dialect the rule is read again only if its property
and its values do not look like a part of an operator there.
-/

namespace ContentAccess

/-! ## What parts can mean -/

namespace WrittenRule

variable {written : WrittenRule} {anchorPath : String} {rule : MetadataRule}

/-- The parts of a rule mean a legible rule. -/
theorem WellFormed.legible
    (wellFormed : written.WellFormed)
    (denotes : written.Denotes anchorPath rule) :
    rule.Legible where
  property_ne_empty := by
    intro empty
    apply wellFormed.property_ne_nil
    rw [← denotes.property, empty]
    rfl
  unmarked := by
    rw [denotes.negated, denotes.property]
    exact wellFormed.unmarked
  values_ne_nil := by
    rw [← operands_eq_iff.mpr denotes.values]
    exact operands_ne_nil_iff.mpr wellFormed.listed
  no_comma := denotes.values.2.1
  last_ne_empty := denotes.values.2.2

/-- Legacy parts mean a rule that is legible in the legacy dialect. -/
theorem WellFormed.legacyLegible
    (wellFormed : written.WellFormed)
    (denotes : written.Denotes anchorPath rule)
    (legacy : written.dialect = .legacy) :
    rule.LegacyLegible where
  toLegible := wellFormed.legible denotes
  no_operator := by
    have spells := denotes.comparison
    rw [legacy] at spells
    have token : written.token = (Dialect.legacy.token rule.comparison).toList := by
      simpa using Dialect.eq_token_of_mem_spellings spells
    have earliest := wellFormed.earliest
    rw [expression, token, legacy, ← denotes.property] at earliest
    intro place inside spelled
    apply earliest place inside
    exact (Dialect.spelledAt_legacy_append_iff inside rule.comparison written.listed).mpr spelled

/-- Compact parts mean a rule that is legible in the compact dialect. -/
theorem WellFormed.compactLegible
    (wellFormed : written.WellFormed)
    (denotes : written.Denotes anchorPath rule)
    (compact : written.dialect = .compact) :
    rule.CompactLegible where
  toLegible := wellFormed.legible denotes
  no_operator := by
    have earliest := wellFormed.earliest
    rw [expression, List.append_assoc, compact, ← denotes.property] at earliest
    exact (Dialect.forall_not_spelledAt_compact_iff _ _).mp earliest
  no_equals := by
    intro ordered first isFirst opens
    have token : written.token = (Dialect.compact.token rule.comparison).toList := by
      have spells := denotes.comparison
      rw [compact] at spells
      rcases Dialect.eq_token_of_mem_spellings spells with token | ⟨_, equal⟩
      · exact token
      · rw [equal] at ordered
        simp at ordered
    have longest := wellFormed.longest
    rw [token, compact, Dialect.isLongest_compact_iff] at longest
    apply longest ordered
    -- The first value stands right after the token.
    obtain ⟨⟨count, joined⟩, _⟩ := denotes.values
    have opensJoined :
        (Text.joined ',' (rule.values.map String.toList)).head? = some '=' := by
      rw [Text.head?_joined (by decide), List.head?_map]
      exact ⟨first.toList, Option.mem_map_of_mem _ isFirst, opens⟩
    rw [joined, List.head?_append, opensJoined]
    rfl

end WrittenRule

/-! ## The same dialect and the other one -/

namespace MetadataRule

/-- A rule is written without a header, and its first separator tells the dialect. -/
theorem recognize_write
    (rule : MetadataRule)
    (dialect : Dialect) :
    Dialect.recognize (rule.write dialect) = .ok (dialect, rule.characters dialect) := by
  have spelled : (rule.written dialect none).characters = (rule.write dialect).toList := by
    rw [characters_written, toList_write]
  have body : (rule.written dialect none).body = rule.characters dialect := by
    have whole : Dialect.headerText none ++ (rule.written dialect none).body =
        Dialect.headerText none ++ rule.characters dialect := characters_written
    exact List.append_cancel_left whole
  rw [← body]
  exact (worded_written dialect.isVersion_none).recognize spelled

/-- A rule that is read from a text of a dialect is read again when it is written in
that dialect, and the new text is of that dialect too.  A rule from a legacy text
survives being shown exactly when no operator character stands in its property and
none is made longer by its first value.  A rule from a compact text survives being
written in the legacy dialect exactly when no word operator begins in its property. -/
theorem rewrites_read_rule
    {encoded anchorPath : String}
    {rule : MetadataRule}
    (accepted : read encoded anchorPath = .ok rule) :
    ∃ dialect body, Dialect.recognize encoded = .ok (dialect, body) ∧
      read (rule.write dialect) anchorPath = .ok rule ∧
      Dialect.recognize (rule.write dialect) = .ok (dialect, rule.characters dialect) ∧
      (dialect = .legacy →
        (read (toString rule) anchorPath = .ok rule ↔
          ('=' ∉ rule.property.toList ∧ '<' ∉ rule.property.toList ∧
            '>' ∉ rule.property.toList) ∧
          ¬((rule.comparison = .greater ∨ rule.comparison = .less) ∧
            ∃ first ∈ rule.values.head?, first.toList.head? = some '='))) ∧
      (dialect = .compact →
        (read (rule.write .legacy) anchorPath = .ok rule ↔
          ∀ place < rule.property.toList.length,
            ¬Dialect.legacy.SpelledAt
              (rule.property.toList ++ (Dialect.legacy.token rule.comparison).toList) place)) := by
  obtain ⟨parts, wellFormed, spelled, denotes⟩ := read_eq_ok_iff_exists_written.mp accepted
  have legible := wellFormed.legible denotes
  have intoCompact : read (rule.write .compact) anchorPath = .ok rule ↔ rule.CompactLegible := by
    rw [← denotes.anchorPath]
    exact read_compact_eq_ok_iff (Dialect.isVersion_none _) toList_write
  have intoLegacy : read (rule.write .legacy) anchorPath = .ok rule ↔ rule.LegacyLegible := by
    rw [← denotes.anchorPath]
    exact read_legacy_eq_ok_iff (Dialect.isVersion_none _) toList_write
  refine ⟨parts.dialect, parts.body, wellFormed.recognize spelled, ?again, ?recognized, ?shown,
    ?legacy⟩
  case again =>
    cases dialect : parts.dialect with
    | legacy => exact intoLegacy.mpr (wellFormed.legacyLegible denotes dialect)
    | compact => exact intoCompact.mpr (wellFormed.compactLegible denotes dialect)
  case recognized => exact recognize_write rule parts.dialect
  case shown =>
    intro _
    change read (rule.write .compact) anchorPath = .ok rule ↔ _
    rw [intoCompact, compactLegible_iff, and_iff_right legible]
    apply and_congr_right
    intro _
    simp only [not_and, not_exists, ne_eq]
  case legacy =>
    intro _
    rw [intoLegacy, legacyLegible_iff, and_iff_right legible]

/-- A legacy rule over a property `a=b` that is larger than `=x` is kept by its own
dialect, and is lost when it is shown. -/
theorem rewrites_read_rule_with_equals_signs :
    ∃ rule, read "v01:Deny_STRING_!a=b_GREATER_THEN_=x,y,," "/content" = .ok rule ∧
      read (rule.write .legacy) "/content" = .ok rule ∧
      read (toString rule) "/content" ≠ .ok rule := by
  have accepted : read "v01:Deny_STRING_!a=b_GREATER_THEN_=x,y,," "/content" =
      .ok ⟨.deny, true, .text, .greater, "a=b", ["=x", "y"], "/content"⟩ := by
    rfl
  obtain ⟨dialect, body, recognized, again, _, shown, _⟩ := rewrites_read_rule accepted
  have legacy : dialect = .legacy := by
    have known : Dialect.recognize "v01:Deny_STRING_!a=b_GREATER_THEN_=x,y,," =
        .ok (.legacy, "Deny_STRING_!a=b_GREATER_THEN_=x,y,,".toList) := by
      rfl
    rw [known] at recognized
    exact (Prod.mk.inj (Except.ok.inj recognized)).1.symm
  rw [legacy] at again
  refine ⟨_, accepted, again, ?_⟩
  rw [ne_eq, shown legacy]
  decide

end MetadataRule
end ContentAccess
