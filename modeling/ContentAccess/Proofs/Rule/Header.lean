import ContentAccess.Proofs.Rule.Dialect
import ContentAccess.Proofs.Rule.Parts
import ContentAccess.Proofs.Rule.Reader

/-!
# Version headers

A rule begins with the name of an access, and the separator after it tells the
dialect.  A header can therefore only repeat what the text after it says by
itself, and a text that has a header cannot be given another one.  The number in
the header counts, not its digits.  All this holds of every reader that first
recognizes the dialect and then looks for the access.
-/

namespace ContentAccess

/-! ## Quoted rules -/

/-- The error with this text as the rule that it quotes. -/
def AccessError.quoting (encoded : String) : AccessError → AccessError
  | malformedRule _ defect => malformedRule encoded defect
  | error => error

/-- An unknown access is quoted without the rule. -/
theorem Access.mapError_quoting_read
    (encoded word : String) :
    (read word).mapError (AccessError.quoting encoded) = read word := by
  unfold read
  split <;> rfl

/-- An unknown operand type is quoted without the rule. -/
theorem OperandType.mapError_quoting_read
    (encoded word : String) :
    (read word).mapError (AccessError.quoting encoded) = read word := by
  unfold read
  split <;> rfl

theorem readAccess_eq_mapError
    (dialect : Dialect)
    (encoded other : String)
    (body : List Char) :
    readAccess dialect encoded body =
      (readAccess dialect other body).mapError (AccessError.quoting encoded) := by
  unfold readAccess
  cases Text.splitFirst? dialect.separator body with
  | none => rfl
  | some parts =>
      simp only [mapError_bind, Access.mapError_quoting_read]
      rfl

/-! ## Recognized texts -/

namespace Dialect

/-- The text begins with a version header. -/
def Headed (text : String) : Prop :=
  ∃ digits body : String, Text.isDigits digits.toList = true ∧
    text = "v" ++ digits ++ ":" ++ body

theorem toList_header
    (digits body : String) :
    ("v" ++ digits ++ ":" ++ body).toList = 'v' :: digits.toList ++ ':' :: body.toList := by
  simp [String.toList_append]

theorem header?_eq_none_iff
    {text : String} :
    header? text.toList = none ↔ ¬Headed text := by
  rw [Option.eq_none_iff_forall_ne_some]
  constructor
  · rintro unread ⟨digits, body, numeral, rfl⟩
    apply unread (digits.toList, body.toList)
    exact header?_eq_some_iff.mpr ⟨toList_header digits body, numeral⟩
  · rintro unheaded ⟨digits, body⟩ read
    obtain ⟨joined, numeral⟩ := header?_eq_some_iff.mp read
    apply unheaded
    refine ⟨String.ofList digits, String.ofList body, by rwa [String.toList_ofList], ?_⟩
    rw [← String.toList_inj, toList_header, joined, String.toList_ofList, String.toList_ofList]

/-- A header with the number of a dialect makes the text after it the body. -/
theorem recognize_header
    {digits : String}
    {dialect : Dialect}
    (numeral : Text.isDigits digits.toList = true)
    (number : Text.decimalValue digits.toList = dialect.version)
    (body : String) :
    recognize ("v" ++ digits ++ ":" ++ body) = .ok (dialect, body.toList) := by
  apply recognize_eq_ok_iff.mpr
  refine .inl ⟨digits.toList, ?_, number⟩
  exact header?_eq_some_iff.mpr ⟨toList_header digits body, numeral⟩

/-- The header of a dialect makes the text after it the body. -/
theorem recognize_version
    (dialect : Dialect)
    (body : String) :
    recognize ("v" ++ toString dialect.version ++ ":" ++ body) = .ok (dialect, body.toList) := by
  apply recognize_header
  · cases dialect <;> decide
  · cases dialect <;> decide

/-- A header with another number is refused, whatever follows. -/
theorem recognize_unsupported
    {digits : String}
    (numeral : Text.isDigits digits.toList = true)
    (other : ∀ dialect : Dialect, Text.decimalValue digits.toList ≠ dialect.version)
    (body : String) :
    recognize ("v" ++ digits ++ ":" ++ body) = .error (.unsupportedDialect ("v" ++ digits)) := by
  have quoted : String.ofList ('v' :: digits.toList) = "v" ++ digits := by
    rw [← String.toList_inj, String.toList_ofList, String.toList_append]
    rfl
  apply recognize_eq_error_iff.mpr
  refine .inl ⟨digits.toList, body.toList, ?_, other, by rw [quoted]⟩
  exact header?_eq_some_iff.mpr ⟨toList_header digits body, numeral⟩

/-- A text that begins with the name of an access has no header. -/
theorem header?_of_access
    {word : List Char}
    {access : Access}
    (letters : Text.lowerCase word = access.name.toList)
    (rest : List Char) :
    header? (word ++ rest) = none := by
  have noV := Access.not_mem_word letters (.inr (.inr rfl))
  obtain ⟨first, others, equal⟩ := List.exists_cons_of_ne_nil (Access.word_ne_nil letters)
  rw [equal, List.mem_cons, not_or] at noV
  rw [Option.eq_none_iff_forall_ne_some]
  rintro ⟨digits, body⟩ headed
  have joined := (header?_eq_some_iff.mp headed).1
  rw [equal, List.cons_append, List.cons_append, List.cons.injEq] at joined
  exact noV.1 joined.1.symm

/-- A text that begins with the name of an access is recognized by its header, or
else by the separator after the access. -/
theorem recognize_of_access
    {dialect : Dialect}
    {version : Option (List Char)}
    {word rest : List Char}
    {access : Access}
    {encoded : String}
    (versioned : dialect.IsVersion version)
    (letters : Text.lowerCase word = access.name.toList)
    (spelled : encoded.toList = headerText version ++ (word ++ dialect.separator :: rest)) :
    recognize encoded = .ok (dialect, word ++ dialect.separator :: rest) := by
  apply recognize_eq_ok_iff.mpr
  cases version with
  | some digits =>
      obtain ⟨numeral, number⟩ := versioned digits rfl
      refine .inl ⟨digits, ?_, number⟩
      exact header?_eq_some_iff.mpr ⟨by simp [spelled, headerText], numeral⟩
  | none =>
      rw [spelled, headerText, List.nil_append]
      refine .inr ⟨header?_of_access letters _, ?_, rfl⟩
      exact infer?_append dialect (Access.not_mem_word letters (.inl rfl))
        (Access.not_mem_word letters (.inr (.inl rfl))) rest

/-- A text has one header at most, and can begin with one access only. -/
theorem opening_unique
    {dialect otherDialect : Dialect}
    {version otherVersion : Option (List Char)}
    {word rest otherWord otherRest : List Char}
    {access otherAccess : Access}
    (versioned : dialect.IsVersion version)
    (otherVersioned : otherDialect.IsVersion otherVersion)
    (letters : Text.lowerCase word = access.name.toList)
    (otherLetters : Text.lowerCase otherWord = otherAccess.name.toList)
    (equal : headerText version ++ (word ++ dialect.separator :: rest) =
      headerText otherVersion ++ (otherWord ++ otherDialect.separator :: otherRest)) :
    version = otherVersion ∧ dialect = otherDialect ∧ word = otherWord ∧ rest = otherRest := by
  have spelled : (String.ofList (headerText version ++ (word ++ dialect.separator :: rest))).toList =
      headerText version ++ (word ++ dialect.separator :: rest) := String.toList_ofList
  have recognized := recognize_of_access versioned letters spelled
  rw [recognize_of_access otherVersioned otherLetters (spelled.trans equal),
    Except.ok.injEq, Prod.mk.injEq] at recognized
  obtain ⟨rfl, bodyEqual⟩ := recognized
  have cut := Text.splitFirst?_append (Access.separator_not_mem_word letters otherDialect) rest
  rw [← bodyEqual, Text.splitFirst?_append (Access.separator_not_mem_word otherLetters _),
    Option.some.injEq, Prod.mk.injEq] at cut
  obtain ⟨rfl, rfl⟩ := cut
  have headers := List.append_cancel_right equal
  refine ⟨?_, rfl, rfl, rfl⟩
  cases version <;> cases otherVersion <;> simp_all [headerText]

/-- What an access can be read from is recognized without a header as well, and is
its own body. -/
theorem recognize_of_readAccess
    {dialect : Dialect}
    {encoded body : String}
    {access : Access}
    {rest : List Char}
    (read : readAccess dialect encoded body.toList = .ok (access, rest)) :
    ¬Headed body ∧ recognize body = .ok (dialect, body.toList) := by
  obtain ⟨word, cut, named⟩ := readAccess_eq_ok_iff.mp read
  have letters := Access.read_eq_ok_iff.mp named
  have joined := (Text.splitFirst?_eq_some_iff.mp cut).1
  constructor
  · apply header?_eq_none_iff.mp
    rw [joined]
    exact header?_of_access letters _
  · have recognized := recognize_of_access dialect.isVersion_none letters joined
    rwa [← joined] at recognized

end Dialect

/-! ## Readers of rules -/

/-- The reader recognizes the dialect of a text first, and then takes the access off
the front of the body.  Apart from what it quotes, the rest of the text is all that
it depends on. -/
structure RecognizesFirst (read : String → Except AccessError Rule) : Prop where
  unrecognized : ∀ {encoded error}, Dialect.recognize encoded = .error error →
    read encoded = .error error
  quotes : ∀ {encoded other found}, Dialect.recognize encoded = .ok found →
    Dialect.recognize other = .ok found →
      read encoded = (read other).mapError (AccessError.quoting encoded)
  access : ∀ {encoded rule}, read encoded = .ok rule →
    ∃ dialect body access rest, Dialect.recognize encoded = .ok (dialect, body) ∧
      readAccess dialect encoded body = .ok (access, rest)

namespace MetadataRule

/-- What is left to do when the comparison has been looked for: the rule is put together, unless
the comparison, the property or the operands are missing. -/
def assembled
    (encoded anchorPath : String)
    (access : Access)
    (operandType : OperandType)
    (negated : Bool) :
    Option (List Char × Comparison × List Char) → Except AccessError MetadataRule
  | none => throw (.malformedRule encoded .operator)
  | some (property, comparison, listed) => do
      if property.isEmpty then
        throw (.malformedRule encoded .propertyName)
      let values := operands listed
      if values.isEmpty then
        throw (.malformedRule encoded .values)
      return {
        access, negated, operandType, comparison, values, anchorPath
        property := String.ofList property }

theorem read_eq (encoded anchorPath : String) :
    read encoded anchorPath = (do
      let (dialect, body) ← Dialect.recognize encoded
      let (access, rest) ← readAccess dialect encoded body
      match Text.splitFirst? dialect.typeSeparator rest with
      | none => throw (.malformedRule encoded .typeSeparator)
      | some (word, condition) =>
          let operandType ← OperandType.read (String.ofList word)
          assembled encoded anchorPath access operandType (takeNegation condition).1
            (dialect.splitComparison? (takeNegation condition).2)) :=
  rfl

theorem assembled_eq_mapError
    (encoded other anchorPath : String)
    (access : Access)
    (operandType : OperandType)
    (negated : Bool)
    (found : Option (List Char × Comparison × List Char)) :
    assembled encoded anchorPath access operandType negated found =
      (assembled other anchorPath access operandType negated found).mapError
        (AccessError.quoting encoded) := by
  cases found with
  | none => rfl
  | some found =>
      by_cases unnamed : found.1.isEmpty = true
      · simp only [assembled, unnamed, if_true]
        rfl
      · by_cases unvalued : (operands found.2.2).isEmpty = true
        · simp only [assembled, unnamed, unvalued, if_true]
          rfl
        · simp only [assembled, unnamed, unvalued]
          rfl

end MetadataRule

theorem MetadataRule.recognizesFirst_read (anchorPath : String) :
    RecognizesFirst fun encoded => read encoded anchorPath where
  unrecognized failed := by
    rw [read, failed]
    rfl
  quotes := by
    rintro encoded other ⟨dialect, body⟩ recognized otherRecognized
    simp only [read_eq, mapError_bind, recognized, otherRecognized]
    change (readAccess dialect encoded body >>= _) =
      ((readAccess dialect other body).mapError (AccessError.quoting encoded) >>= _)
    rw [← readAccess_eq_mapError]
    congr 1
    funext ⟨access, rest⟩
    cases Text.splitFirst? dialect.typeSeparator rest with
    | none => rfl
    | some parts =>
        simp only [mapError_bind, OperandType.mapError_quoting_read]
        congr 1
        funext operandType
        exact assembled_eq_mapError ..
  access := by
    intro encoded rule accepted
    obtain ⟨dialect, body, word, rest, _, _, _, _, _, recognized, cut, named, _⟩ :=
      read_eq_ok_iff.mp accepted
    exact ⟨dialect, body, rule.access, rest, recognized,
      readAccess_eq_ok_iff.mpr ⟨word, cut, named⟩⟩

theorem LevelRule.recognizesFirst_read (anchorPath : String) :
    RecognizesFirst fun encoded => read encoded anchorPath where
  unrecognized failed := by
    rw [read, failed]
    rfl
  quotes := by
    rintro encoded other ⟨dialect, body⟩ recognized otherRecognized
    simp only [read, mapError_bind, recognized, otherRecognized]
    change (readAccess dialect encoded body >>= _) =
      ((readAccess dialect other body).mapError (AccessError.quoting encoded) >>= _)
    rw [← readAccess_eq_mapError]
    congr 1
    funext ⟨access, rest⟩
    cases dialect.leadingComparison? (expression dialect (takeNegation rest).2) with
    | none => rfl
    | some found =>
        obtain ⟨comparison, written⟩ := found
        simp only
        cases Text.word32? (Text.trimmed written) with
        | none => rfl
        | some level => rfl
  access := by
    intro encoded rule accepted
    obtain ⟨dialect, body, word, rest, _, _, recognized, cut, named, _⟩ :=
      read_eq_ok_iff.mp accepted
    exact ⟨dialect, body, rule.access, rest, recognized,
      readAccess_eq_ok_iff.mpr ⟨word, cut, named⟩⟩

/-! ## What a header says -/

/-- A header agrees with what is inferred without it. -/
structure RespectsHeaders (read : String → Except AccessError Rule) : Prop where
  /-- No text is read under both headers. -/
  exclusive : ∀ text first second,
    ¬(read ("v1:" ++ text) = .ok first ∧ read ("v2:" ++ text) = .ok second)
  /-- A text without a header is read as it is under one of the headers. -/
  inferred : ∀ text rule, ¬Dialect.Headed text →
    (read text = .ok rule ↔ read ("v1:" ++ text) = .ok rule ∨ read ("v2:" ++ text) = .ok rule)
  /-- Headers do not nest. -/
  unnested : ∀ text, Dialect.Headed text →
    (∃ error, read ("v1:" ++ text) = .error error) ∧
      ∃ error, read ("v2:" ++ text) = .error error
  /-- Whatever digits the number of a dialect has, the header is that of the dialect;
  only the rule that an error quotes differs. -/
  numbered : ∀ (dialect : Dialect) (digits text : String),
    Text.isDigits digits.toList = true →
    Text.decimalValue digits.toList = dialect.version →
      read ("v" ++ digits ++ ":" ++ text) =
        (read ("v" ++ toString dialect.version ++ ":" ++ text)).mapError
          (AccessError.quoting ("v" ++ digits ++ ":" ++ text))
  /-- No other number is supported, however many digits it has. -/
  unsupported : ∀ digits text : String, Text.isDigits digits.toList = true →
    (∀ dialect : Dialect, Text.decimalValue digits.toList ≠ dialect.version) →
      read ("v" ++ digits ++ ":" ++ text) = .error (.unsupportedDialect ("v" ++ digits))

namespace RecognizesFirst

variable {read : String → Except AccessError Rule} {rule : Rule} {text : String}

/-- A text that is read under a header has no header itself, and tells the dialect
of the header without it. -/
theorem recognize_of_read_version
    (reader : RecognizesFirst read)
    (dialect : Dialect)
    (accepted : read ("v" ++ toString dialect.version ++ ":" ++ text) = .ok rule) :
    ¬Dialect.Headed text ∧ Dialect.recognize text = .ok (dialect, text.toList) := by
  obtain ⟨found, body, access, rest, recognized, opened⟩ := reader.access accepted
  rw [Dialect.recognize_version, Except.ok.injEq, Prod.mk.injEq] at recognized
  obtain ⟨rfl, rfl⟩ := recognized
  exact Dialect.recognize_of_readAccess opened

/-- A text that tells the dialect is read as it is under the header of the
dialect. -/
theorem read_eq_ok_iff_version
    (reader : RecognizesFirst read)
    {dialect : Dialect}
    (recognized : Dialect.recognize text = .ok (dialect, text.toList)) :
    read text = .ok rule ↔
      read ("v" ++ toString dialect.version ++ ":" ++ text) = .ok rule := by
  rw [reader.quotes recognized (dialect.recognize_version text), mapError_eq_ok_iff]

/-- Every reader that recognizes the dialect first agrees with headers. -/
theorem respectsHeaders (reader : RecognizesFirst read) : RespectsHeaders read where
  exclusive := by
    rintro text first second ⟨legacyRead, compactRead⟩
    have legacy := (reader.recognize_of_read_version .legacy legacyRead).2
    have compact := (reader.recognize_of_read_version .compact compactRead).2
    rw [legacy] at compact
    simp at compact
  inferred := by
    intro text rule unheaded
    constructor
    · intro accepted
      obtain ⟨dialect, body, _, _, recognized, _⟩ := reader.access accepted
      rcases Dialect.recognize_eq_ok_iff.mp recognized with ⟨digits, headed, _⟩ | ⟨_, _, rfl⟩
      · rw [Dialect.header?_eq_none_iff.mpr unheaded] at headed
        simp at headed
      · have versioned := (reader.read_eq_ok_iff_version recognized).mp accepted
        cases dialect with
        | legacy => exact .inl versioned
        | compact => exact .inr versioned
    · rintro (legacyRead | compactRead)
      · have legacy := (reader.recognize_of_read_version .legacy legacyRead).2
        exact (reader.read_eq_ok_iff_version legacy).mpr legacyRead
      · have compact := (reader.recognize_of_read_version .compact compactRead).2
        exact (reader.read_eq_ok_iff_version compact).mpr compactRead
  unnested := by
    intro text headed
    have failing (dialect : Dialect) :
        ∃ error, read ("v" ++ toString dialect.version ++ ":" ++ text) = .error error := by
      cases outcome : read ("v" ++ toString dialect.version ++ ":" ++ text) with
      | error error => exact ⟨error, rfl⟩
      | ok rule => exact absurd headed (reader.recognize_of_read_version dialect outcome).1
    exact ⟨failing .legacy, failing .compact⟩
  numbered := by
    intro dialect digits text numeral number
    exact reader.quotes (Dialect.recognize_header numeral number text)
      (dialect.recognize_version text)
  unsupported := by
    intro digits text numeral other
    exact reader.unrecognized (Dialect.recognize_unsupported numeral other text)

end RecognizesFirst

/-- Reading a rule, be it a metadata rule or a level rule, agrees with version
headers. -/
theorem reading_respects_headers (anchorPath : String) :
    RespectsHeaders (fun encoded => MetadataRule.read encoded anchorPath) ∧
      RespectsHeaders (fun encoded => LevelRule.read encoded anchorPath) :=
  ⟨(MetadataRule.recognizesFirst_read anchorPath).respectsHeaders,
    (LevelRule.recognizesFirst_read anchorPath).respectsHeaders⟩

end ContentAccess
