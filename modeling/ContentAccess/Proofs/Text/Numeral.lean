import Mathlib.Data.List.TakeWhile
import ContentAccess.Text.Blank
import ContentAccess.Text.Numeral

/-!
# Digits and numbers

Numbers are read from digits with a plus sign in front or none, and the decimal digits of a
number are read as that number.  No character of these is blank, so trimming takes off the white
space around them and nothing else.
-/

namespace ContentAccess
namespace Text

/-- Digits alone are read as the number they denote. -/
theorem natural?_of_isDigits
    {digits : List Char}
    (numeral : isDigits digits = true) :
    natural? digits = some (decimalValue digits) := by
  unfold natural?
  split
  · exact absurd numeral (by simp [isDigits])
  · exact if_pos numeral

theorem isDigit_of_mem
    {digits : List Char}
    (numeral : isDigits digits = true)
    {character : Char}
    (member : character ∈ digits) :
    character.isDigit = true := by
  simp only [isDigits, Bool.and_eq_true, List.all_eq_true] at numeral
  exact numeral.2 character member

theorem isDigits_decimalDigits (value : Nat) : isDigits (decimalDigits value) = true := by
  have someDigit : decimalDigits value ≠ [] := Nat.toDigits_ne_nil
  have onlyDigits : ∀ character ∈ decimalDigits value, character.isDigit = true := by
    intro character member
    exact Nat.isDigit_of_mem_toDigits (by decide) (by decide) member
  rw [isDigits, Bool.and_eq_true, List.all_eq_true]
  exact ⟨by simp [someDigit], onlyDigits⟩

@[simp] theorem decimalValue_decimalDigits (value : Nat) :
    decimalValue (decimalDigits value) = value :=
  Nat.ofDigitChars_toDigits (by decide) (by decide)

/-- The text is digits with a plus sign in front or none, and they have this value. -/
def IsNatural (text : List Char) (value : Nat) : Prop :=
  ∃ sign digits, text = sign ++ digits ∧ (sign = [] ∨ sign = ['+']) ∧
    isDigits digits = true ∧ decimalValue digits = value

theorem digits?_eq_some_iff
    {text : List Char}
    {value : Nat} :
    digits? text = some value ↔ isDigits text = true ∧ decimalValue text = value := by
  unfold digits?
  split <;> simp_all

theorem natural?_eq_some_iff
    {text : List Char}
    {value : Nat} :
    natural? text = some value ↔ IsNatural text value := by
  constructor
  · intro read
    unfold natural? at read
    split at read
    · rename_i digits
      obtain ⟨numeral, number⟩ := digits?_eq_some_iff.mp read
      exact ⟨['+'], digits, rfl, .inr rfl, numeral, number⟩
    · obtain ⟨numeral, number⟩ := digits?_eq_some_iff.mp read
      exact ⟨[], text, rfl, .inl rfl, numeral, number⟩
  · rintro ⟨sign, digits, rfl, rfl | rfl, numeral, rfl⟩
    · exact natural?_of_isDigits numeral
    · exact if_pos numeral

/-- A number of at most 32 bits is read from the texts that have its value. -/
theorem word32?_eq_some_iff
    {text : List Char}
    {word : UInt32} :
    word32? text = some word ↔ IsNatural text word.toNat := by
  rw [word32?, ← natural?_eq_some_iff]
  cases natural? text with
  | none => simp
  | some value =>
      simp only [Option.bind_eq_bind, Option.bind_some, Option.some.injEq]
      constructor
      · intro fits
        split at fits
        · rename_i small
          rw [← Option.some.inj fits, UInt32.toNat_ofNat_of_lt' small]
        · contradiction
      · rintro rfl
        rw [if_pos word.toNat_lt_size, UInt32.ofNat_toNat]

/-! ## White space -/

theorem isBlank_eq_false_of_isDigit
    {character : Char}
    (digit : character.isDigit = true) :
    isBlank character = false := by
  simp only [Char.isDigit, Bool.and_eq_true, decide_eq_true_eq, ge_iff_le,
    UInt32.le_iff_toNat_le] at digit
  obtain ⟨low, high⟩ := digit
  change 48 ≤ character.toNat at low
  change character.toNat ≤ 57 at high
  simp only [isBlank, Bool.or_eq_false_iff, Bool.and_eq_false_iff, decide_eq_false_iff_not,
    beq_eq_false_iff_ne]
  omega

/-- The text is another one with white space around it. -/
def IsPadded (text core : List Char) : Prop :=
  ∃ before after, text = before ++ core ++ after ∧
    ∀ character ∈ before ++ after, isBlank character = true

theorem takeWhile_append_trimStart (text : List Char) :
    text.takeWhile isBlank ++ trimStart text = text :=
  List.takeWhile_append_dropWhile

/-- Trimming takes nothing but white space off. -/
theorem isPadded_trimmed (text : List Char) : IsPadded text (trimmed text) := by
  refine ⟨text.takeWhile isBlank, ((trimStart text).reverse.takeWhile isBlank).reverse, ?_, ?_⟩
  · rw [trimmed, List.append_assoc, ← List.reverse_append, takeWhile_append_trimStart,
      List.reverse_reverse, takeWhile_append_trimStart]
  · intro character member
    rcases List.mem_append.mp member with before | after
    · exact List.mem_takeWhile_imp before
    · exact List.mem_takeWhile_imp (List.mem_reverse.mp after)

/-- White space goes off the front up to the first character that is none. -/
theorem trimStart_append
    {before text : List Char}
    (blank : ∀ character ∈ before, isBlank character = true)
    (visible : ∀ first ∈ text.head?, isBlank first = false) :
    trimStart (before ++ text) = text := by
  rw [trimStart, List.dropWhile_append_of_pos blank]
  cases text with
  | nil => rfl
  | cons first rest => rw [List.dropWhile_cons_of_neg (by simp [visible first rfl])]

/-- What is padded and has no white space itself is what trimming leaves. -/
theorem IsPadded.trimmed_eq
    {text core : List Char}
    (padded : IsPadded text core)
    (nonempty : core ≠ [])
    (visible : ∀ character ∈ core, isBlank character = false) :
    trimmed text = core := by
  obtain ⟨before, after, rfl, blank⟩ := padded
  have fromFront : trimStart (before ++ (core ++ after)) = core ++ after := by
    apply trimStart_append
    · exact fun character member => blank character (List.mem_append_left _ member)
    · intro first isFirst
      rw [List.head?_append, Option.or_of_isSome (List.isSome_head?.mpr nonempty)] at isFirst
      exact visible first (List.mem_of_head? isFirst)
  rw [trimmed, List.append_assoc, fromFront, List.reverse_append, trimStart_append,
    List.reverse_reverse]
  · intro character member
    exact blank character (List.mem_append_right _ (List.mem_reverse.mp member))
  · intro last isLast
    exact visible last (List.mem_reverse.mp (List.mem_of_head? isLast))

/-- The characters of a number are digits and perhaps a plus sign. -/
theorem IsNatural.plus_or_isDigit
    {text : List Char}
    {value : Nat}
    (natural : IsNatural text value)
    {character : Char}
    (member : character ∈ text) :
    character = '+' ∨ character.isDigit = true := by
  obtain ⟨sign, digits, rfl, plus, numeral, _⟩ := natural
  rcases List.mem_append.mp member with inSign | inDigits
  · rcases plus with rfl | rfl
    · contradiction
    · exact .inl (List.mem_singleton.mp inSign)
  · exact .inr (isDigit_of_mem numeral inDigits)

theorem IsNatural.isBlank_eq_false
    {text : List Char}
    {value : Nat}
    (natural : IsNatural text value)
    {character : Char}
    (member : character ∈ text) :
    isBlank character = false := by
  rcases natural.plus_or_isDigit member with rfl | digit
  · decide
  · exact isBlank_eq_false_of_isDigit digit

theorem IsNatural.ne_nil
    {text : List Char}
    {value : Nat}
    (natural : IsNatural text value) :
    text ≠ [] := by
  obtain ⟨sign, digits, rfl, _, numeral, _⟩ := natural
  rintro empty
  rw [(List.append_eq_nil_iff.mp empty).2] at numeral
  contradiction

/-- The text is such digits with white space around them. -/
def IsPaddedNatural (text : List Char) (value : Nat) : Prop :=
  ∃ core, IsPadded text core ∧ IsNatural core value

theorem word32?_trimmed_eq_some_iff
    {text : List Char}
    {word : UInt32} :
    word32? (trimmed text) = some word ↔ IsPaddedNatural text word.toNat := by
  rw [word32?_eq_some_iff]
  constructor
  · intro natural
    exact ⟨trimmed text, isPadded_trimmed text, natural⟩
  · rintro ⟨core, padded, natural⟩
    rwa [padded.trimmed_eq natural.ne_nil fun _ => natural.isBlank_eq_false]

/-- Only texts of a number of at most 32 bits are read. -/
theorem word32?_trimmed_eq_none_iff {text : List Char} :
    word32? (trimmed text) = none ↔ ¬∃ value ≤ 4294967295, IsPaddedNatural text value := by
  rw [Option.eq_none_iff_forall_ne_some]
  simp only [ne_eq, word32?_trimmed_eq_some_iff]
  constructor
  · rintro unread ⟨value, small, padded⟩
    have exact32 : (UInt32.ofNat value).toNat = value :=
      UInt32.toNat_ofNat_of_lt' (Nat.lt_succ_of_le small)
    apply unread (UInt32.ofNat value)
    rwa [exact32]
  · intro unfit word padded
    exact unfit ⟨word.toNat, Nat.le_of_lt_succ word.toNat_lt_size, padded⟩

/-- No equals sign stands in a number or in white space. -/
theorem IsPaddedNatural.equals_not_mem
    {text : List Char}
    {value : Nat}
    (padded : IsPaddedNatural text value) :
    '=' ∉ text := by
  obtain ⟨core, ⟨before, after, rfl, blank⟩, natural⟩ := padded
  intro member
  rw [List.append_assoc, List.mem_append, List.mem_append] at member
  have outside : '=' ∉ before ++ after := fun other => absurd (blank '=' other) (by decide)
  rcases member with front | inside | back
  · exact outside (List.mem_append_left after front)
  · exact absurd (natural.plus_or_isDigit inside) (by decide)
  · exact outside (List.mem_append_right before back)

/-- The digits of a number denote it. -/
theorem isPaddedNatural_decimalDigits (value : Nat) :
    IsPaddedNatural (decimalDigits value) value :=
  ⟨decimalDigits value, ⟨[], [], by simp⟩, [], decimalDigits value, rfl, .inl rfl,
    isDigits_decimalDigits value, decimalValue_decimalDigits value⟩

end Text
end ContentAccess
