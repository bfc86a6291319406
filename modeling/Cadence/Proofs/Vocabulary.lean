import Mathlib
import Cadence.Document.Forms

/-!
# Vocabularies and their names

Granularities, frequencies and job statuses are vocabularies: finitely many members, each
with a canonical name of small ASCII letters. A name is decoded by comparing it with each
member's under ASCII case folding, and a document holds a member by its exact name, which for a
job status is its stored token in capitals.

Case folding is stated here on the UTF-8 bytes of a text, as a byte-by-byte comparison of two
texts of the same byte length: folding a character's bytes folds the character
(`Text.utf8EncodeChar_toLower`), so folding texts character by character compares the same
texts (`Text.equalsIgnoringAsciiCase_iff_bytes`).

Main statements: `Vocabulary.nameCodec`, the laws every such codec keeps, and its instances
`Granularity.nameCodec`, `Frequency.nameCodec` and `JobStatus.nameCodec`.
-/

namespace Cadence

/-! ### ASCII case on bytes -/

namespace Text

/-- The UTF-8 bytes of a text. -/
def utf8Bytes (text : String) : List UInt8 := text.toByteArray.data.toList

theorem length_utf8Bytes (text : String) : (utf8Bytes text).length = text.utf8ByteSize := by
  rw [utf8Bytes, Array.length_toList, ← String.size_toByteArray]
  rfl

theorem utf8Bytes_eq_flatMap (text : String) :
    utf8Bytes text = text.toList.flatMap String.utf8EncodeChar := by
  rw [utf8Bytes, ← String.utf8Encode_toList, List.utf8Encode, List.toList_data_toByteArray]

theorem utf8Bytes_injective {a b : String} (same : utf8Bytes a = utf8Bytes b) : a = b := by
  apply String.toByteArray_inj.1
  apply ByteArray.ext
  exact Array.toList_inj.1 same

theorem toAsciiLower_ofNat_of_high :
    ∀ n, n < 256 → 128 ≤ n → (UInt8.ofNat n).toAsciiLower = UInt8.ofNat n := by
  decide +kernel

/-- Folding leaves every byte from 128 on, the bytes that continue or start a character past
ASCII. -/
theorem toAsciiLower_of_high {b : UInt8} (high : 128 ≤ b.toNat) : b.toAsciiLower = b := by
  have folded := toAsciiLower_ofNat_of_high b.toNat b.toNat_lt high
  rwa [UInt8.ofNat_toNat] at folded

theorem utf8EncodeChar_toLower_ascii : ∀ n, n < 128 →
    (String.utf8EncodeChar (Char.ofNat n)).map UInt8.toAsciiLower =
      String.utf8EncodeChar (Char.ofNat n).toLower := by
  decide +kernel

/-- Every byte of a character past ASCII is at least 128. -/
theorem high_of_mem_utf8EncodeChar {c : Char} (beyond : 128 ≤ c.toNat) :
    ∀ b ∈ String.utf8EncodeChar c, 128 ≤ b.toNat := by
  have notAscii : ¬ c.val.toNat ≤ 127 := by
    have : c.toNat = c.val.toNat := rfl
    omega
  intro b mem
  simp only [String.utf8EncodeChar, notAscii, if_false] at mem
  -- two, three or four bytes, each an offset from 128 or above
  split_ifs at mem
  · simp only [List.mem_cons, List.not_mem_nil, or_false] at mem
    rcases mem with rfl | rfl <;> rw [UInt8.toNat_ofNat'] <;> omega
  · simp only [List.mem_cons, List.not_mem_nil, or_false] at mem
    rcases mem with rfl | rfl | rfl <;> rw [UInt8.toNat_ofNat'] <;> omega
  · simp only [List.mem_cons, List.not_mem_nil, or_false] at mem
    rcases mem with rfl | rfl | rfl | rfl <;> rw [UInt8.toNat_ofNat'] <;> omega

/-- A map that fixes every element of a list leaves the list. -/
theorem map_eq_self_of_fixed {α : Type} {l : List α} {f : α → α}
    (fixed : ∀ x ∈ l, f x = x) : l.map f = l :=
  (List.map_congr_left fixed).trans (List.map_id' l)

theorem toLower_of_not_isUpper {c : Char} (notUpper : c.isUpper = false) : c.toLower = c := by
  unfold Char.toLower
  rw [dif_neg]
  simpa [Char.isUpper] using notUpper

/-- Folding the UTF-8 bytes of a character folds the character: only `A` to `Z` change. -/
theorem utf8EncodeChar_toLower (c : Char) :
    (String.utf8EncodeChar c).map UInt8.toAsciiLower = String.utf8EncodeChar c.toLower := by
  by_cases ascii : c.toNat < 128
  · have folded := utf8EncodeChar_toLower_ascii c.toNat ascii
    rwa [Char.ofNat_toNat] at folded
  · have notUpper : c.isUpper = false := by
      have : c.toNat = c.val.toNat := rfl
      simp only [Char.isUpper, UInt32.le_iff_toNat_le, ge_iff_le, decide_eq_false_iff_not]
      exact fun upper => ascii (by simp at upper; omega)
    rw [toLower_of_not_isUpper notUpper]
    exact map_eq_self_of_fixed fun b mem =>
      toAsciiLower_of_high (high_of_mem_utf8EncodeChar (by omega) b mem)

/-- The bytes of a folded text are its bytes, folded. -/
theorem utf8Bytes_asciiLower (text : String) :
    utf8Bytes (asciiLower text) = (utf8Bytes text).map UInt8.toAsciiLower := by
  rw [utf8Bytes_eq_flatMap, utf8Bytes_eq_flatMap, asciiLower, String.toList_map,
    List.flatMap_map, List.map_flatMap]
  simp only [utf8EncodeChar_toLower]

/-- Two texts are equal up to ASCII case exactly when their bytes are, byte by byte; the byte
counts are then equal too. -/
theorem equalsIgnoringAsciiCase_iff_bytes (a b : String) :
    equalsIgnoringAsciiCase a b = true ↔ a.utf8ByteSize = b.utf8ByteSize ∧
      (utf8Bytes a).map UInt8.toAsciiLower = (utf8Bytes b).map UInt8.toAsciiLower := by
  rw [equalsIgnoringAsciiCase, beq_iff_eq, ← utf8Bytes_asciiLower, ← utf8Bytes_asciiLower]
  constructor
  · intro same
    refine ⟨?_, congrArg utf8Bytes same⟩
    have counts := congrArg List.length (congrArg utf8Bytes same)
    rwa [utf8Bytes_asciiLower, utf8Bytes_asciiLower, List.length_map, List.length_map,
      length_utf8Bytes, length_utf8Bytes] at counts
  · rintro ⟨-, same⟩
    exact utf8Bytes_injective same

/-- A text made of small letters is its own fold. -/
theorem asciiLower_of_isLower {text : String} (small : ∀ c ∈ text.toList, c.isLower) :
    asciiLower text = text := by
  apply String.ext
  rw [asciiLower, String.toList_map]
  apply map_eq_self_of_fixed
  intro c mem
  apply toLower_of_not_isUpper
  have lower := small c mem
  simp only [Char.isLower, Char.isUpper, Bool.and_eq_true, decide_eq_true_eq,
    UInt32.le_iff_toNat_le, ge_iff_le] at lower ⊢
  simp only [decide_eq_false_iff_not, not_and, not_le]
  have : ('Z' : Char).val.toNat < ('a' : Char).val.toNat := by decide
  omega

/-- A character that folds to a small letter is an ASCII letter. -/
theorem isAlpha_of_isLower_toLower {c : Char} (folded : c.toLower.isLower) : c.isAlpha := by
  cases upper : c.isUpper with
  | true => simp [Char.isAlpha, upper]
  | false =>
    rw [toLower_of_not_isUpper upper] at folded
    simp [Char.isAlpha, folded]

end Text

/-! ### Vocabularies -/

namespace Vocabulary

variable {α : Type} (v : Vocabulary α)

/-- Every name is small ASCII letters. -/
def SmallLetters : Prop := ∀ x, ∀ c ∈ (v.name x).toList, c.isLower

/-- A search of a list finds the member that passes its test when no two members pass. -/
theorem find?_eq_some_iff_of_unique {l : List α} {test : α → Bool} {x : α} (mem : x ∈ l)
    (unique : ∀ y z, test y = true → test z = true → y = z) :
    l.find? test = some x ↔ test x = true := by
  constructor
  · exact List.find?_some
  · intro passes
    cases found : l.find? test with
    | none => exact absurd passes (List.find?_eq_none.1 found x mem)
    | some y => rw [unique y x (List.find?_some found) passes]

theorem findExact_eq_some_iff (text : String) (x : α) :
    v.findExact text = some x ↔ text = v.name x := by
  rw [findExact, find?_eq_some_iff_of_unique (v.mem_all x) fun y z named other =>
    v.name_injective ((beq_iff_eq.1 named).trans (beq_iff_eq.1 other).symm), beq_iff_eq]
  exact eq_comm

theorem lookup_table (text : String) : v.table.lookup text = v.findExact text := by
  unfold table findExact
  induction v.all with
  | nil => rfl
  | cons x rest inductionHypothesis =>
    simp only [List.map_cons, List.lookup_cons, List.find?_cons, inductionHypothesis, BEq.comm]

/-- Reading a member's name from a document gives the member. -/
theorem readVariant_text_name (x : α) :
    Document.readVariant v.table (.text (v.name x)) = .ok x := by
  simp only [Document.readVariant, Document.variantNamed, lookup_table,
    (v.findExact_eq_some_iff _ x).2 rfl]

section SmallLetters

variable {v}

/-- With names of small letters, a text names a member up to ASCII case exactly when it folds
to the member's name. -/
theorem findIgnoringCase_eq_some_iff (small : v.SmallLetters) (text : String) (x : α) :
    v.findIgnoringCase text = some x ↔ Text.asciiLower text = v.name x := by
  have folded : ∀ y, Text.equalsIgnoringAsciiCase (v.name y) text = true ↔
      v.name y = Text.asciiLower text := fun y => by
    rw [Text.equalsIgnoringAsciiCase, beq_iff_eq, Text.asciiLower_of_isLower (small y)]
  rw [findIgnoringCase, find?_eq_some_iff_of_unique (v.mem_all x)
    fun y z named other => v.name_injective (by rw [(folded y).1 named, (folded z).1 other]),
    folded, eq_comm]

/-- A text that names a member up to ASCII case is made of ASCII letters. -/
theorem isAlpha_of_findIgnoringCase (small : v.SmallLetters) {text : String} {x : α}
    (found : v.findIgnoringCase text = some x) : ∀ c ∈ text.toList, c.isAlpha := by
  intro c mem
  have name := (findIgnoringCase_eq_some_iff small text x).1 found
  apply Text.isAlpha_of_isLower_toLower
  apply small x
  rw [← name, Text.asciiLower, String.toList_map]
  exact List.mem_map_of_mem mem

end SmallLetters

end Vocabulary

/-! ### Name codecs -/

/-- The laws of a vocabulary's name codec: names decode up to ASCII case, parsing refuses
other texts with the vocabulary's noun, and members round-trip through names and documents. -/
structure NameCodec {α : Type} (name : α → String) (ofName? : String → Option α)
    (parse : String → Except UnknownToken α) (noun : String)
    (ofOptionalName? : Option String → Option α) (toDocument : α → Document)
    (ofDocument : Document → Decode α) : Prop where
  ofName?_eq_some_iff : ∀ text x, ofName? text = some x ↔
    text.utf8ByteSize = (name x).utf8ByteSize ∧
      (Text.utf8Bytes text).map UInt8.toAsciiLower =
        (Text.utf8Bytes (name x)).map UInt8.toAsciiLower
  isAlpha_of_ofName? : ∀ text x, ofName? text = some x → ∀ c ∈ text.toList, c.isAlpha
  parse_eq_ok_iff : ∀ text x, parse text = .ok x ↔ ofName? text = some x
  parse_eq_error_iff : ∀ text, parse text = .error ⟨noun, text⟩ ↔ ofName? text = none
  ofOptionalName?_none : ofOptionalName? none = none
  ofName?_name : ∀ x, ofName? (name x) = some x
  name_ofName? : ∀ text x, ofName? text = some x → name x = Text.asciiLower text
  asciiLower_name : ∀ x, Text.asciiLower (name x) = name x
  ofDocument_toDocument : ∀ x, ofDocument (toDocument x) = .ok x

/-- A vocabulary with names of small letters has a name codec; its documents hold the names of
`forms`, any naming of the same members. -/
theorem Vocabulary.nameCodec {α : Type} {v : Vocabulary α} (small : v.SmallLetters)
    (forms : Vocabulary α) (noun : String) :
    NameCodec v.name v.findIgnoringCase (v.parse noun) noun
      (fun text => text.bind v.findIgnoringCase) (fun x => .text (forms.name x))
      (Document.readVariant forms.table) where
  ofName?_eq_some_iff text x := by
    rw [findIgnoringCase_eq_some_iff small, ← Text.equalsIgnoringAsciiCase_iff_bytes,
      Text.equalsIgnoringAsciiCase, beq_iff_eq, Text.asciiLower_of_isLower (small x)]
  isAlpha_of_ofName? _ _ found := isAlpha_of_findIgnoringCase small found
  parse_eq_ok_iff text x := by
    unfold parse
    cases v.findIgnoringCase text <;> simp
  parse_eq_error_iff text := by
    unfold parse
    cases v.findIgnoringCase text <;> simp
  ofOptionalName?_none := rfl
  ofName?_name x :=
    (findIgnoringCase_eq_some_iff small _ x).2 (Text.asciiLower_of_isLower (small x))
  name_ofName? text x found := ((findIgnoringCase_eq_some_iff small text x).1 found).symm
  asciiLower_name x := Text.asciiLower_of_isLower (small x)
  ofDocument_toDocument := forms.readVariant_text_name

/-! ### The vocabularies of the library -/

namespace Granularity

theorem smallLetters : names.SmallLetters := by
  intro g
  cases g <;> simp [names, name]

theorem nameCodec : NameCodec name ofName? parse "granularity" ofOptionalName? toDocument
    ofDocument :=
  Vocabulary.nameCodec smallLetters names "granularity"

end Granularity

namespace Frequency

theorem smallLetters : names.SmallLetters := by
  intro f
  cases f <;> simp [names, name]

theorem nameCodec : NameCodec name ofName? parse "trigger" ofOptionalName? toDocument ofDocument :=
  Vocabulary.nameCodec smallLetters names "trigger"

end Frequency

namespace JobStatus

theorem smallLetters : displayNames.SmallLetters := by
  intro s
  cases s <;> simp [displayNames, displayName]

theorem nameCodec : NameCodec displayName ofName? parse "job status" ofOptionalName? toDocument
    ofDocument :=
  Vocabulary.nameCodec smallLetters storedTokens "job status"

theorem ofStoredToken?_eq_some_iff (text : String) (s : JobStatus) :
    ofStoredToken? text = some s ↔ text = s.storedToken :=
  storedTokens.findExact_eq_some_iff text s

/-- The stored token is the display name in ASCII capitals. -/
theorem storedToken_eq_asciiUpper (s : JobStatus) :
    s.storedToken = Text.asciiUpper s.displayName := by
  apply String.ext
  rw [Text.asciiUpper, String.toList_map]
  cases s <;> decide

end JobStatus

/-- Granularities, frequencies and job statuses decode their names up to ASCII case, and a status
also its stored token. -/
theorem nameCodecs_ignoreAsciiCase :
    NameCodec Granularity.name Granularity.ofName? Granularity.parse "granularity"
        Granularity.ofOptionalName? Granularity.toDocument Granularity.ofDocument ∧
      NameCodec Frequency.name Frequency.ofName? Frequency.parse "trigger"
        Frequency.ofOptionalName? Frequency.toDocument Frequency.ofDocument ∧
      NameCodec JobStatus.displayName JobStatus.ofName? JobStatus.parse "job status"
        JobStatus.ofOptionalName? JobStatus.toDocument JobStatus.ofDocument ∧
      (∀ text s, JobStatus.ofStoredToken? text = some s ↔ text = s.storedToken) ∧
      ∀ s : JobStatus, s.storedToken = Text.asciiUpper s.displayName :=
  ⟨Granularity.nameCodec, Frequency.nameCodec, JobStatus.nameCodec,
    JobStatus.ofStoredToken?_eq_some_iff, JobStatus.storedToken_eq_asciiUpper⟩

end Cadence
