import Omairc.Irc.Parser

/-!
# Tag escaping and tag sections

Escaping is inverted by unescaping, keeps separators and line ends out of a tag
value, and never makes the unescaped form of a value that was read longer than
what was read. `parseTags_serialize` and `serializeTags_parse` lift this to whole
tag sections.
-/

namespace Omairc.Irc

open Omairc.Text

/-- Unescaping copies a byte that is not a backslash. -/
theorem unescapeTagValue_cons {byte : UInt8} (plain : byte ≠ 92) (rest : Bytes) :
    unescapeTagValue (byte :: rest) = byte :: unescapeTagValue rest := by
  cases rest with
  | nil => simp [unescapeTagValue, plain]
  | cons next rest => simp [unescapeTagValue, plain]

/-- Unescaping reads one escaped byte back. -/
theorem unescapeTagValue_escapedByte (byte : UInt8) (rest : Bytes) :
    unescapeTagValue (escapedByte byte ++ rest) = byte :: unescapeTagValue rest := by
  unfold escapedByte
  split
  case isTrue semicolon => simp [unescapeTagValue, unescapedByte, semicolon]
  case isFalse =>
    split
    case isTrue space => simp [unescapeTagValue, unescapedByte, space]
    case isFalse =>
      split
      case isTrue backslash => simp [unescapeTagValue, unescapedByte, backslash]
      case isFalse plain =>
        split
        case isTrue return_ => simp [unescapeTagValue, unescapedByte, return_]
        case isFalse =>
          split
          case isTrue feed => simp [unescapeTagValue, unescapedByte, feed]
          case isFalse => exact unescapeTagValue_cons plain rest

/-- Unescaping inverts escaping. -/
theorem unescapeTagValue_escape (value : Bytes) :
    unescapeTagValue (escapeTagValue value) = value := by
  induction value with
  | nil => rfl
  | cons byte rest ih =>
      rw [escapeTagValue, List.flatMap_cons, unescapeTagValue_escapedByte]
      exact congrArg (byte :: ·) ih

/-- An escaped byte holds no separator, no line end, and NUL only for NUL. -/
theorem escapedByte_clean {byte escaped : UInt8} (written : escaped ∈ escapedByte byte) :
    escaped ≠ 59 ∧ escaped ≠ 32 ∧ escaped ≠ 13 ∧ escaped ≠ 10 ∧ (escaped = 0 → byte = 0) := by
  unfold escapedByte at written
  repeat' split at written
  all_goals simp at written
  all_goals first
    | (subst written
       exact ⟨‹_›, ‹_›, ‹_›, ‹_›, id⟩)
    | (rcases written with rfl | rfl <;> simp)

/-- An escaped value holds no separator, no line end, and NUL only for NUL. -/
theorem escapeTagValue_clean {value : Bytes} {escaped : UInt8}
    (written : escaped ∈ escapeTagValue value) :
    escaped ≠ 59 ∧ escaped ≠ 32 ∧ escaped ≠ 13 ∧ escaped ≠ 10 ∧ (escaped = 0 → 0 ∈ value) := by
  obtain ⟨byte, present, inside⟩ := List.mem_flatMap.mp written
  obtain ⟨noSemicolon, noSpace, noReturn, noFeed, nul⟩ := escapedByte_clean inside
  refine ⟨noSemicolon, noSpace, noReturn, noFeed, fun isNul => ?_⟩
  rw [← nul isNul]
  exact present

/-- The bytes a value read from a tag section can hold. -/
def isTagValueByte (byte : UInt8) : Bool :=
  !(byte == 59 || byte == 32 || isForbidden byte)

/-- Escaping a byte that needs no escape leaves it. -/
theorem escapedByte_plain {byte : UInt8} (readable : isTagValueByte byte = true)
    (plain : byte ≠ 92) : escapedByte byte = [byte] := by
  simp [isTagValueByte, isForbidden] at readable
  simp [escapedByte, readable, plain]

/-- One escaped byte is written in at most two. -/
theorem escapedByte_length (byte : UInt8) : (escapedByte byte).length ≤ 2 := by
  unfold escapedByte
  repeat' split
  all_goals simp

/-- An unescaped NUL was read as NUL. -/
theorem unescapedByte_eq_zero {escaped : UInt8} (nul : unescapedByte escaped = 0) :
    escaped = 0 := by
  unfold unescapedByte at nul
  repeat' split at nul
  all_goals first
    | exact nul
    | exact absurd nul (by decide)

/-- Escaping what was read is no longer than what was read, and adds no NUL. -/
theorem escape_unescape_length {raw : Bytes} (readable : ∀ byte ∈ raw, isTagValueByte byte) :
    (escapeTagValue (unescapeTagValue raw)).length ≤ raw.length ∧
      0 ∉ unescapeTagValue raw := by
  fun_induction unescapeTagValue raw with
  | case1 => simp [escapeTagValue]
  | case2 byte plain =>
      have here := readable byte (by simp)
      have notNul : byte ≠ 0 := by
        rintro rfl
        simp [isTagValueByte, isForbidden] at here
      simp [escapeTagValue, escapedByte_plain here plain, Ne.symm notNul]
  | case3 byte backslash => simp [escapeTagValue]
  | case4 byte escaped rest plain ih =>
      have here := readable byte (by simp)
      have notNul : byte ≠ 0 := by
        rintro rfl
        simp [isTagValueByte, isForbidden] at here
      obtain ⟨short, noNul⟩ := ih fun other present => readable other (by simp_all)
      refine ⟨?_, by simp [Ne.symm notNul, noNul]⟩
      rw [escapeTagValue] at short ⊢
      rw [List.flatMap_cons, escapedByte_plain here plain]
      simpa using short
  | case5 byte escaped rest backslash ih =>
      have here := readable escaped (by simp)
      have notNul : unescapedByte escaped ≠ 0 := by
        intro nul
        rw [unescapedByte_eq_zero nul] at here
        simp [isTagValueByte, isForbidden] at here
      obtain ⟨short, noNul⟩ := ih fun other present => readable other (by simp_all)
      have two := escapedByte_length (unescapedByte escaped)
      refine ⟨?_, by simp [Ne.symm notNul, noNul]⟩
      rw [escapeTagValue] at short ⊢
      rw [List.flatMap_cons, List.length_append]
      simp only [List.length_cons]
      omega

/-! ### Tag names -/

/-- The bytes a tag name can hold. -/
def isTagNameByte (byte : UInt8) : Bool := isTagVendorByte byte || byte == 43 || byte == 47

/-- A tag name byte is no separator of a line or of a tag section, and not forbidden. -/
theorem isTagNameByte_clean {byte : UInt8} (valid : isTagNameByte byte = true) :
    byte ≠ 59 ∧ byte ≠ 61 ∧ byte ≠ 32 ∧ isForbidden byte = false := by
  refine ⟨?_, ?_, ?_, ?_⟩
  · rintro rfl
    exact absurd valid (by decide)
  · rintro rfl
    exact absurd valid (by decide)
  · rintro rfl
    exact absurd valid (by decide)
  · simp only [isForbidden, Bool.or_eq_false_iff, beq_eq_false_iff_ne, ne_eq]
    refine ⟨⟨?_, ?_⟩, ?_⟩ <;> rintro rfl <;> exact absurd valid (by decide)

private theorem isValidBareTagName_bytes {name : Bytes} (valid : isValidBareTagName name = true) :
    ∀ byte ∈ name, isTagNameByte byte = true := by
  intro byte present
  unfold isValidBareTagName at valid
  split at valid
  case h_1 vendor key parts =>
    obtain ⟨rfl, _⟩ := splitOnce_eq_some_iff.mp parts
    simp only [Bool.and_eq_true, List.all_eq_true] at valid
    obtain ⟨⟨⟨_, keyBytes⟩, _⟩, vendorBytes⟩ := valid
    rw [List.mem_append, List.mem_cons] at present
    rcases present with inVendor | rfl | inKey
    · simp [isTagNameByte, vendorBytes byte inVendor]
    · rfl
    · simp [isTagNameByte, isTagVendorByte, keyBytes byte inKey]
  case h_2 =>
    simp only [Bool.and_eq_true, List.all_eq_true] at valid
    simp [isTagNameByte, isTagVendorByte, valid.2 byte present]

/-- A valid tag name holds tag name bytes only. -/
theorem isValidTagName_bytes {name : Bytes} (valid : isValidTagName name = true) :
    ∀ byte ∈ name, isTagNameByte byte = true := by
  intro byte present
  unfold isValidTagName at valid
  split at valid
  case isTrue plus =>
    obtain ⟨rest, rfl⟩ := List.head?_eq_some_iff.mp plus
    rw [List.mem_cons] at present
    rcases present with rfl | inRest
    · rfl
    · exact isValidBareTagName_bytes valid byte inRest
  case isFalse => exact isValidBareTagName_bytes valid byte present

/-- A valid tag name is not empty. -/
theorem isValidTagName_ne_nil {name : Bytes} (valid : isValidTagName name = true) : name ≠ [] := by
  rintro rfl
  exact absurd valid (by decide)

/-! ### Whole tag sections -/

/-- The written form of a tag holds no tag separator, no space and no line end. -/
theorem serializeTag_clean {tag : IrcTag} (valid : isValidTagName (utf8 tag.name) = true)
    {byte : UInt8} (written : byte ∈ serializeTag tag) :
    byte ≠ 59 ∧ byte ≠ 32 ∧ byte ≠ 13 ∧ byte ≠ 10 := by
  rw [serializeTag, List.mem_append] at written
  rcases written with inName | inValue
  · obtain ⟨noSemicolon, _, noSpace, allowed⟩ :=
      isTagNameByte_clean (isValidTagName_bytes valid byte inName)
    simp only [isForbidden, Bool.or_eq_false_iff, beq_eq_false_iff_ne] at allowed
    exact ⟨noSemicolon, noSpace, allowed.1.1, allowed.1.2⟩
  · cases present : tag.value with
    | none => simp [present] at inValue
    | some value =>
        rw [present, List.mem_cons] at inValue
        rcases inValue with rfl | escaped
        · decide
        · obtain ⟨noSemicolon, noSpace, noReturn, noFeed, _⟩ := escapeTagValue_clean escaped
          exact ⟨noSemicolon, noSpace, noReturn, noFeed⟩

/-- The written form of a tag section holds no space and no line end. -/
theorem tagSection_clean {tags : List IrcTag}
    (valid : ∀ tag ∈ tags, isValidTagName (utf8 tag.name) = true)
    {byte : UInt8} (written : byte ∈ [59].intercalate (tags.map serializeTag)) :
    byte ≠ 32 ∧ byte ≠ 13 ∧ byte ≠ 10 := by
  induction tags with
  | nil => cases written
  | cons tag tags ih =>
      have headClean : byte ∈ serializeTag tag → byte ≠ 32 ∧ byte ≠ 13 ∧ byte ≠ 10 :=
        fun inHead => (serializeTag_clean (valid tag List.mem_cons_self) inHead).2
      cases tags with
      | nil => exact headClean (by simpa using written)
      | cons next others =>
          rw [List.map_cons, List.map_cons, List.intercalate_cons_cons, List.mem_append,
            List.mem_append, List.mem_singleton] at written
          rcases written with (inHead | rfl) | later
          · exact headClean inHead
          · decide
          · exact ih (fun other present => valid other (List.mem_cons_of_mem _ present)) later

/-- Reading the written form of a tag returns the tag. -/
theorem parseTag_serializeTag {tag : IrcTag} (valid : isValidTagName (utf8 tag.name) = true) :
    parseTag (serializeTag tag) = some tag := by
  have noEquals : 61 ∉ utf8 tag.name := fun present =>
    (isTagNameByte_clean (isValidTagName_bytes valid 61 present)).2.1 rfl
  obtain ⟨name, value⟩ := tag
  cases value with
  | none =>
      have unsplit : splitOnce 61 (serializeTag ⟨name, none⟩) = none := by
        rw [splitOnce_eq_none_iff]
        simpa [serializeTag] using noEquals
      simp only [parseTag, unsplit]
      simp [serializeTag, valid]
  | some value =>
      have split : splitOnce 61 (serializeTag ⟨name, some value⟩) =
          some (utf8 name, escapeTagValue value) := splitOnce_append_cons noEquals _
      simp only [parseTag, split]
      simp [valid, unescapeTagValue_escape]

/-- A tag that was read has a valid name, and is written no longer than it was read,
without NUL. -/
theorem serializeTag_of_parseTag {piece : Bytes} {tag : IrcTag}
    (readable : ∀ byte ∈ piece, isTagValueByte byte) (read : parseTag piece = some tag) :
    isValidTagName (utf8 tag.name) = true ∧ (serializeTag tag).length ≤ piece.length ∧
      0 ∉ serializeTag tag := by
  have nulUnreadable : 0 ∉ piece := fun present => absurd (readable 0 present) (by decide)
  unfold parseTag at read
  cases split : splitOnce 61 piece with
  | none =>
      simp only [split] at read
      split at read
      case isFalse => cases read
      case isTrue valid =>
        obtain ⟨name, decoded, rfl⟩ := Option.map_eq_some_iff.mp read
        obtain rfl := fromUtf8?_eq_some_iff.mp decoded
        exact ⟨valid, by simp [serializeTag], by simpa [serializeTag] using nulUnreadable⟩
  | some parts =>
      obtain ⟨nameBytes, value⟩ := parts
      simp only [split] at read
      obtain ⟨rfl, _⟩ := splitOnce_eq_some_iff.mp split
      split at read
      case isFalse => cases read
      case isTrue valid =>
        obtain ⟨name, decoded, rfl⟩ := Option.map_eq_some_iff.mp read
        obtain rfl := fromUtf8?_eq_some_iff.mp decoded
        have valueReadable : ∀ byte ∈ value, isTagValueByte byte := fun byte present =>
          readable byte (by simp [present])
        obtain ⟨short, noNul⟩ := escape_unescape_length valueReadable
        refine ⟨valid, ?_, ?_⟩
        · simp only [serializeTag, List.length_append, List.length_cons]
          omega
        · simp only [serializeTag, List.mem_append, List.mem_cons, not_or]
          refine ⟨fun present => nulUnreadable (by simp [present]), by decide, ?_⟩
          exact fun written => noNul ((escapeTagValue_clean written).2.2.2.2 rfl)

/-- Written tags are read back. -/
theorem parseTags_serialize {tags : List IrcTag} (nonempty : tags ≠ [])
    (valid : ∀ tag ∈ tags, isValidTagName (utf8 tag.name) = true) :
    parseTags ([59].intercalate (tags.map serializeTag)) = some tags := by
  have noSemicolon : ∀ piece ∈ tags.map serializeTag, 59 ∉ piece := by
    intro piece written
    obtain ⟨tag, present, rfl⟩ := List.mem_map.mp written
    exact fun semicolon => (serializeTag_clean (valid tag present) semicolon).1 rfl
  rw [parseTags, List.splitOn_intercalate 59 noSemicolon (by simpa using nonempty)]
  clear noSemicolon nonempty
  induction tags with
  | nil => rfl
  | cons tag tags ih =>
      have tailRead := ih fun other present => valid other (List.mem_cons_of_mem _ present)
      simp [parseTag_serializeTag (valid tag List.mem_cons_self), tailRead]

private theorem intercalate_mapM {pieces : List Bytes} {tags : List IrcTag}
    (readable : ∀ piece ∈ pieces, ∀ byte ∈ piece, isTagValueByte byte)
    (read : pieces.mapM parseTag = some tags) :
    (∀ tag ∈ tags, isValidTagName (utf8 tag.name) = true) ∧
      ([59].intercalate (tags.map serializeTag)).length ≤ ([59].intercalate pieces).length ∧
      0 ∉ [59].intercalate (tags.map serializeTag) ∧ tags.length = pieces.length := by
  induction pieces generalizing tags with
  | nil =>
      obtain rfl : tags = [] := by simpa using read.symm
      simp
  | cons piece pieces ih =>
      rw [List.mapM_cons] at read
      simp only [Option.bind_eq_bind, Option.bind_eq_some_iff, Option.pure_def,
        Option.some.injEq] at read
      obtain ⟨tag, headRead, tailTags, tailRead, rfl⟩ := read
      obtain ⟨valid, short, noNul⟩ :=
        serializeTag_of_parseTag (readable piece List.mem_cons_self) headRead
      obtain ⟨tailValid, tailShort, tailNoNul, sameLength⟩ :=
        ih (fun other present => readable other (List.mem_cons_of_mem _ present)) tailRead
      refine ⟨?_, ?_, ?_, by simp [sameLength]⟩
      · intro other present
        rcases List.mem_cons.mp present with rfl | later
        · exact valid
        · exact tailValid other later
      · cases pieces with
        | nil =>
            obtain rfl : tailTags = [] := by simpa using tailRead.symm
            simpa using short
        | cons next others =>
            cases tailTags with
            | nil => simp at sameLength
            | cons nextTag otherTags =>
                simp only [List.map_cons, List.intercalate_cons_cons, List.length_append,
                  List.length_cons, List.length_nil] at tailShort ⊢
                omega
      · cases tailTags with
        | nil => simpa using noNul
        | cons nextTag otherTags =>
            simp only [List.map_cons, List.intercalate_cons_cons] at tailNoNul ⊢
            simp [noNul, tailNoNul]

/-- Tags that were read are written again, within the limit and without forbidden bytes. -/
theorem serializeTags_of_parseTags {tagSection : Bytes} {tags : List IrcTag}
    (noSpace : 32 ∉ tagSection) (clean : containsForbidden tagSection = false)
    (fits : tagSection.length ≤ maxTagSectionBytes) (read : parseTags tagSection = some tags) :
    ∃ written, serializeTags tags = .ok written ∧ containsForbidden written = false := by
  have readable : ∀ piece ∈ tagSection.splitOn 59, ∀ byte ∈ piece, isTagValueByte byte := by
    intro piece cut byte present
    obtain ⟨noSemicolon, inside⟩ := splitOn_pieces cut byte present
    have notSpace : byte ≠ 32 := by
      rintro rfl
      exact noSpace inside
    have allowed : isForbidden byte = false := by
      rw [containsForbidden, List.any_eq_false] at clean
      simpa using clean byte inside
    simp [isTagValueByte, noSemicolon, notSpace, allowed]
  obtain ⟨valid, short, noNul, sameLength⟩ := intercalate_mapM readable read
  rw [List.intercalate_splitOn] at short
  have nonempty : tags ≠ [] := by
    rintro rfl
    exact List.splitOn_ne_nil 59 tagSection (List.length_eq_zero_iff.mp sameLength.symm)
  refine ⟨64 :: [59].intercalate (tags.map serializeTag) ++ [32], ?_, ?_⟩
  · have allValid : (tags.any fun tag => !isValidTagName (utf8 tag.name)) = false := by
      rw [List.any_eq_false]
      intro tag present
      simp [valid tag present]
    have within : ¬ maxTagSectionBytes < ([59].intercalate (tags.map serializeTag)).length := by
      omega
    simp [serializeTags, nonempty, allValid, within]
  · rw [containsForbidden, List.any_eq_false]
    intro byte present
    simp only [List.cons_append, List.mem_cons, List.mem_append, List.not_mem_nil,
      or_false] at present
    rcases present with rfl | inSection | rfl
    · decide
    · obtain ⟨_, noReturn, noFeed⟩ := tagSection_clean valid inSection
      have notNul : byte ≠ 0 := by
        rintro rfl
        exact noNul inSection
      simp [isForbidden, noReturn, noFeed, notNul]
    · decide

end Omairc.Irc
