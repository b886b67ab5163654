import Omairc.Irc.TagEscaping

/-!
# Parsing and serializing agree

`parse_serialize` computes what reading a written line gives: the message with
its command in capitals and its source fields read anew from the raw source.
`serialize_of_parse` shows that every message the parser returns can be written.
Together they give the round trip from a line, and say for which messages the
round trip from a message holds.
-/

namespace Omairc.Irc

open Omairc.Text

/-- What is left after skipping spaces does not start with one, and is a part of the line. -/
theorem skipSpaces_cons {line rest : Bytes} {head : UInt8}
    (skipped : skipSpaces line = head :: rest) : head ≠ 32 ∧ (head :: rest) ⊆ line := by
  have suffix : skipSpaces line <:+ line := List.dropWhile_suffix _
  rw [skipped] at suffix
  refine ⟨?_, suffix.subset⟩
  rintro rfl
  have notSpace := List.head?_dropWhile_not (· == 32) line
  rw [show line.dropWhile (· == 32) = 32 :: rest from skipped] at notSpace
  simp at notSpace

/-- Nothing is skipped when the line does not start with a space. -/
theorem skipSpaces_of_head {head : UInt8} (notSpace : head ≠ 32) (rest : Bytes) :
    skipSpaces (head :: rest) = head :: rest := by
  simp [skipSpaces, notSpace]

/-! ### Parameters -/

/-- A parameter that needs no colon is a nonempty word that does not start with one. -/
theorem needsColon_eq_false {param : Bytes} (plain : needsColon param = false) :
    ∃ head tail, param = head :: tail ∧ head ≠ 58 ∧ 32 ∉ param := by
  cases param with
  | nil => cases plain
  | cons head tail =>
      simp only [needsColon, List.isEmpty_cons, List.head?_cons, Bool.false_or,
        Bool.or_eq_false_iff, beq_eq_false_iff_ne, ne_eq, Option.some.injEq,
        List.contains_eq_mem, decide_eq_false_iff_not] at plain
      exact ⟨head, tail, rfl, plain.1, plain.2⟩

/-- The last parameter is read back whatever the number of slots left. -/
theorem parseParametersFrom_last (slots : Nat) (last : Bytes) :
    ∃ rest, serializeParams [last] = .ok (32 :: rest) ∧
      parseParametersFrom slots rest = [last] := by
  cases colon : needsColon last with
  | true =>
      refine ⟨58 :: last, by simp [serializeParams, colon], ?_⟩
      cases slots <;> simp [parseParametersFrom, skipSpaces]
  | false =>
      obtain ⟨head, tail, rfl, notColon, oneWord⟩ := needsColon_eq_false colon
      have notSpace : head ≠ 32 := by
        rintro rfl
        simp at oneWord
      refine ⟨head :: tail, by simp [serializeParams, colon], ?_⟩
      cases slots with
      | zero => simp [parseParametersFrom, skipSpaces_of_head notSpace, notColon]
      | succ slots =>
          simp [parseParametersFrom, skipSpaces_of_head notSpace, notColon,
            splitOnce_eq_none_iff.mpr oneWord]

/-- Written parameters are read back. -/
theorem parseParametersFrom_serialize {slots : Nat} {params : List Bytes} {written : Bytes}
    (fits : params.length ≤ slots + 1) (nonempty : params ≠ [])
    (serialized : serializeParams params = .ok written) :
    ∃ rest, written = 32 :: rest ∧ parseParametersFrom slots rest = params := by
  induction params generalizing slots written with
  | nil => exact absurd rfl nonempty
  | cons param others ih =>
      cases others with
      | nil =>
          obtain ⟨rest, expected, read⟩ := parseParametersFrom_last slots param
          rw [expected, Except.ok.injEq] at serialized
          exact ⟨rest, serialized.symm, read⟩
      | cons next others =>
          obtain ⟨fewer, rfl⟩ : ∃ fewer, slots = fewer + 1 := by
            simp only [List.length_cons] at fits
            exact ⟨slots - 1, by omega⟩
          rw [serializeParams] at serialized
          cases colon : needsColon param with
          | true => simp [colon] at serialized
          | false =>
              rw [colon] at serialized
              cases tailCase : serializeParams (next :: others) with
              | error error => simp [tailCase, bind, Except.bind] at serialized
              | ok tailWritten =>
                  obtain ⟨rest, rfl, read⟩ := ih (by simpa using fits) (by simp) tailCase
                  obtain ⟨head, tail, rfl, notColon, oneWord⟩ := needsColon_eq_false colon
                  have notSpace : head ≠ 32 := by
                    rintro rfl
                    simp at oneWord
                  refine ⟨head :: tail ++ 32 :: rest, ?_, ?_⟩
                  · simpa [tailCase, bind, Except.bind] using serialized.symm
                  · rw [parseParametersFrom, List.cons_append, skipSpaces_of_head notSpace]
                    simp only [notColon, if_false]
                    rw [← List.cons_append, splitOnce_append_cons oneWord]
                    simp [read]

/-- A last parameter can always be written. -/
theorem serializeParams_last {last input : Bytes} (inside : last ⊆ input) :
    ∃ written, serializeParams [last] = .ok written ∧ written ⊆ 32 :: 58 :: input := by
  refine ⟨_, rfl, ?_⟩
  split
  · exact List.cons_subset_cons _ (List.cons_subset_cons _ inside)
  · exact List.cons_subset_cons _ (List.subset_cons_of_subset _ inside)

/-- Parameters that were read can be written, from bytes of the line and separators. -/
theorem serializeParams_parse (slots : Nat) (input : Bytes) :
    (parseParametersFrom slots input).length ≤ slots + 1 ∧
      ∃ written, serializeParams (parseParametersFrom slots input) = .ok written ∧
        written ⊆ 32 :: 58 :: input := by
  induction slots generalizing input with
  | zero =>
      rw [parseParametersFrom]
      cases skipped : skipSpaces input with
      | nil => exact ⟨by simp, [], rfl, by simp⟩
      | cons head tail =>
          have inside := (skipSpaces_cons skipped).2
          have tailInside : tail ⊆ input := fun _ present =>
            inside (List.mem_cons_of_mem _ present)
          dsimp only
          split
          · exact ⟨by simp, serializeParams_last tailInside⟩
          · exact ⟨by simp, serializeParams_last inside⟩
  | succ slots ih =>
      rw [parseParametersFrom]
      cases skipped : skipSpaces input with
      | nil => exact ⟨by simp, [], rfl, by simp⟩
      | cons head tail =>
          obtain ⟨notSpace, inside⟩ := skipSpaces_cons skipped
          have tailInside : tail ⊆ input := fun _ present =>
            inside (List.mem_cons_of_mem _ present)
          dsimp only
          split
          case isTrue => exact ⟨by simp, serializeParams_last tailInside⟩
          case isFalse notColon =>
            split
            case h_1 => exact ⟨by simp, serializeParams_last inside⟩
            case h_2 parameter rest cut =>
              obtain ⟨shape, oneWord⟩ := splitOnce_eq_some_iff.mp cut
              have parameterInside : parameter ⊆ input := fun _ present =>
                inside (shape ▸ List.mem_append_left _ present)
              have restInside : rest ⊆ input := fun _ present =>
                inside (shape ▸ List.mem_append_right _ (List.mem_cons_of_mem _ present))
              have plain : needsColon parameter = false := by
                cases parameter with
                | nil =>
                    simp only [List.nil_append, List.cons.injEq] at shape
                    exact absurd shape.1 notSpace
                | cons first others =>
                    simp only [List.cons_append, List.cons.injEq] at shape
                    simp [needsColon, ← shape.1, notColon, Ne.symm notSpace]
                    simpa [← shape.1, Ne.symm notSpace] using oneWord
              obtain ⟨fits, written, serialized, writtenInside⟩ := ih rest
              refine ⟨by simpa using fits, ?_⟩
              cases others : parseParametersFrom slots rest with
              | nil => exact serializeParams_last parameterInside
              | cons next more =>
                  rw [others] at serialized
                  refine ⟨32 :: parameter ++ written, ?_, ?_⟩
                  · simp [serializeParams, plain, serialized, bind, Except.bind]
                  · have widen : 32 :: 58 :: rest ⊆ 32 :: 58 :: input :=
                      List.cons_subset_cons _ (List.cons_subset_cons _ restInside)
                    rw [List.cons_append, List.cons_subset, List.append_subset]
                    exact ⟨List.mem_cons_self,
                      List.subset_cons_of_subset _ (List.subset_cons_of_subset _ parameterInside),
                      List.Subset.trans writtenInside widen⟩

/-! ### Commands and sources -/

/-- A valid command is a nonempty word of letters and digits. -/
theorem isValidCommand_bytes {command : Bytes} (valid : isValidCommand command = true) :
    (∃ head tail, command = head :: tail) ∧
      ∀ byte ∈ command, isAsciiAlphanumeric byte = true := by
  unfold isValidCommand at valid
  split at valid
  case isTrue numeric =>
    simp only [Bool.and_eq_true, decide_eq_true_eq, List.all_eq_true] at numeric
    refine ⟨?_, fun byte present => by simp [isAsciiAlphanumeric, numeric.2 byte present]⟩
    cases command with
    | nil => simp at numeric
    | cons head tail => exact ⟨head, tail, rfl⟩
  case isFalse =>
    simp only [Bool.and_eq_true, List.all_eq_true] at valid
    refine ⟨?_, fun byte present => by simp [isAsciiAlphanumeric, valid.2 byte present]⟩
    cases command with
    | nil => simp at valid
    | cons head tail => exact ⟨head, tail, rfl⟩

/-- A letter or digit is ASCII and delimits nothing. -/
theorem isAsciiAlphanumeric_clean {byte : UInt8} (word : isAsciiAlphanumeric byte = true) :
    byte < 128 ∧ byte ≠ 32 ∧ byte ≠ 58 ∧ byte ≠ 64 ∧ isForbidden byte = false := by
  simp only [isAsciiAlphanumeric, isAsciiAlphabetic, isAsciiUppercase, isAsciiLowercase,
    isAsciiDigit, Bool.or_eq_true, Bool.and_eq_true, decide_eq_true_eq, UInt8.le_iff_toNat_le] at word
  refine ⟨?_, ?_, ?_, ?_, ?_⟩
  · rw [UInt8.lt_iff_toNat_lt]
    simp at word ⊢
    omega
  · rintro rfl
    exact absurd word (by decide)
  · rintro rfl
    exact absurd word (by decide)
  · rintro rfl
    exact absurd word (by decide)
  · simp only [isForbidden, Bool.or_eq_false_iff, beq_eq_false_iff_ne, ne_eq]
    refine ⟨⟨?_, ?_⟩, ?_⟩ <;> rintro rfl <;> exact absurd word (by decide)

/-- Upper casing keeps a command valid. -/
@[simp] theorem isValidCommand_upper (command : Bytes) :
    isValidCommand (command.map toAsciiUppercase) = isValidCommand command := by
  simp [isValidCommand, List.all_map, Function.comp_def]

/-- A source that was read keeps its raw form, is not empty and is clean. -/
theorem parsePrefix_raw {raw : Bytes} {source : IrcPrefix} (read : parsePrefix raw = some source) :
    source.raw = raw ∧ raw ≠ [] ∧ containsForbidden raw = false := by
  unfold parsePrefix at read
  split at read
  case isTrue => cases read
  case isFalse accepted =>
    simp only [Bool.or_eq_true, not_or, Bool.not_eq_true, List.isEmpty_eq_false_iff] at accepted
    refine ⟨?_, accepted⟩
    split at read
    · split at read
      · cases read
      · obtain ⟨parts, _, rfl⟩ := Option.map_eq_some_iff.mp read
        rfl
    · obtain ⟨parts, _, rfl⟩ := Option.map_eq_some_iff.mp read
      rfl

/-- What the fields of a source must be for its raw text: a bare name with neither
mark, or a nick followed by a user behind `!`, a host behind `@`, or both. -/
inductive SourceParts : IrcPrefix → Prop
  | server {raw : Bytes} (noBang : 33 ∉ raw) (noAt : 64 ∉ raw) : SourceParts ⟨raw, [], [], []⟩
  | user {nick user : Bytes} (named : nick ≠ [] ∧ user ≠ []) (noBang : 33 ∉ nick ∧ 33 ∉ user)
      (noAt : 64 ∉ nick ∧ 64 ∉ user) : SourceParts ⟨nick ++ 33 :: user, nick, user, []⟩
  | host {nick host : Bytes} (named : nick ≠ [] ∧ host ≠ []) (noBang : 33 ∉ nick)
      (noAt : 64 ∉ nick ∧ 64 ∉ host) : SourceParts ⟨nick ++ 64 :: host, nick, [], host⟩
  | full {nick user host : Bytes} (named : nick ≠ [] ∧ user ≠ [] ∧ host ≠ [])
      (noBang : 33 ∉ nick ∧ 33 ∉ user) (noAt : 64 ∉ nick ∧ 64 ∉ user ∧ 64 ∉ host) :
      SourceParts ⟨(nick ++ 33 :: user) ++ 64 :: host, nick, user, host⟩

/-- The part of a source before its host is a nick, or a nick and a user. -/
theorem parseNickPart_eq_some {part nick user : Bytes} {hasHost : Bool}
    (read : parseNickPart part hasHost = some (nick, user)) :
    (33 ∉ part ∧ nick = (if hasHost then part else []) ∧ user = []) ∨
      (part = nick ++ 33 :: user ∧ (nick ≠ [] ∧ user ≠ []) ∧ 33 ∉ nick ∧ 33 ∉ user) := by
  unfold parseNickPart at read
  split at read
  case h_1 front back cut =>
    obtain ⟨shape, absent⟩ := splitOnce_eq_some_iff.mp cut
    split at read
    case isTrue => cases read
    case isFalse accepted =>
      cases read
      simp only [Bool.or_eq_true, List.isEmpty_iff, List.contains_eq_mem, decide_eq_true_eq,
        not_or] at accepted
      exact Or.inr ⟨shape, accepted.1, absent, accepted.2⟩
  case h_2 uncut =>
    cases read
    exact Or.inl ⟨splitOnce_eq_none_iff.mp uncut, rfl, rfl⟩

/-- Reading a source gives exactly the fields its raw text must have. -/
theorem parsePrefix_eq_some_iff {source : IrcPrefix} :
    parsePrefix source.raw = some source ↔
      source.raw ≠ [] ∧ containsForbidden source.raw = false ∧ SourceParts source := by
  constructor
  · intro read
    obtain ⟨_, nonempty, clean⟩ := parsePrefix_raw read
    refine ⟨nonempty, clean, ?_⟩
    obtain ⟨raw, nick, user, host⟩ := source
    simp only [parsePrefix, List.isEmpty_eq_false_iff.mpr nonempty, clean, Bool.or_self,
      Bool.false_eq_true, if_false] at read
    split at read
    case h_1 nickPart rest cut =>
      obtain ⟨rfl, noAt⟩ := splitOnce_eq_some_iff.mp cut
      split at read
      case isTrue => cases read
      case isFalse accepted =>
        simp only [Bool.or_eq_true, List.isEmpty_iff, List.contains_eq_mem, decide_eq_true_eq,
          not_or] at accepted
        obtain ⟨⟨named, hostNamed⟩, oneAt⟩ := accepted
        obtain ⟨⟨_, _⟩, partsRead, same⟩ := Option.map_eq_some_iff.mp read
        cases same
        rcases parseNickPart_eq_some partsRead with
          ⟨noBang, rfl, rfl⟩ | ⟨rfl, partsNamed, noBang⟩
        · exact .host ⟨named, hostNamed⟩ noBang ⟨noAt, oneAt⟩
        · simp only [List.mem_append, List.mem_cons, not_or] at noAt
          exact .full ⟨partsNamed.1, partsNamed.2, hostNamed⟩ noBang
            ⟨noAt.1, noAt.2.2, oneAt⟩
    case h_2 uncut =>
      have noAt := splitOnce_eq_none_iff.mp uncut
      obtain ⟨⟨_, _⟩, partsRead, same⟩ := Option.map_eq_some_iff.mp read
      cases same
      rcases parseNickPart_eq_some partsRead with ⟨noBang, rfl, rfl⟩ | ⟨rfl, partsNamed, noBang⟩
      · exact .server noBang noAt
      · simp only [List.mem_append, List.mem_cons, not_or] at noAt
        exact .user partsNamed noBang ⟨noAt.1, noAt.2.2⟩
  · rintro ⟨nonempty, clean, parts⟩
    unfold parsePrefix
    rw [List.isEmpty_eq_false_iff.mpr nonempty, clean]
    cases parts with
    | server noBang noAt =>
        simp [splitOnce_eq_none_iff.mpr noAt, parseNickPart, splitOnce_eq_none_iff.mpr noBang]
    | @user nick user named noBang noAt =>
        have whole : 64 ∉ nick ++ 33 :: user := by simp [noAt]
        simp [splitOnce_eq_none_iff.mpr whole, parseNickPart,
          splitOnce_append_cons noBang.1, named, noBang.2]
    | host named noBang noAt =>
        simp [splitOnce_append_cons noAt.1, parseNickPart, splitOnce_eq_none_iff.mpr noBang,
          named, noAt.2]
    | @full nick user host named noBang noAt =>
        have whole : 64 ∉ nick ++ 33 :: user := by simp [noAt]
        have cut := splitOnce_append_cons whole host
        simp only [cut]
        simp [parseNickPart, splitOnce_append_cons noBang.1, named, noBang.2, noAt.2.2]

/-- The written form of the tags is read back before a line that cannot be tags. -/
theorem parseTagSection_serialize {tags : List IrcTag} {written rest : Bytes} {head : UInt8}
    (serialized : serializeTags tags = .ok written) (notSpace : head ≠ 32) (notAt : head ≠ 64) :
    parseTagSection (written ++ head :: rest) = .ok (tags, head :: rest) := by
  unfold serializeTags at serialized
  split at serialized
  case isTrue empty =>
    obtain rfl : tags = [] := List.isEmpty_iff.mp empty
    cases serialized
    simp [parseTagSection, notAt]
  case isFalse nonempty =>
    split at serialized
    case isTrue => cases serialized
    case isFalse allValid =>
      dsimp only at serialized
      split at serialized
      case isTrue => cases serialized
      case isFalse fits =>
        cases serialized
        have valid : ∀ tag ∈ tags, isValidTagName (utf8 tag.name) = true := by
          simpa using allValid
        have present : tags ≠ [] := by simpa using nonempty
        generalize sectionIs : [59].intercalate (tags.map serializeTag) = tagSection at fits
        have noSpace : 32 ∉ 64 :: tagSection := by
          rw [← sectionIs, List.mem_cons, not_or]
          exact ⟨by decide, fun inside => (tagSection_clean valid inside).1 rfl⟩
        have sectionNonempty : tagSection ≠ [] := by
          obtain ⟨tag, others, rfl⟩ := List.exists_cons_of_ne_nil present
          have nameNonempty := isValidTagName_ne_nil (valid tag List.mem_cons_self)
          rw [← sectionIs]
          cases others <;> simp [serializeTag, nameNonempty]
        have cut : splitOnce 32 (64 :: tagSection ++ 32 :: head :: rest) =
            some (64 :: tagSection, head :: rest) := splitOnce_append_cons noSpace _
        have read : parseTags tagSection = some tags :=
          sectionIs ▸ parseTags_serialize present valid
        simp only [List.append_assoc, List.cons_append, List.nil_append] at cut ⊢
        simp [parseTagSection, cut, fits, sectionNonempty, read, skipSpaces_of_head notSpace]

/-- The written form of the source is read back, its fields anew from the raw source. -/
theorem parseSource_serialize {source : Option IrcPrefix} {written rest : Bytes} {head : UInt8}
    (serialized : serializeSource source = .ok written) (notSpace : head ≠ 32)
    (notColon : head ≠ 58) :
    parseSource (written ++ head :: rest) =
      .ok (source.bind fun source => parsePrefix source.raw, head :: rest) := by
  cases source with
  | none =>
      cases serialized
      simp [parseSource, notColon]
  | some source =>
      simp only [serializeSource] at serialized
      split at serialized
      case isTrue => cases serialized
      case isFalse accepted =>
        cases serialized
        simp only [List.contains_eq_mem, Bool.or_eq_true, decide_eq_true_eq, not_or,
          Option.isNone_iff_eq_none] at accepted
        obtain ⟨oneWord, readable⟩ := accepted
        obtain ⟨reread, read⟩ := Option.ne_none_iff_exists'.mp readable
        obtain ⟨_, nonempty, _⟩ := parsePrefix_raw read
        have noSpace : 32 ∉ 58 :: source.raw := by simpa using oneWord
        have cut := splitOnce_append_cons noSpace (head :: rest)
        simp only [List.append_assoc, List.cons_append, List.nil_append] at cut ⊢
        simp [parseSource, cut, nonempty, read, skipSpaces_of_head notSpace]

/-- The written form of a command with its parameters is read back in capitals. -/
theorem parseCommand_serialize {command written : Bytes} {params : List Bytes}
    (valid : isValidCommand command = true) (fits : params.length ≤ maxParameters)
    (serialized : serializeParams params = .ok written) :
    ∃ text, utf8 text = command.map toAsciiUppercase ∧
      parseCommand (command ++ written) = .ok (text, params) := by
  obtain ⟨⟨head, tail, shape⟩, bytes⟩ := isValidCommand_bytes valid
  have upperValid : isValidCommand (command.map toAsciiUppercase) = true := by
    rw [isValidCommand_upper]
    exact valid
  obtain ⟨text, encoded⟩ := exists_utf8_of_ascii fun byte present =>
    (isAsciiAlphanumeric_clean ((isValidCommand_bytes upperValid).2 byte present)).1
  have decoded : fromUtf8? (command.map toAsciiUppercase) = some text :=
    fromUtf8?_eq_some_iff.mpr encoded
  have oneWord : 32 ∉ command := fun present =>
    (isAsciiAlphanumeric_clean (bytes 32 present)).2.1 rfl
  have nonempty : (command ++ written).isEmpty = false := by simp [shape]
  refine ⟨text, encoded, ?_⟩
  unfold parseCommand
  simp only [nonempty, Bool.false_eq_true, if_false]
  cases params with
  | nil =>
      cases serialized
      simp [splitOnce_eq_none_iff.mpr oneWord, valid, decoded]
  | cons param params =>
      have slotted : (param :: params).length ≤ maxParameters - 1 + 1 := fits
      obtain ⟨rest, rfl, read⟩ := parseParametersFrom_serialize slotted (by simp) serialized
      simp [splitOnce_append_cons oneWord, valid, decoded, parseParameters, read]

/-- A message is written exactly when each of its parts is and the line is clean. -/
theorem serialize_eq_ok_iff {message : IrcMessage} {line : Bytes} :
    serialize message = .ok line ↔
      message.params.length ≤ maxParameters ∧ isValidCommand (utf8 message.command) = true ∧
        ∃ tags source params, serializeTags message.tags = .ok tags ∧
          serializeSource message.msgPrefix = .ok source ∧
          serializeParams message.params = .ok params ∧
          line = tags ++ (source ++ (utf8 message.command ++ params)) ∧
          containsForbidden line = false := by
  unfold serialize
  by_cases fits : maxParameters < message.params.length
  · simp [fits, Nat.not_le.mpr fits]
  · cases tagsCase : serializeTags message.tags with
    | error error => simp [fits, bind, Except.bind]
    | ok tags =>
        cases sourceCase : serializeSource message.msgPrefix with
        | error error => simp [fits, bind, Except.bind]
        | ok source =>
            by_cases valid : isValidCommand (utf8 message.command) = true
            · cases paramsCase : serializeParams message.params with
              | error error => simp [fits, valid, bind, Except.bind]
              | ok params =>
                  simp only [fits, valid, bind, Except.bind, if_false, Bool.not_true,
                    Bool.false_eq_true, List.append_assoc, Except.ok.injEq, exists_and_left,
                    exists_eq_left', true_and]
                  constructor
                  · intro written
                    split at written
                    case isTrue => cases written
                    case isFalse clean =>
                      cases written
                      exact ⟨by omega, rfl, by simpa using clean⟩
                  · rintro ⟨_, rfl, clean⟩
                    rw [clean]
                    rfl
            · simp [fits, valid, bind, Except.bind]

/-- What reading a written message gives: the message with its command in capitals
and its source fields read from the raw source. -/
theorem parse_serialize {message : IrcMessage} {line : Bytes}
    (serialized : serialize message = .ok line) :
    ∃ command, utf8 command = (utf8 message.command).map toAsciiUppercase ∧
      parse line = .ok
        { message with
          msgPrefix := message.msgPrefix.bind fun source => parsePrefix source.raw
          command := command } := by
  obtain ⟨fits, valid, tags, source, params, tagsWritten, sourceWritten, paramsWritten, rfl,
    clean⟩ := serialize_eq_ok_iff.mp serialized
  obtain ⟨⟨head, tail, shape⟩, bytes⟩ := isValidCommand_bytes valid
  obtain ⟨_, notSpace, notColon, notAt, _⟩ :=
    isAsciiAlphanumeric_clean (bytes head (by simp [shape]))
  obtain ⟨command, encoded, commandRead⟩ := parseCommand_serialize valid fits paramsWritten
  have commandShape : utf8 message.command ++ params = head :: (tail ++ params) := by
    simp [shape]
  have sourceRead : parseSource (source ++ (utf8 message.command ++ params)) =
      .ok (message.msgPrefix.bind fun source => parsePrefix source.raw,
        utf8 message.command ++ params) := by
    rw [commandShape]
    exact parseSource_serialize sourceWritten notSpace notColon
  have tagsRead : parseTagSection (tags ++ (source ++ (utf8 message.command ++ params))) =
      .ok (message.tags, source ++ (utf8 message.command ++ params)) := by
    cases source with
    | nil =>
        rw [List.nil_append, commandShape]
        exact parseTagSection_serialize tagsWritten notSpace notAt
    | cons lead others =>
        have isColon : lead = 58 := by
          cases present : message.msgPrefix with
          | none => simp [present, serializeSource] at sourceWritten
          | some given =>
              simp only [present, serializeSource] at sourceWritten
              split at sourceWritten
              · cases sourceWritten
              · simpa using (List.cons.inj (Except.ok.inj sourceWritten)).1.symm
        subst isColon
        exact parseTagSection_serialize tagsWritten (by decide) (by decide)
  have nonempty : (tags ++ (source ++ (utf8 message.command ++ params))).isEmpty = false := by
    simp [shape]
  refine ⟨command, encoded, ?_⟩
  simp [parse, nonempty, clean, tagsRead, sourceRead, commandRead, bind, Except.bind]

/-! ### What was read can be written -/

/-- The tags of a clean line can be written, and the rest of the line is a part of it. -/
theorem serializeTags_parse {line rest : Bytes} {tags : List IrcTag}
    (clean : containsForbidden line = false) (read : parseTagSection line = .ok (tags, rest)) :
    (∃ written, serializeTags tags = .ok written ∧ containsForbidden written = false) ∧
      rest ⊆ line := by
  unfold parseTagSection at read
  split at read
  case isFalse =>
    cases read
    exact ⟨⟨[], rfl, rfl⟩, List.Subset.refl line⟩
  case isTrue tagged =>
    split at read
    case h_1 => cases read
    case h_2 front behind cut =>
      obtain ⟨rfl, noSpace⟩ := splitOnce_eq_some_iff.mp cut
      split at read
      case isTrue => cases read
      case isFalse limits =>
        split at read
        case h_1 => cases read
        case h_2 tagsRead =>
          cases read
          simp only [Bool.or_eq_true, decide_eq_true_eq, not_or] at limits
          have tailInside : front.tail ⊆ front := (List.tail_sublist front).subset
          have sectionClean : containsForbidden front.tail = false :=
            containsForbidden_subset clean fun _ present =>
              List.mem_append_left _ (tailInside present)
          have fits : front.tail.length ≤ maxTagSectionBytes := by
            rw [List.length_tail]
            omega
          refine ⟨serializeTags_of_parseTags (fun present => noSpace (tailInside present))
            sectionClean fits tagsRead, ?_⟩
          intro byte present
          have inBehind := (List.dropWhile_sublist (· == 32)).subset present
          exact List.mem_append_right _ (List.mem_cons_of_mem _ inBehind)

/-- The source of a clean line can be written and is read back whole. -/
theorem serializeSource_parse {line rest : Bytes} {source : Option IrcPrefix}
    (clean : containsForbidden line = false) (read : parseSource line = .ok (source, rest)) :
    (∃ written, serializeSource source = .ok written ∧ containsForbidden written = false) ∧
      (∀ given, source = some given → parsePrefix given.raw = some given) ∧ rest ⊆ line := by
  unfold parseSource at read
  split at read
  case isFalse =>
    cases read
    exact ⟨⟨[], rfl, rfl⟩, fun given present => (by cases present), List.Subset.refl line⟩
  case isTrue marked =>
    split at read
    case h_1 => cases read
    case h_2 front behind cut =>
      obtain ⟨rfl, noSpace⟩ := splitOnce_eq_some_iff.mp cut
      split at read
      case isTrue => cases read
      case isFalse =>
        split at read
        case h_1 => cases read
        case h_2 given sourceRead =>
          cases read
          obtain ⟨rawIs, _, rawClean⟩ := parsePrefix_raw sourceRead
          have oneWord : 32 ∉ given.raw := fun present =>
            noSpace ((List.tail_sublist front).subset (rawIs ▸ present))
          refine ⟨⟨58 :: given.raw ++ [32], ?_, ?_⟩, ?_, ?_⟩
          · simp [serializeSource, oneWord, rawIs ▸ sourceRead]
          · rw [← rawIs] at rawClean
            simp [rawClean, isForbidden]
          · rintro _ ⟨⟩
            rw [rawIs]
            exact sourceRead
          · intro byte present
            have inBehind := (List.dropWhile_sublist (· == 32)).subset present
            exact List.mem_append_right _ (List.mem_cons_of_mem _ inBehind)

/-- A verb that is accepted is in capitals. -/
theorem acceptedVerb {word : Bytes} {command : String} {readParams params : List Bytes}
    (accepted : (if !isValidCommand word then Except.error IrcError.invalidCommand
      else
        match fromUtf8? (word.map toAsciiUppercase) with
        | none => .error .invalidCommand
        | some command => .ok (command, readParams)) = .ok (command, params)) :
    isValidCommand (utf8 command) = true ∧
      (utf8 command).map toAsciiUppercase = utf8 command ∧ readParams = params := by
  have upperTwice : (word.map toAsciiUppercase).map toAsciiUppercase =
      word.map toAsciiUppercase := by
    simp [Function.comp_def]
  split at accepted
  case isTrue => cases accepted
  case isFalse valid =>
    split at accepted
    case h_1 => cases accepted
    case h_2 text decoded =>
      cases accepted
      rw [fromUtf8?_eq_some_iff] at decoded
      rw [decoded, upperTwice, isValidCommand_upper]
      exact ⟨by simpa using valid, rfl, rfl⟩

/-- The command and the parameters of a clean line can be written, and the command
was read in capitals. -/
theorem serializeCommand_parse {line : Bytes} {command : String} {params : List Bytes}
    (clean : containsForbidden line = false) (read : parseCommand line = .ok (command, params)) :
    isValidCommand (utf8 command) = true ∧
      (utf8 command).map toAsciiUppercase = utf8 command ∧ params.length ≤ maxParameters ∧
      ∃ written, serializeParams params = .ok written ∧ containsForbidden written = false := by
  unfold parseCommand at read
  split at read
  case isTrue => cases read
  case isFalse =>
    split at read
    case h_1 given wordRead paramsRead cut =>
      split at cut
      case h_1 word rest parts =>
        obtain ⟨rfl, _⟩ := splitOnce_eq_some_iff.mp parts
        cases cut
        obtain ⟨valid, upper, rfl⟩ := acceptedVerb read
        obtain ⟨fits, written, serialized, inside⟩ :=
          serializeParams_parse (maxParameters - 1) rest
        refine ⟨valid, upper, fits, written, serialized, ?_⟩
        have restClean : containsForbidden rest = false :=
          containsForbidden_subset clean fun _ present =>
            List.mem_append_right _ (List.mem_cons_of_mem _ present)
        exact containsForbidden_subset (by simpa [isForbidden] using restClean) inside
      case h_2 =>
        cases cut
        obtain ⟨valid, upper, rfl⟩ := acceptedVerb read
        exact ⟨valid, upper, by decide, [], rfl, rfl⟩

/-- A message as the parser returns it: its command is in capitals, and the fields of
its source are the parts of the raw source. -/
structure Canonical (message : IrcMessage) : Prop where
  command : (utf8 message.command).map toAsciiUppercase = utf8 message.command
  source : ∀ given, message.msgPrefix = some given → SourceParts given

/-- Every message the parser returns is canonical and can be written. -/
theorem serialize_of_parse {line : Bytes} {message : IrcMessage}
    (read : parse line = .ok message) :
    Canonical message ∧ ∃ written, serialize message = .ok written := by
  unfold parse at read
  split at read
  case isTrue => cases read
  case isFalse =>
    split at read
    case isTrue => cases read
    case isFalse notForbidden =>
      have clean : containsForbidden line = false := by simpa using notForbidden
      cases tagsCase : parseTagSection line with
      | error error => simp [tagsCase, bind, Except.bind] at read
      | ok tagsRead =>
          obtain ⟨tags, afterTags⟩ := tagsRead
          obtain ⟨⟨tagsWritten, tagsSerialized, tagsClean⟩, tagsInside⟩ :=
            serializeTags_parse clean tagsCase
          have cleanAfterTags := containsForbidden_subset clean tagsInside
          cases sourceCase : parseSource afterTags with
          | error error => simp [tagsCase, sourceCase, bind, Except.bind] at read
          | ok sourceRead =>
              obtain ⟨source, afterSource⟩ := sourceRead
              obtain ⟨⟨sourceWritten, sourceSerialized, sourceClean⟩, sourceKept, sourceInside⟩ :=
                serializeSource_parse cleanAfterTags sourceCase
              have cleanAfterSource := containsForbidden_subset cleanAfterTags sourceInside
              cases commandCase : parseCommand afterSource with
              | error error =>
                  simp [tagsCase, sourceCase, commandCase, bind, Except.bind] at read
              | ok commandRead =>
                  obtain ⟨command, params⟩ := commandRead
                  obtain ⟨valid, upper, fits, paramsWritten, paramsSerialized, paramsClean⟩ :=
                    serializeCommand_parse cleanAfterSource commandCase
                  obtain rfl : message = ⟨tags, source, command, params⟩ := by
                    simpa [tagsCase, sourceCase, commandCase, bind, Except.bind] using read.symm
                  have commandClean : containsForbidden (utf8 command) = false := by
                    rw [containsForbidden, List.any_eq_false]
                    intro byte present
                    have word := (isValidCommand_bytes valid).2 byte present
                    simp [(isAsciiAlphanumeric_clean word).2.2.2.2]
                  have sourceParts : ∀ given, source = some given → SourceParts given :=
                    fun given present =>
                      (parsePrefix_eq_some_iff.mp (sourceKept given present)).2.2
                  refine ⟨⟨upper, sourceParts⟩, _, serialize_eq_ok_iff.mpr ⟨fits, valid, tagsWritten,
                    sourceWritten, paramsWritten, tagsSerialized, sourceSerialized,
                    paramsSerialized, rfl, ?_⟩⟩
                  simp [tagsClean, sourceClean, commandClean, paramsClean]

/-- Every parameter is part of the written parameters. -/
theorem subset_of_serializeParams {params : List Bytes} {written : Bytes}
    (serialized : serializeParams params = .ok written) : ∀ param ∈ params, param ⊆ written := by
  fun_induction serializeParams params generalizing written with
  | case1 => simp
  | case2 last =>
      cases serialized
      intro param present
      obtain rfl := List.mem_singleton.mp present
      intro byte inside
      split <;> simp [inside]
  | case3 => cases serialized
  | case4 param next rest plain inductionHypothesis =>
      obtain ⟨tail, tailWritten, rfl⟩ : ∃ tail, serializeParams (next :: rest) = .ok tail ∧
          written = 32 :: param ++ tail := by
        cases tailCase : serializeParams (next :: rest) with
        | error error => simp [tailCase, bind, Except.bind] at serialized
        | ok tail => exact ⟨tail, rfl, by simpa [tailCase, bind, Except.bind] using serialized.symm⟩
      intro given present byte inside
      rcases List.mem_cons.mp present with rfl | later
      · simp [inside]
      · simp [inductionHypothesis tailWritten given later inside]

/-- The parameters the parser returns hold no CR, LF or NUL. -/
theorem params_clean_of_parse {line : Bytes} {message : IrcMessage}
    (read : parse line = .ok message) : ∀ param ∈ message.params, containsForbidden param = false := by
  intro param present
  obtain ⟨-, written, serialized⟩ := serialize_of_parse read
  obtain ⟨-, -, _, _, params, -, -, paramsWritten, rfl, clean⟩ := serialize_eq_ok_iff.mp serialized
  refine containsForbidden_subset clean fun byte inside => ?_
  have := subset_of_serializeParams paramsWritten param present inside
  simp [this]

/-- A written message is read back as itself exactly when it is canonical. -/
theorem parse_serialize_iff {message : IrcMessage} {line : Bytes}
    (serialized : serialize message = .ok line) :
    parse line = .ok message ↔ Canonical message := by
  constructor
  · exact fun read => (serialize_of_parse read).1
  · rintro ⟨upper, kept⟩
    obtain ⟨command, encoded, read⟩ := parse_serialize serialized
    obtain rfl : command = message.command := utf8_injective (encoded.trans upper)
    have sameSource : (message.msgPrefix.bind fun source => parsePrefix source.raw) =
        message.msgPrefix := by
      cases present : message.msgPrefix with
      | none => rfl
      | some given =>
          obtain ⟨_, _, _, source, _, _, sourceWritten, _⟩ := serialize_eq_ok_iff.mp serialized
          simp only [present, serializeSource] at sourceWritten
          split at sourceWritten
          case isTrue => cases sourceWritten
          case isFalse accepted =>
            simp only [Bool.or_eq_true, not_or, Option.isNone_iff_eq_none] at accepted
            obtain ⟨reread, rawRead⟩ := Option.ne_none_iff_exists'.mp accepted.2
            obtain ⟨_, nonempty, clean⟩ := parsePrefix_raw rawRead
            exact parsePrefix_eq_some_iff.mpr ⟨nonempty, clean, kept given present⟩
    rw [read, sameSource]

/-- The two directions of the round trip. Every line the parser accepts is written
again to a line with the same message; a message the serializer accepts comes back
exactly when its command is in capitals and the fields of its source are the parts of
its raw text. -/
theorem parse_serialize_round_trip (line : Bytes) (message : IrcMessage) :
    (parse line = .ok message →
      ∃ written, serialize message = .ok written ∧ parse written = .ok message) ∧
    (serialize message = .ok line →
      (parse line = .ok message ↔
        (utf8 message.command).map toAsciiUppercase = utf8 message.command ∧
          ∀ given, message.msgPrefix = some given → SourceParts given)) := by
  refine ⟨fun read => ?_, fun serialized => ?_⟩
  · obtain ⟨canonical, written, serialized⟩ := serialize_of_parse read
    exact ⟨written, serialized, (parse_serialize_iff serialized).mpr canonical⟩
  · rw [parse_serialize_iff serialized]
    exact ⟨fun ⟨upper, kept⟩ => ⟨upper, kept⟩, fun ⟨upper, kept⟩ => ⟨upper, kept⟩⟩

/-- A command in small letters is written as it is and read back in capitals. -/
theorem lowercase_command_not_returned :
    ¬ ∀ message line, serialize message = .ok line → parse line = .ok message := by
  intro returns
  have written : serialize ⟨[], none, "ping", []⟩ = .ok [112, 105, 110, 103] := by decide
  have read : parse [112, 105, 110, 103] = .ok ⟨[], none, "PING", []⟩ := by decide
  have returned := returns _ _ written
  rw [read] at returned
  exact absurd returned (by decide)

end Omairc.Irc
