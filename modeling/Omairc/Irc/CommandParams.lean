import Omairc.Irc.CommandBuilder
import Omairc.Irc.ParserRoundTrip
import Omairc.Text.Utf8

/-!
# What the parameters of a command are read as

A builder writes its arguments one after another, the last one behind a colon if it
may hold spaces. The parser reads the same arguments back exactly when each word is
one: nonempty, without a space, and without a colon in front.
-/

namespace Omairc.Irc

open Omairc.Text

/-- The text of the arguments after a command: the words, and an argument behind a colon. -/
def parameterText : List Bytes → Option Bytes → Bytes
  | [], none => []
  | [], some trailing => 58 :: trailing
  | [word], none => word
  | word :: rest, trailing => word ++ 32 :: parameterText rest trailing

/-- A command with its arguments, as a builder writes it. -/
def commandText (command : String) (words : List Bytes) (trailing : Option Bytes) : Bytes :=
  utf8 command ++
    if words = [] ∧ trailing = none then [] else 32 :: parameterText words trailing

/-- The arguments are read back one by one. After `slots` words the last parameter takes the
rest of the line, so it may hold spaces. -/
def ReadBack : Nat → List Bytes → Option Bytes → Prop
  | _, [], _ => True
  | 0, [word], none => word ≠ [] ∧ word.head? ≠ some 58 ∧ word.head? ≠ some 32
  | 0, _ :: _, _ => False
  | slots + 1, word :: rest, trailing => needsColon word = false ∧ ReadBack slots rest trailing

/-- No words are read back as none. -/
@[simp] theorem readBack_nil (slots : Nat) (trailing : Option Bytes) :
    ReadBack slots [] trailing := by
  cases slots <;> trivial

/-- A word that needs no colon is nonempty and starts with neither a space nor a colon. -/
theorem needsColon_eq_false_iff {word : Bytes} :
    needsColon word = false ↔ word ≠ [] ∧ word.head? ≠ some 58 ∧ 32 ∉ word := by
  simp only [needsColon, Bool.or_eq_false_iff, List.isEmpty_eq_false_iff, beq_eq_false_iff_ne, ne_eq,
    List.contains_eq_mem, decide_eq_false_iff_not, and_assoc]

/-- What is left after the spaces is part of the input. -/
theorem skipSpaces_suffix (input : Bytes) : skipSpaces input <:+ input := List.dropWhile_suffix _

/-- With no slot left, one parameter is read at most. -/
theorem parseParametersFrom_zero_length (input : Bytes) :
    (parseParametersFrom 0 input).length ≤ 1 := (serializeParams_parse 0 input).1

/-- The parameters that are read take no more room than the input, with a space between them. -/
theorem parseParametersFrom_size (slots : Nat) (input : Bytes) :
    ((parseParametersFrom slots input).map List.length).sum +
      (parseParametersFrom slots input).length ≤ input.length + 1 := by
  induction slots generalizing input with
  | zero =>
      rw [parseParametersFrom]
      have shorter := (skipSpaces_suffix input).length_le
      cases skipped : skipSpaces input with
      | nil => simp
      | cons head tail =>
          rw [skipped, List.length_cons] at shorter
          dsimp only
          split
          all_goals
            simp only [List.map_singleton, List.sum_singleton, List.length_cons, List.length_nil]
            omega
  | succ slots inductionHypothesis =>
      rw [parseParametersFrom]
      have shorter := (skipSpaces_suffix input).length_le
      cases skipped : skipSpaces input with
      | nil => simp
      | cons head tail =>
          rw [skipped, List.length_cons] at shorter
          dsimp only
          split
          · simp only [List.map_singleton, List.sum_singleton, List.length_cons, List.length_nil]
            omega
          · cases cut : splitOnce 32 (head :: tail) with
            | none =>
                simp only [List.map_singleton, List.sum_singleton, List.length_cons,
                  List.length_nil]
                omega
            | some pieces =>
                obtain ⟨front, back⟩ := pieces
                obtain ⟨joined, -⟩ := splitOnce_eq_some_iff.mp cut
                have later := inductionHypothesis back
                have whole := congrArg List.length joined
                simp only [List.length_append, List.length_cons] at whole
                simp only [List.map_cons, List.sum_cons, List.length_cons]
                omega

/-- A word that is read before another parameter needs no colon. -/
theorem needsColon_of_parse {slots : Nat} {input word next : Bytes} {rest : List Bytes}
    (read : parseParametersFrom (slots + 1) input = word :: next :: rest) :
    needsColon word = false := by
  rw [parseParametersFrom] at read
  cases skipped : skipSpaces input with
  | nil => simp [skipped] at read
  | cons head tail =>
      have notSpace := (skipSpaces_cons skipped).1
      simp only [skipped] at read
      split at read
      · cases read
      · rename_i notColon
        cases cut : splitOnce 32 (head :: tail) with
        | none => simp [cut] at read
        | some pieces =>
            obtain ⟨front, back⟩ := pieces
            obtain ⟨joined, oneWord⟩ := splitOnce_eq_some_iff.mp cut
            rw [cut] at read
            obtain ⟨rfl, -⟩ := List.cons.inj read
            cases front with
            | nil => exact absurd (List.cons.inj joined).1 notSpace
            | cons first others =>
                obtain ⟨rfl, -⟩ := List.cons.inj joined
                exact needsColon_eq_false_iff.mpr ⟨by simp, by simpa using notColon, oneWord⟩

/-- The last word is read as it stands when no colon, and no space that would end it, is in it. -/
theorem parseParametersFrom_word_iff (slots : Nat) (word : Bytes) :
    parseParametersFrom slots word = [word] ↔ ReadBack slots [word] none := by
  have suffix := skipSpaces_suffix word
  constructor
  · intro read
    rw [parseParametersFrom] at read
    cases skipped : skipSpaces word with
    | nil => simp [skipped] at read
    | cons head tail =>
        have notSpace := (skipSpaces_cons skipped).1
        have shorter := suffix.length_le
        simp only [skipped, List.length_cons] at read shorter
        have whole (kept : head :: tail = word) (notColon : head ≠ 58) :
            word ≠ [] ∧ word.head? ≠ some 58 ∧ word.head? ≠ some 32 := by
          subst kept
          exact ⟨by simp, by simpa using notColon, by simpa using notSpace⟩
        cases slots with
        | zero =>
            dsimp only at read
            split at read
            · have same := congrArg List.length (List.cons.inj read).1
              omega
            · rename_i notColon
              exact whole (List.cons.inj read).1 notColon
        | succ slots =>
            dsimp only at read
            split at read
            · have same := congrArg List.length (List.cons.inj read).1
              omega
            · rename_i notColon
              cases cut : splitOnce 32 (head :: tail) with
              | none =>
                  rw [cut] at read
                  have kept := (List.cons.inj read).1
                  obtain ⟨nonempty, plain, -⟩ := whole kept notColon
                  exact ⟨needsColon_eq_false_iff.mpr
                    ⟨nonempty, plain, kept ▸ splitOnce_eq_none_iff.mp cut⟩, readBack_nil _ _⟩
              | some pieces =>
                  obtain ⟨front, back⟩ := pieces
                  obtain ⟨joined, -⟩ := splitOnce_eq_some_iff.mp cut
                  rw [cut] at read
                  have same := congrArg List.length (List.cons.inj read).1
                  have longer := congrArg List.length joined
                  simp only [List.length_append, List.length_cons] at longer
                  omega
  · intro readBack
    cases slots with
    | zero =>
        obtain ⟨nonempty, notColon, notSpace⟩ := readBack
        obtain ⟨head, tail, rfl⟩ := List.exists_cons_of_ne_nil nonempty
        simp only [List.head?_cons, ne_eq, Option.some.injEq] at notColon notSpace
        simp [parseParametersFrom, skipSpaces_of_head notSpace, notColon]
    | succ slots =>
        obtain ⟨nonempty, notColon, oneWord⟩ := needsColon_eq_false_iff.mp readBack.1
        obtain ⟨head, tail, rfl⟩ := List.exists_cons_of_ne_nil nonempty
        have notSpace : head ≠ 32 := by
          rintro rfl
          simp at oneWord
        simp only [List.head?_cons, ne_eq, Option.some.injEq] at notColon
        simp [parseParametersFrom, skipSpaces_of_head notSpace, notColon,
          splitOnce_eq_none_iff.mpr oneWord]

/-- A word that needs no colon is read off the rest of the line. -/
theorem parseParametersFrom_word_append {slots : Nat} {word : Bytes} (plain : needsColon word = false)
    (rest : Bytes) :
    parseParametersFrom (slots + 1) (word ++ 32 :: rest) = word :: parseParametersFrom slots rest := by
  obtain ⟨head, tail, rfl, notColon, oneWord⟩ := needsColon_eq_false plain
  have notSpace : head ≠ 32 := by
    rintro rfl
    simp at oneWord
  rw [parseParametersFrom, List.cons_append, skipSpaces_of_head notSpace]
  simp only [notColon, if_false]
  rw [← List.cons_append, splitOnce_append_cons oneWord]

/-- The arguments are read back exactly when each of them is one parameter. -/
theorem parseParametersFrom_text_iff (slots : Nat) (words : List Bytes) (trailing : Option Bytes) :
    parseParametersFrom slots (parameterText words trailing) = words ++ trailing.toList ↔
      ReadBack slots words trailing := by
  induction words generalizing slots with
  | nil =>
      cases trailing with
      | none => cases slots <;> simp [parameterText, parseParametersFrom, skipSpaces, ReadBack]
      | some trailing => cases slots <;> simp [parameterText, parseParametersFrom, skipSpaces, ReadBack]
  | cons word rest inductionHypothesis =>
      by_cases last : rest = [] ∧ trailing = none
      · obtain ⟨rfl, rfl⟩ := last
        exact parseParametersFrom_word_iff slots word
      · have text : parameterText (word :: rest) trailing =
            word ++ 32 :: parameterText rest trailing := by
          cases rest with
          | nil =>
              cases trailing with
              | none => exact absurd ⟨rfl, rfl⟩ last
              | some trailing => rfl
          | cons next rest => rfl
        obtain ⟨next, others, more⟩ : ∃ next others, rest ++ trailing.toList = next :: others := by
          refine List.exists_cons_of_ne_nil fun empty => last ?_
          obtain ⟨none, empty⟩ := List.append_eq_nil_iff.mp empty
          exact ⟨none, Option.toList_eq_nil_iff.mp empty⟩
        rw [text, List.cons_append]
        cases slots with
        | zero =>
            have refused : ¬ ReadBack 0 (word :: rest) trailing := by
              intro readBack
              cases rest with
              | nil =>
                  cases trailing with
                  | none => exact last ⟨rfl, rfl⟩
                  | some trailing => exact readBack
              | cons next rest => exact readBack
            refine iff_of_false (fun read => ?_) refused
            have few := parseParametersFrom_zero_length (word ++ 32 :: parameterText rest trailing)
            rw [read, more] at few
            simp at few
        | succ slots =>
            rw [ReadBack, ← inductionHypothesis slots]
            constructor
            · intro read
              have plain := needsColon_of_parse (more ▸ read)
              rw [parseParametersFrom_word_append plain] at read
              exact ⟨plain, (List.cons.inj read).2⟩
            · rintro ⟨plain, read⟩
              rw [parseParametersFrom_word_append plain, read]

/-- All parameters of a command are its arguments exactly when each of them is one parameter. -/
theorem parseParameters_text_iff (words : List Bytes) (trailing : Option Bytes) :
    parseParameters (parameterText words trailing) = words ++ trailing.toList ↔
      ReadBack (maxParameters - 1) words trailing :=
  parseParametersFrom_text_iff _ words trailing

/-- A word: nonempty, without a colon in front and without a space. -/
def isWord (word : String) : Bool :=
  word ≠ "" && !startsWithChar word ':' && !word.toList.contains ' '

theorem isWord_iff (word : String) :
    isWord word = true ↔ word ≠ "" ∧ word.toList.head? ≠ some ':' ∧ ' ' ∉ word.toList := by
  simp only [isWord, startsWithChar, Bool.and_eq_true, decide_eq_true_eq, Bool.not_eq_true',
    beq_eq_false_iff_ne, List.contains_eq_mem, decide_eq_false_iff_not, and_assoc]

/-- A word is what needs no colon. -/
theorem needsColon_utf8 (word : String) : needsColon (utf8 word) = !isWord word := by
  have empty : utf8 word = [] ↔ word = "" :=
    ⟨fun none => utf8_injective (none.trans utf8_empty.symm), fun none => none ▸ utf8_empty⟩
  have colon : (utf8 word).head? = some 58 ↔ word.toList.head? = some ':' :=
    utf8_head_iff (by decide)
  have space : 32 ∈ utf8 word ↔ ' ' ∈ word.toList := mem_utf8_iff (by decide)
  rw [Bool.eq_iff_iff, needsColon, isWord, startsWithChar]
  simp only [Bool.or_eq_true, List.isEmpty_iff, empty, beq_iff_eq, colon, List.contains_eq_mem,
    decide_eq_true_eq, space, ne_eq, Bool.not_and, Bool.not_not, decide_not]

/-- A command in capitals. -/
structure IsCommandName (command : String) : Prop where
  valid : isValidCommand (utf8 command) = true
  capitals : (utf8 command).map toAsciiUppercase = utf8 command

namespace IsCommandName

variable {command : String}

/-- A command name is one word. -/
theorem oneWord (named : IsCommandName command) : 32 ∉ utf8 command := fun present =>
  (isAsciiAlphanumeric_clean ((isValidCommand_bytes named.valid).2 32 present)).2.1 rfl

/-- The command is read off a written command, and its arguments are what is left. -/
theorem parseCommand_commandText (named : IsCommandName command) (words : List Bytes)
    (trailing : Option Bytes) :
    parseCommand (commandText command words trailing) =
      .ok (command, parseParameters (parameterText words trailing)) := by
  obtain ⟨⟨first, rest, shape⟩, -⟩ := isValidCommand_bytes named.valid
  rw [commandText]
  split
  · rename_i bare
    obtain ⟨rfl, rfl⟩ := bare
    rw [List.append_nil, parseCommand, if_neg (by simp [shape]),
      splitOnce_eq_none_iff.mpr named.oneWord]
    simp only [named.valid, named.capitals, fromUtf8?_utf8]
    rfl
  · rw [parseCommand, if_neg (by simp), splitOnce_append_cons named.oneWord]
    simp [named.valid, named.capitals]

/-- A written command starts with neither a tag section nor a source. -/
theorem commandText_head (named : IsCommandName command) (words : List Bytes)
    (trailing : Option Bytes) :
    ∃ first rest, commandText command words trailing = first :: rest ∧ first ≠ 32 ∧
      first ≠ 58 ∧ first ≠ 64 := by
  obtain ⟨⟨first, rest, shape⟩, bytes⟩ := isValidCommand_bytes named.valid
  obtain ⟨-, notSpace, sourceless, untagged, -⟩ :=
    isAsciiAlphanumeric_clean (bytes first (by simp [shape]))
  exact ⟨first, _, by rw [commandText, shape, List.cons_append], notSpace, sourceless, untagged⟩

/-- A written command is read as that command and what its arguments are read as. -/
theorem parse_commandText (named : IsCommandName command) {words : List Bytes}
    {trailing : Option Bytes} (clean : containsForbidden (commandText command words trailing) = false) :
    parse (commandText command words trailing) =
      .ok ⟨[], none, command, parseParameters (parameterText words trailing)⟩ := by
  have read := named.parseCommand_commandText words trailing
  obtain ⟨first, rest, shape, -, sourceless, untagged⟩ := named.commandText_head words trailing
  rw [shape] at clean read ⊢
  rw [parse, if_neg (by simp), if_neg (ne_true_of_eq_false clean)]
  simp only [parseTagSection, parseSource, List.head?_cons, Option.some.injEq, untagged, sourceless,
    if_false, bind, Except.bind, read]

end IsCommandName

end Omairc.Irc
