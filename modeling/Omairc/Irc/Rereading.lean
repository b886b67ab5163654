import Omairc.Irc.Redaction

/-!
# Lines that are read again

A command is written with its last parameter behind a mark where that is needed, and the line is
read back to the same command, unless the last parameter is written bare and holds a tab. Then
it is read as more than one parameter, and the tab is lost.
-/

namespace Omairc.Irc

open Omairc.Text

/-! ## Words of a line -/

/-- A word that is read as one parameter, and not as the last one. -/
def IsMiddle (word : List Char) : Prop :=
  word ≠ [] ∧ word.head? ≠ some ':' ∧ ∀ char ∈ word, isFieldSpace char = false

instance (word : List Char) : Decidable (IsMiddle word) :=
  haveI := List.decidableBAll (fun char => isFieldSpace char = false) word
  inferInstanceAs (Decidable (_ ∧ _ ∧ _))

theorem fieldBreak_append {word : List Char} (clean : ∀ char ∈ word, isFieldSpace char = false)
    {space : Char} (blank : isFieldSpace space = true) (rest : List Char) :
    fieldBreak (word ++ space :: rest) = some word.length := by
  rw [fieldBreak, List.findIdx?_append, List.findIdx?_eq_none_iff.mpr clean, List.findIdx?_cons,
    if_pos blank]
  simp

theorem fieldBreak_eq_none {word : List Char} (clean : ∀ char ∈ word, isFieldSpace char = false) :
    fieldBreak word = none := List.findIdx?_eq_none_iff.mpr clean

/-- What stands before and behind the first field space. -/
theorem split_append (word : List Char) (space : Char) (rest : List Char) :
    (word ++ space :: rest).take word.length = word ∧
      (word ++ space :: rest).drop (word.length + 1) = rest := by
  constructor
  · exact List.take_left
  · rw [List.append_cons]
    exact List.drop_left' (by simp)

/-- A text up to its first field space, and from there on. -/
theorem fieldBreak_eq_some {text : List Char} {stop : Nat} (found : fieldBreak text = some stop) :
    ∃ space, isFieldSpace space = true ∧ (∀ char ∈ text.take stop, isFieldSpace char = false) ∧
      text = text.take stop ++ space :: text.drop (stop + 1) := by
  obtain ⟨inside, blank, before⟩ := List.findIdx?_eq_some_iff_getElem.mp found
  refine ⟨text[stop], blank, ?_, ?_⟩
  · intro char present
    obtain ⟨index, bound, rfl⟩ := List.mem_take_iff_getElem.mp present
    have early : index < stop := by omega
    simpa using before index early
  · rw [List.getElem_cons_drop, List.take_append_drop]

theorem skipFieldSpaces_of_head {text : List Char} (begins : text.head?.any isFieldSpace = false) :
    skipFieldSpaces text = text := by
  cases text with
  | nil => rfl
  | cons char rest => exact List.dropWhile_cons_of_neg (Bool.eq_false_iff.mp begins)

theorem skipFieldSpaces_append {gap : List Char} (blank : ∀ char ∈ gap, isFieldSpace char = true)
    (rest : List Char) : skipFieldSpaces (gap ++ rest) = skipFieldSpaces rest :=
  List.dropWhile_append_of_pos blank

/-- What is left begins with no field space. -/
theorem head_skipFieldSpaces (text : List Char) :
    (skipFieldSpaces text).head?.any isFieldSpace = false := by
  cases left : skipFieldSpaces text with
  | nil => rfl
  | cons char rest =>
      have begins := List.head?_dropWhile_not isFieldSpace text
      rw [show text.dropWhile isFieldSpace = char :: rest from left] at begins
      exact begins

namespace IsMiddle

variable {word : List Char}

theorem head (middle : IsMiddle word) (rest : List Char) :
    (word ++ rest).head?.any isFieldSpace = false := by
  obtain ⟨full, -, clean⟩ := middle
  cases word with
  | nil => exact absurd rfl full
  | cons char more => exact clean char List.mem_cons_self

/-- A word in front of a gap is the first parameter. -/
theorem read (middle : IsMiddle word) {gap : List Char} (spaces : IsGap gap) (rest : List Char) :
    parametersOf (word ++ (gap ++ rest)) =
      String.ofList word :: parametersOf (skipFieldSpaces rest) := by
  obtain ⟨full, unmarked, clean⟩ := middle
  obtain ⟨wide, blank⟩ := spaces
  cases word with
  | nil => exact absurd rfl full
  | cons first more =>
      cases gap with
      | nil => exact absurd rfl wide
      | cons space gap =>
          have begins : ¬ first = ':' := fun mark => unmarked (congrArg some mark)
          have broken := fieldBreak_append clean (blank space List.mem_cons_self) (gap ++ rest)
          obtain ⟨left, right⟩ := split_append (first :: more) space (gap ++ rest)
          rw [List.cons_append] at broken left right ⊢
          rw [Irc.parametersOf, if_neg begins, List.cons_append, broken]
          dsimp only
          rw [left, right, skipFieldSpaces_append fun char present =>
            blank char (List.mem_cons_of_mem _ present)]

/-- A word alone is one parameter. -/
theorem read_alone (middle : IsMiddle word) :
    parametersOf word = [String.ofList word] := by
  obtain ⟨full, unmarked, clean⟩ := middle
  cases word with
  | nil => exact absurd rfl full
  | cons first more =>
      have begins : ¬ first = ':' := fun mark => unmarked (congrArg some mark)
      rw [parametersOf, if_neg begins, fieldBreak_eq_none clean]

end IsMiddle

/-- All parameters but the last one are words. -/
theorem middle_of_mem_dropLast {rest : List Char} (begins : rest.head?.any isFieldSpace = false) :
    ∀ parameter ∈ (parametersOf rest).dropLast, IsMiddle parameter.toList := by
  induction rest using parametersOf.induct with
  | case1 =>
      rw [parametersOf]
      exact nofun
  | case2 others =>
      rw [parametersOf, if_pos rfl]
      exact nofun
  | case3 first others unmarked stop found inductionHypothesis =>
      rw [parametersOf, if_neg unmarked, found]
      dsimp only
      obtain ⟨space, blank, clean, text⟩ := fieldBreak_eq_some found
      intro parameter listed
      cases behind : parametersOf (skipFieldSpaces ((first :: others).drop (stop + 1))) with
      | nil =>
          rw [behind] at listed
          cases listed
      | cons next more =>
          rw [behind, List.dropLast_cons_of_ne_nil (List.cons_ne_nil _ _)] at listed
          rcases List.mem_cons.mp listed with rfl | later
          · rw [String.toList_ofList]
            cases stop with
            | zero =>
                rw [List.take_zero, List.nil_append] at text
                have here := (List.cons.inj text).1
                subst here
                rw [List.head?_cons, Option.any_some, blank] at begins
                cases begins
            | succ stop =>
                refine ⟨?_, ?_, clean⟩
                · rw [List.take_succ_cons]
                  exact List.cons_ne_nil _ _
                · rw [List.take_succ_cons]
                  exact fun mark => unmarked (Option.some.inj mark)
          · refine inductionHypothesis (head_skipFieldSpaces _) parameter ?_
            rw [behind]
            exact later
  | case4 first others unmarked whole =>
      rw [parametersOf, if_neg unmarked, whole]
      exact nofun

/-! ## The text of a command -/

/-- Whether the last parameter needs its mark. -/
def needsMark (trailing : String) : Bool :=
  trailing = "" || trailing.toList.head? = some ':' || trailing.toList.contains ' '

/-- The parameters of a command as they are written. -/
def parametersText : List String → List Char
  | [] => []
  | [trailing] => if needsMark trailing then ':' :: trailing.toList else trailing.toList
  | first :: second :: rest => first.toList ++ ' ' :: parametersText (second :: rest)

/-- One parameter more in front. -/
theorem parametersText_cons (first : String) {others : List String} (full : others ≠ []) :
    parametersText (first :: others) = first.toList ++ ' ' :: parametersText others := by
  cases others with
  | nil => exact absurd rfl full
  | cons second rest => rfl

theorem trailingSeparator_eq (trailing : String) :
    trailingSeparator trailing = if needsMark trailing then " :" else " " := rfl

/-- The words in front of the last parameter, and the last parameter. -/
theorem parametersText_concat (words : List String) (trailing : String) :
    ' ' :: parametersText (words ++ [trailing]) =
      (if words.isEmpty then "" else " " ++ joinTexts " " words).toList ++
        ((trailingSeparator trailing).toList ++ trailing.toList) := by
  induction words with
  | nil =>
      rw [List.nil_append, parametersText, trailingSeparator_eq]
      split
      all_goals rfl
  | cons first words inductionHypothesis =>
      rw [List.cons_append, parametersText_cons first (by simp), inductionHypothesis]
      cases words with
      | nil => simp [joinTexts_single]
      | cons second rest =>
          simp [joinTexts, List.intercalate]

/-- The text of a command: its verb, and its parameters. -/
theorem toList_formatLine {command : WireCommand} (full : command.parameters ≠ []) :
    (formatLine command).toList = command.verb.toList ++ ' ' :: parametersText command.parameters := by
  obtain ⟨verb, parameters⟩ := command
  obtain ⟨words, trailing, rfl⟩ := (List.eq_nil_or_concat' parameters).resolve_left full
  rw [formatLine]
  dsimp only
  rw [List.getLast?_concat, parametersText_concat]
  dsimp only
  rw [List.dropLast_concat, String.toList_append, String.toList_append, String.toList_append,
    List.append_assoc, List.append_assoc]

/-! ## Reading back -/

/-- A last parameter that is read back whole: one that needs its mark, or has no tab. -/
def IsWhole (trailing : String) : Prop := needsMark trailing = true ∨ '\t' ∉ trailing.toList

/-- Parameters that are read back. -/
def AreReadable (parameters : List String) : Prop :=
  (∀ parameter ∈ parameters.dropLast, IsMiddle parameter.toList) ∧
    ∀ trailing ∈ parameters.getLast?, IsWhole trailing

/-- What needs no mark is not empty, and has no mark and no space. -/
theorem needsMark_eq_false {trailing : String} :
    needsMark trailing = false ↔
      trailing ≠ "" ∧ trailing.toList.head? ≠ some ':' ∧ ' ' ∉ trailing.toList := by
  rw [needsMark, Bool.or_eq_false_iff, Bool.or_eq_false_iff, decide_eq_false_iff_not,
    decide_eq_false_iff_not, and_assoc, List.contains_eq_mem, decide_eq_false_iff_not]

/-- A last parameter that needs no mark and has no tab is a word. -/
theorem IsMiddle.of_bare {trailing : String} (bare : needsMark trailing = false)
    (tabless : '\t' ∉ trailing.toList) : IsMiddle trailing.toList := by
  obtain ⟨full, unmarked, spaceless⟩ := needsMark_eq_false.mp bare
  refine ⟨fun empty => full (String.toList_eq_nil_iff.mp empty), unmarked, ?_⟩
  intro char present
  rw [isFieldSpace, Bool.or_eq_false_iff, beq_eq_false_iff_ne, beq_eq_false_iff_ne]
  constructor
  · rintro rfl
    exact spaceless present
  · rintro rfl
    exact tabless present

/-- Parameters are read back behind the words in front of them. -/
theorem parametersOf_words {words : List String}
    (middle : ∀ word ∈ words, IsMiddle word.toList) (trailing : String) :
    parametersOf (skipFieldSpaces (parametersText (words ++ [trailing]))) =
      words ++ parametersOf (skipFieldSpaces (parametersText [trailing])) := by
  induction words with
  | nil => rfl
  | cons first words inductionHypothesis =>
      have first' := middle first List.mem_cons_self
      have gap : IsGap [' '] := by
        refine ⟨List.cons_ne_nil _ _, ?_⟩
        intro char present
        rw [List.mem_singleton.mp present]
        rfl
      rw [List.cons_append, parametersText_cons first (by simp),
        skipFieldSpaces_of_head (first'.head _)]
      refine (first'.read gap _).trans ?_
      rw [String.ofList_toList, inductionHypothesis fun word listed =>
        middle word (List.mem_cons_of_mem _ listed)]
      rfl

/-- A last parameter is read back whole. -/
theorem IsWhole.read {trailing : String} (whole : IsWhole trailing) :
    parametersOf (skipFieldSpaces (parametersText [trailing])) = [trailing] := by
  rw [parametersText]
  cases bare : needsMark trailing with
  | true =>
      rw [if_pos rfl, skipFieldSpaces_of_head (by rfl), parametersOf, if_pos rfl,
        String.ofList_toList]
  | false =>
      have tabless := whole.resolve_left (Bool.eq_false_iff.mp bare)
      have middle := IsMiddle.of_bare bare tabless
      have begins := middle.head []
      rw [List.append_nil] at begins
      rw [if_neg Bool.false_ne_true, skipFieldSpaces_of_head begins, middle.read_alone,
        String.ofList_toList]

/-- Parameters that can be read back are. -/
theorem AreReadable.read {parameters : List String} (readable : AreReadable parameters)
    (full : parameters ≠ []) :
    parametersOf (skipFieldSpaces (parametersText parameters)) = parameters := by
  obtain ⟨words, trailing, rfl⟩ := (List.eq_nil_or_concat' parameters).resolve_left full
  obtain ⟨middle, whole⟩ := readable
  rw [List.dropLast_concat] at middle
  rw [List.getLast?_concat] at whole
  rw [parametersOf_words middle, (whole trailing rfl).read]

/-! ## The verb -/

section Verb

variable [Platform]

/-- Upper casing of the ASCII characters. -/
def UppercaseLaw : Prop :=
  ∀ char : Char, char.toNat < 128 →
    Platform.toUppercase (String.singleton char) = String.singleton char.toUpper

/-- A text of capitals, digits and the like stays as it is. -/
theorem UppercaseLaw.simpleUpper (law : UppercaseLaw) {text : String}
    (capitals : ∀ char ∈ text.toList, char.toNat < 128 ∧ char.toUpper = char) :
    simpleUpper text = text := by
  rw [Irc.simpleUpper]
  refine String.toList_injective ?_
  rw [String.toList_ofList]
  conv_rhs => rw [← List.map_id text.toList]
  refine List.map_congr_left ?_
  intro char present
  obtain ⟨ascii, capital⟩ := capitals char present
  rw [law char ascii, capital, String.toList_singleton]
  rfl

/-- Capitals are as many as there are characters. -/
theorem simpleUpper_ne_empty {text : String} (full : text ≠ "") : simpleUpper text ≠ "" := by
  intro empty
  refine full (String.toList_eq_nil_iff.mp ?_)
  rw [simpleUpper, ← String.toList_eq_nil_iff, String.toList_ofList] at empty
  exact List.map_eq_nil_iff.mp empty

omit [Platform] in
/-- A line with neither tags nor a source. -/
theorem fromVerb_bare {text : List Char} {first : Char} (begins : text.head? = some first)
    (solid : isFieldSpace first = false) (untagged : first ≠ '@') (unsourced : first ≠ ':') :
    fromVerb text = some text := by
  have kept : skipFieldSpaces text = text := by
    refine skipFieldSpaces_of_head ?_
    rw [begins]
    exact solid
  have full : ¬ text.isEmpty = true := by
    cases text with
    | nil => cases begins
    | cons char rest => exact Bool.false_ne_true
  have untagged' : ¬ text.head? = some '@' := by
    rw [begins]
    exact fun tag => untagged (Option.some.inj tag)
  have unsourced' : ¬ text.head? = some ':' := by
    rw [begins]
    exact fun source => unsourced (Option.some.inj source)
  rw [fromVerb, kept]
  dsimp only
  rw [if_neg full, if_neg untagged']
  exact if_neg unsourced'

/-- The verb of a line, and its parameters behind it. -/
theorem tokenize_verb {line : String} {verb tail : List Char}
    (text : fromVerb line.toList = some (verb ++ tail)) (full : verb ≠ [])
    (clean : ∀ char ∈ verb, isFieldSpace char = false)
    (apart : ∀ char ∈ tail.head?, isFieldSpace char = true) :
    tokenize line =
      some ⟨simpleUpper (String.ofList verb), parametersOf (skipFieldSpaces tail)⟩ := by
  have upper : simpleUpper (String.ofList verb) ≠ "" := by
    refine simpleUpper_ne_empty ?_
    rw [Ne, ← String.toList_eq_nil_iff, String.toList_ofList]
    exact full
  rw [tokenize, text]
  dsimp only
  cases tail with
  | nil =>
      rw [List.append_nil, fieldBreak_eq_none clean]
      exact if_neg upper
  | cons space rest =>
      have blank := apart space rfl
      obtain ⟨left, right⟩ := split_append verb space rest
      simp only [fieldBreak_append clean blank, left, right, if_neg upper]
      rw [skipFieldSpaces, skipFieldSpaces, List.dropWhile_cons_of_pos blank]

omit [Platform] in
/-- A word in front of a gap is dropped, and the gap with it. -/
theorem dropLeadingWord_gap {word gap rest : List Char}
    (clean : ∀ char ∈ word, isFieldSpace char = false) (spaces : IsGap gap)
    (begins : rest.head?.any (fun char => !isFieldSpace char) = true) :
    dropLeadingWord (word ++ (gap ++ rest)) = some rest := by
  obtain ⟨wide, blank⟩ := spaces
  cases gap with
  | nil => exact absurd rfl wide
  | cons space gap =>
      cases rest with
      | nil => cases begins
      | cons first more =>
          have kept : skipFieldSpaces (first :: more) = first :: more :=
            skipFieldSpaces_of_head (by simpa using begins)
          obtain ⟨-, right⟩ := split_append word space (gap ++ first :: more)
          rw [List.cons_append, dropLeadingWord,
            fieldBreak_append clean (blank space List.mem_cons_self)]
          dsimp only
          rw [right, skipFieldSpaces_append fun char present =>
            blank char (List.mem_cons_of_mem _ present), kept]
          rfl

/-- A word behind some mark, and a gap: the tags or the source of a line. Or nothing. -/
def IsLead (mark : Char) (lead : List Char) : Prop :=
  lead = [] ∨ ∃ word gap, lead = mark :: word ++ gap ∧
    (∀ char ∈ word, isFieldSpace char = false) ∧ IsGap gap

omit [Platform] in
/-- A lead is dropped. -/
theorem IsLead.dropped {mark : Char} {lead rest : List Char} (leads : IsLead mark lead)
    (solid : isFieldSpace mark = false)
    (begins : rest.head?.any (fun char => !isFieldSpace char) = true)
    (unmarked : rest.head? ≠ some mark) :
    (if (lead ++ rest).head? = some mark then dropLeadingWord (lead ++ rest)
      else some (lead ++ rest)) = some rest := by
  rcases leads with rfl | ⟨word, gap, rfl, clean, spaces⟩
  · exact if_neg unmarked
  · have clean' (char : Char) (present : char ∈ mark :: word) : isFieldSpace char = false := by
      rcases List.mem_cons.mp present with rfl | later
      · exact solid
      · exact clean char later
    rw [List.append_assoc]
    exact (if_pos rfl).trans (dropLeadingWord_gap clean' spaces begins)

/-- The parameters of a line as they are spelled: words behind gaps, and the last one behind a mark
or not. -/
inductive Spells : List Char → List String → Prop
  | nothing (gap : List Char) (blank : ∀ char ∈ gap, isFieldSpace char = true) : Spells gap []
  | trailing (gap text : List Char) (spaces : IsGap gap) :
      Spells (gap ++ ':' :: text) [String.ofList text]
  | word (gap word rest : List Char) (parameters : List String) (spaces : IsGap gap)
      (middle : IsMiddle word) (spelled : Spells rest parameters) :
      Spells (gap ++ (word ++ rest)) (String.ofList word :: parameters)

omit [Platform] in
/-- Spelled parameters are apart from what stands in front, and read back. -/
theorem Spells.read {text : List Char} {parameters : List String}
    (spelled : Spells text parameters) :
    (∀ char ∈ text.head?, isFieldSpace char = true) ∧
      parametersOf (skipFieldSpaces text) = parameters := by
  have apart {gap : List Char} (spaces : IsGap gap) (rest : List Char) (char : Char)
      (present : char ∈ (gap ++ rest).head?) : isFieldSpace char = true := by
    rw [List.head?_append_of_ne_nil _ spaces.1] at present
    exact spaces.2 char (List.mem_of_mem_head? present)
  induction spelled with
  | nothing gap blank =>
      refine ⟨fun char present => blank char (List.mem_of_mem_head? present), ?_⟩
      have left := skipFieldSpaces_append blank []
      rw [List.append_nil] at left
      rw [left, skipFieldSpaces, List.dropWhile_nil, parametersOf]
  | trailing gap text spaces =>
      refine ⟨apart spaces _, ?_⟩
      rw [skipFieldSpaces_append spaces.2, skipFieldSpaces_of_head (by rfl), parametersOf,
        if_pos rfl]
  | word gap word rest parameters spaces middle spelled inductionHypothesis =>
      refine ⟨apart spaces _, ?_⟩
      obtain ⟨behind, read⟩ := inductionHypothesis
      rw [skipFieldSpaces_append spaces.2, skipFieldSpaces_of_head (middle.head _)]
      cases rest with
      | nil =>
          rw [List.append_nil, middle.read_alone, ← read, skipFieldSpaces, List.dropWhile_nil,
            parametersOf]
      | cons space rest =>
          have gap : IsGap [space] := by
            refine ⟨List.cons_ne_nil _ _, ?_⟩
            intro char present
            rw [List.mem_singleton.mp present]
            exact behind space rfl
          refine (middle.read gap rest).trans ?_
          rw [← read, skipFieldSpaces, skipFieldSpaces,
            List.dropWhile_cons_of_pos (behind space rfl)]

/-- A line that spells a command: spaces, tags and a source in front of the verb, and the parameters
behind it. -/
def SpellsLine (line : String) (command : WireCommand) : Prop :=
  ∃ gap tags source verb tail : List Char,
    line.toList = gap ++ (tags ++ (source ++ (verb ++ tail))) ∧
      (∀ char ∈ gap, isFieldSpace char = true) ∧ IsLead '@' tags ∧ IsLead ':' source ∧
      IsMiddle verb ∧ verb.head? ≠ some '@' ∧
      simpleUpper (String.ofList verb) = command.verb ∧ Spells tail command.parameters

/-- A line is read as the command that it spells. -/
theorem SpellsLine.tokenize {line : String} {command : WireCommand}
    (spelled : SpellsLine line command) : tokenize line = some command := by
  obtain ⟨gap, tags, source, verb, tail, text, blank, tagged, sourced, middle, untagged, upper,
    parameters⟩ := spelled
  obtain ⟨apart, read⟩ := parameters.read
  obtain ⟨full, unsourced, clean⟩ := middle
  obtain ⟨first, more, rfl⟩ := List.exists_cons_of_ne_nil full
  have solid : isFieldSpace first = false := clean first List.mem_cons_self
  have begins : (first :: more ++ tail).head?.any (fun char => !isFieldSpace char) = true := by
    simp [solid]
  have unsourced' : (first :: more ++ tail).head? ≠ some ':' := unsourced
  have begins' : (source ++ (first :: more ++ tail)).head?.any (fun char => !isFieldSpace char) =
      true := by
    rcases sourced with rfl | ⟨word, gap, rfl, -, -⟩
    · exact begins
    · rfl
  have untagged' : (source ++ (first :: more ++ tail)).head? ≠ some '@' := by
    rcases sourced with rfl | ⟨word, gap, rfl, -, -⟩
    · exact untagged
    · exact fun mark => absurd (Option.some.inj mark) (by decide)
  have begins'' : (tags ++ (source ++ (first :: more ++ tail))).head?.any
      (fun char => !isFieldSpace char) = true := by
    rcases tagged with rfl | ⟨word, gap, rfl, -, -⟩
    · exact begins'
    · rfl
  have kept : skipFieldSpaces line.toList = tags ++ (source ++ (first :: more ++ tail)) := by
    rw [text, skipFieldSpaces_append blank]
    refine skipFieldSpaces_of_head ?_
    cases shape : (tags ++ (source ++ (first :: more ++ tail))).head? with
    | none => rfl
    | some char =>
        rw [shape] at begins''
        simpa using begins''
  have nonempty : ¬ (tags ++ (source ++ (first :: more ++ tail))).isEmpty = true := by
    simp
  have command : fromVerb line.toList = some (first :: more ++ tail) := by
    rw [fromVerb, kept]
    dsimp only
    have behind := tagged.dropped rfl begins' untagged'
    rw [if_neg nonempty]
    split at behind
    · rename_i marked
      rw [if_pos marked, behind]
      exact sourced.dropped rfl begins unsourced'
    · rename_i bare
      rw [if_neg bare, behind]
      exact sourced.dropped rfl begins unsourced'
  rw [tokenize_verb command full clean apart, upper, read]

/-- A verb of the table is read as it is written. -/
theorem tokenize_rule (law : UppercaseLaw) {rule : SecretRule} (listed : rule ∈ secretMap)
    {line : String} {rest : List Char} (text : line.toList = rule.verb.toList ++ ' ' :: rest) :
    tokenize line = some ⟨rule.verb, parametersOf (skipFieldSpaces rest)⟩ := by
  have all : ∀ rule ∈ secretMap, rule.verb.toList ≠ [] ∧
      rule.verb.toList.head?.all (fun char => char ≠ '@' ∧ char ≠ ':') = true ∧
      rule.verb.toList.all (fun char =>
        isFieldSpace char = false ∧ char.toNat < 128 ∧ char.toUpper = char) = true := by
    decide
  obtain ⟨full, bare, capitals⟩ := all rule listed
  simp only [Option.all_eq_true, List.all_eq_true, decide_eq_true_eq] at bare capitals
  have clean (char : Char) (present : char ∈ rule.verb.toList) : isFieldSpace char = false :=
    (capitals char present).1
  obtain ⟨first, more, shape⟩ := List.exists_cons_of_ne_nil full
  have begins : line.toList.head? = some first := by
    rw [text, shape]
    rfl
  have here : first ∈ rule.verb.toList := shape ▸ List.mem_cons_self
  obtain ⟨untagged, unsourced⟩ := bare first (by rw [shape]; rfl)
  have command := fromVerb_bare begins (clean first here) untagged unsourced
  have apart (char : Char) (present : char ∈ (' ' :: rest).head?) : isFieldSpace char = true := by
    rw [← Option.some.inj present]
    rfl
  rw [text] at command
  rw [tokenize_verb (text ▸ command) full clean apart, String.ofList_toList,
    law.simpleUpper fun char present => (capitals char present).2]
  rfl

end Verb

/-! ## Tabs -/

/-- The tabs of some parameters. -/
def tabsOf (parameters : List String) : Nat :=
  (parameters.map fun parameter => parameter.toList.count '\t').sum

theorem tabsOf_cons (first : String) (others : List String) :
    tabsOf (first :: others) = first.toList.count '\t' + tabsOf others := by
  rw [tabsOf, List.map_cons, List.sum_cons]
  rfl

theorem tabsOf_append (left right : List String) :
    tabsOf (left ++ right) = tabsOf left + tabsOf right := by
  rw [tabsOf, List.map_append, List.sum_append]
  rfl

/-- The parameters of a text have no more tabs than the text. -/
theorem tabsOf_parametersOf_le (text : List Char) :
    tabsOf (parametersOf text) ≤ text.count '\t' := by
  induction text using parametersOf.induct with
  | case1 =>
      rw [parametersOf]
      exact Nat.zero_le _
  | case2 others =>
      rw [parametersOf, if_pos rfl, tabsOf_cons, String.toList_ofList]
      exact List.count_le_count_cons
  | case3 first others unmarked stop found inductionHypothesis =>
      obtain ⟨space, -, -, whole⟩ := fieldBreak_eq_some found
      have tabs := congrArg (List.count '\t') whole
      rw [List.count_append] at tabs
      have more : ((first :: others).drop (stop + 1)).count '\t' ≤
          (space :: (first :: others).drop (stop + 1)).count '\t' := List.count_le_count_cons
      have behind : (skipFieldSpaces ((first :: others).drop (stop + 1))).count '\t' ≤
          ((first :: others).drop (stop + 1)).count '\t' :=
        (List.dropWhile_sublist _).count_le _
      rw [parametersOf, if_neg unmarked, found]
      dsimp only
      rw [tabsOf_cons, String.toList_ofList]
      omega
  | case4 first others unmarked whole =>
      rw [parametersOf, if_neg unmarked, whole]
      dsimp only
      rw [tabsOf_cons, String.toList_ofList]
      exact le_rfl

/-- A bare text with a tab loses one when it is read. -/
theorem tabsOf_parametersOf_lt {trailing : String} (bare : needsMark trailing = false)
    (tab : '\t' ∈ trailing.toList) :
    tabsOf (parametersOf (skipFieldSpaces trailing.toList)) < trailing.toList.count '\t' := by
  obtain ⟨full, unmarked, spaceless⟩ := needsMark_eq_false.mp bare
  -- A field space of this text is a tab.
  have isTab (char : Char) (present : char ∈ trailing.toList)
      (blank : isFieldSpace char = true) : char = '\t' := by
    rw [isFieldSpace, Bool.or_eq_true, beq_iff_eq, beq_iff_eq] at blank
    exact blank.resolve_left fun space => spaceless (space ▸ present)
  cases shape : trailing.toList with
  | nil => exact absurd (String.toList_eq_nil_iff.mp shape) full
  | cons first others =>
      rw [shape] at unmarked isTab tab
      cases blank : isFieldSpace first with
      | true =>
          have here := isTab first List.mem_cons_self blank
          have read := tabsOf_parametersOf_le (skipFieldSpaces others)
          have behind : (skipFieldSpaces others).count '\t' ≤ others.count '\t' :=
            (List.dropWhile_sublist _).count_le _
          rw [skipFieldSpaces, List.dropWhile_cons_of_pos blank, here, List.count_cons_self]
          exact Nat.lt_succ_of_le (read.trans behind)
      | false =>
          have kept : skipFieldSpaces (first :: others) = first :: others :=
            skipFieldSpaces_of_head blank
          rw [kept]
          cases found : fieldBreak (first :: others) with
          | none =>
              have clean := List.findIdx?_eq_none_iff.mp found '\t' tab
              cases clean
          | some stop =>
              obtain ⟨space, isSpace, -, whole⟩ := fieldBreak_eq_some found
              have present : space ∈ first :: others := by
                rw [whole]
                exact List.mem_append_right _ List.mem_cons_self
              have tabs := congrArg (List.count '\t') whole
              rw [List.count_append, isTab space present isSpace, List.count_cons_self] at tabs
              have behind : (skipFieldSpaces ((first :: others).drop (stop + 1))).count '\t' ≤
                  ((first :: others).drop (stop + 1)).count '\t' :=
                (List.dropWhile_sublist _).count_le _
              have read := tabsOf_parametersOf_le
                (skipFieldSpaces ((first :: others).drop (stop + 1)))
              have begins : ¬ first = ':' := fun mark => unmarked (congrArg some mark)
              rw [parametersOf, if_neg begins, found]
              dsimp only
              rw [tabsOf_cons, String.toList_ofList]
              omega

/-- The text of parameters has their tabs. -/
theorem count_parametersText (parameters : List String) :
    (parametersText parameters).count '\t' = tabsOf parameters := by
  induction parameters with
  | nil => rfl
  | cons first others inductionHypothesis =>
      rw [tabsOf_cons, ← inductionHypothesis]
      cases others with
      | nil =>
          show (if needsMark first then ':' :: first.toList else first.toList).count '\t' = _
          split
          · exact List.count_cons_of_ne (by decide)
          · rfl
      | cons second rest =>
          rw [parametersText_cons first (List.cons_ne_nil _ _), List.count_append,
            List.count_cons_of_ne (by decide)]

/-- Stars add no tab. -/
theorem tabsOf_starsAt_le (positions : List Nat) (parameters : List String) :
    tabsOf (starsAt positions parameters) ≤ tabsOf parameters := by
  have one (position : Nat) (parameters : List String) :
      tabsOf (parameters.set position secretStars) ≤ tabsOf parameters := by
    induction parameters generalizing position with
    | nil => exact le_rfl
    | cons first others inductionHypothesis =>
        cases position with
        | zero =>
            rw [List.set_cons_zero, tabsOf_cons, tabsOf_cons]
            exact Nat.add_le_add_right (Nat.zero_le _) _
        | succ position =>
            rw [List.set_cons_succ, tabsOf_cons, tabsOf_cons]
            exact Nat.add_le_add_left (inductionHypothesis position) _
  induction positions generalizing parameters with
  | nil => rw [starsAt_beyond fun _ listed => absurd listed List.not_mem_nil]
  | cons position positions inductionHypothesis =>
      rw [starsAt_cons]
      exact (inductionHypothesis _).trans (one position parameters)

end Omairc.Irc
