import Omairc.Irc.Rereading
import Omairc.Session.Reference

/-!
# Redacted lines

What redaction shows of a line does not depend on its secrets, and is masked again as it is, but for
a mode line whose last parameter is shown and is read as two.
-/

namespace Omairc.Irc

open Omairc.Text

section Redaction

variable [Platform]

/-! ## Words of a service -/

omit [Platform] in
/-- The word that is near is one of the candidates. -/
theorem nearestWithin_mem {word : List Char} {candidates : List String} {near : String}
    (found : nearestWithin word candidates = some near) : near ∈ candidates := by
  have walk (rest : List String) (best : Option String × Nat)
      (known : ∀ near ∈ best.1, near ∈ candidates) (listed : ∀ word ∈ rest, word ∈ candidates) :
      ∀ near ∈ (rest.foldl (fun best candidate =>
        let distance := letterDistance word candidate.toList
        if distance < best.2 then (some candidate, distance)
        else if distance = best.2 then (none, best.2)
        else best) best).1, near ∈ candidates := by
    induction rest generalizing best with
    | nil => exact known
    | cons candidate rest inductionHypothesis =>
        refine inductionHypothesis _ ?_ fun word here => listed word (List.mem_cons_of_mem _ here)
        dsimp only
        split
        · rintro near ⟨⟩
          exact listed _ List.mem_cons_self
        · split
          · rintro near ⟨⟩
          · exact known
  rw [nearestWithin] at found
  dsimp only at found
  split at found
  · exact walk candidates (none, 2) (by rintro near ⟨⟩) (fun _ here => here) near found
  · cases found

/-- The password commands as they are shown. -/
def shownCommands : List String := "SET PASSWORD" :: servicePasswordCommands

/-- What matches is one of the shown commands. -/
theorem mem_of_matchedServiceCommand {tokens : List String} {word : String}
    (matched : matchedServiceCommand tokens = some word) : word ∈ shownCommands := by
  match tokens, matched with
  | opening :: second :: rest, matched =>
      rw [matchedServiceCommand] at matched
      dsimp only at matched
      split at matched
      · rename_i command found
        rw [← Option.some.inj matched]
        exact List.mem_cons_of_mem _ (List.mem_of_find?_eq_some found)
      · split at matched
        · rename_i near found
          rw [← Option.some.inj matched]
          rw [nearestServicePassword] at found
          split at found
          · cases found
          · exact List.mem_cons_of_mem _ (nearestWithin_mem found)
        · split_ifs at matched
          rw [← Option.some.inj matched]
          exact List.mem_cons_self

omit [Platform] in
/-- The words of a shown request. -/
theorem serviceBodyTokens_shown {word : String} (listed : word ∈ shownCommands) :
    serviceBodyTokens (word ++ " " ++ secretStars) =
      if word = "SET PASSWORD" then ["SET", "PASSWORD", secretStars] else [word, secretStars] := by
  have all : ∀ word ∈ shownCommands, serviceBodyTokens (word ++ " " ++ secretStars) =
      if word = "SET PASSWORD" then ["SET", "PASSWORD", secretStars] else [word, secretStars] := by
    decide
  exact all word listed

/-- A shown request matches its own command. -/
theorem matchedServiceCommand_shown (law : UppercaseLaw) {word : String}
    (listed : word ∈ shownCommands) :
    matchedServiceCommand (serviceBodyTokens (word ++ " " ++ secretStars)) = some word := by
  have capitals : ∀ word ∈ "SET" :: servicePasswordCommands,
      word.toList.all (fun char => char.toNat < 128 ∧ char.toUpper = char) = true := by
    decide
  simp only [List.all_eq_true, decide_eq_true_eq] at capitals
  have found : ∀ word ∈ servicePasswordCommands, word ≠ "SET PASSWORD" ∧
      servicePasswordCommands.find? (fun command => command = word) = some word := by decide
  rw [serviceBodyTokens_shown listed]
  rcases List.mem_cons.mp listed with rfl | command
  · rw [if_pos rfl, matchedServiceCommand, law.simpleUpper (capitals "SET" List.mem_cons_self)]
    decide
  · obtain ⟨other, found⟩ := found word command
    rw [if_neg other, matchedServiceCommand,
      law.simpleUpper (capitals word (List.mem_cons_of_mem _ command))]
    dsimp only
    rw [found]

/-! ## Masked commands -/

/-- A mode line that shows a last parameter which is read as more than one: a word with a tab that
is the argument of no key. -/
def SplitsLast (command : WireCommand) : Prop :=
  ∃ rule ∈ secretMap, rule.verb = command.verb ∧ rule.shape = .keyedModeTail ∧
    ambiguousModes (modesOf command.parameters rule.visibleParameters) = false ∧
    command.parameters.length - 1 ∉ keyPositions command.parameters rule.visibleParameters ∧
    ∃ trailing ∈ command.parameters.getLast?, ¬ IsWhole trailing

/-- All parameters but the last one are words. -/
def HasWords (command : WireCommand) : Prop :=
  ∀ parameter ∈ command.parameters.dropLast, IsMiddle parameter.toList

omit [Platform] in
theorem middle_secretStars : IsMiddle secretStars.toList := by decide

omit [Platform] in
theorem whole_secretStars : IsWhole secretStars := .inr (by decide)

omit [Platform] in
/-- The visible parameters and the stars behind them are read back. -/
theorem HasWords.tail {command : WireCommand} (words : HasWords command) {visible : Nat}
    (long : visible < command.parameters.length) :
    AreReadable (command.parameters.take visible ++ [secretStars]) := by
  constructor
  · rw [List.dropLast_concat]
    intro parameter listed
    refine words parameter ?_
    rw [List.dropLast_eq_take]
    exact List.take_subset_take_left _ (by omega) listed
  · rw [List.getLast?_concat]
    rintro trailing ⟨⟩
    exact whole_secretStars

omit [Platform] in
/-- A masked tail is masked as it is. -/
theorem maskTailAfterParameters_again {command : WireCommand} {visible : Nat}
    (long : visible < command.parameters.length) :
    maskTailAfterParameters
        ⟨command.verb, command.parameters.take visible ++ [secretStars]⟩ visible =
      some ⟨command.verb, command.parameters.take visible ++ [secretStars]⟩ := by
  have size : (command.parameters.take visible).length = visible :=
    List.length_take_of_le long.le
  rw [maskTailAfterParameters_eq (by simp [size])]
  dsimp only
  rw [List.take_left' size]

omit [Platform] in
/-- Stars at the arguments of the keys leave the mode string. -/
theorem modesOf_starsAt {parameters : List String} {visible : Nat} (two : 2 ≤ visible) :
    modesOf (starsAt (keyPositions parameters visible) parameters) visible =
      modesOf parameters visible := by
  refine modesOf_congr ?_
  have shown : visible - 1 ∉ keyPositions parameters visible := by
    intro secret
    have behind := le_of_mem_keyArguments secret
    omega
  rw [getElem?_starsAt]
  simp [shown]

omit [Platform] in
/-- A masked mode line is masked as it is. -/
theorem maskKeyedModeTail_again {command : WireCommand} {visible : Nat} (two : 2 ≤ visible)
    (known : ambiguousModes (modesOf command.parameters visible) = false)
    (keyed : HasKeyArgument command.parameters visible) :
    maskKeyedModeTail
        ⟨command.verb, starsAt (keyPositions command.parameters visible) command.parameters⟩
        visible =
      some ⟨command.verb, starsAt (keyPositions command.parameters visible) command.parameters⟩ := by
  have modes : modesOf (starsAt (keyPositions command.parameters visible) command.parameters)
      visible = modesOf command.parameters visible := modesOf_starsAt two
  have positions : keyPositions (starsAt (keyPositions command.parameters visible)
      command.parameters) visible = keyPositions command.parameters visible := by
    rw [keyPositions, modes, keyPositions]
  have keyed' : HasKeyArgument (starsAt (keyPositions command.parameters visible)
      command.parameters) visible := by
    obtain ⟨position, secret, inside⟩ := keyed
    exact ⟨position, by rwa [positions], by rwa [length_starsAt]⟩
  refine (maskKeyedModeTail_known two (by rwa [modes]) keyed').trans ?_
  dsimp only
  rw [positions, starsAt_starsAt]

omit [Platform] in
/-- Parameters with stars are words but for the last one. -/
theorem HasWords.starsAt {command : WireCommand} (words : HasWords command)
    (positions : List Nat) :
    ∀ parameter ∈ (starsAt positions command.parameters).dropLast, IsMiddle parameter.toList := by
  intro parameter listed
  rw [List.dropLast_eq_take, length_starsAt] at listed
  obtain ⟨index, bound, shape⟩ := List.mem_take_iff_getElem.mp listed
  rw [length_starsAt] at bound
  have here := List.getElem?_eq_getElem (l := Irc.starsAt positions command.parameters) (i := index)
    (by rw [length_starsAt]; omega)
  rw [shape, getElem?_starsAt] at here
  obtain ⟨before, present, rfl⟩ := Option.map_eq_some_iff.mp here
  split
  · exact middle_secretStars
  · refine words before ?_
    rw [List.dropLast_eq_take, List.mem_take_iff_getElem]
    obtain ⟨inside, own⟩ := List.getElem?_eq_some_iff.mp present
    exact ⟨index, by omega, own⟩

/-- What a mask makes of a command: it is masked again as it is, and read back unless its last
parameter is shown and read as more than one. -/
structure MaskedAgain (channelTypes : String) (command masked : WireCommand) : Prop where
  verb : masked.verb = command.verb
  full : masked.parameters ≠ []
  words : HasWords masked
  again : secretMask masked channelTypes = some masked
  whole : ¬ SplitsLast command → ∀ trailing ∈ masked.parameters.getLast?, IsWhole trailing

omit [Platform] in
/-- What a masked tail is. -/
theorem maskTailAfterParameters_cases {command masked : WireCommand} {visible : Nat}
    (masks : maskTailAfterParameters command visible = some masked) :
    visible < command.parameters.length ∧
      masked = ⟨command.verb, command.parameters.take visible ++ [secretStars]⟩ := by
  rw [maskTailAfterParameters] at masks
  split at masks
  · cases masks
  · rename_i long
    exact ⟨Nat.lt_of_not_le long, (Option.some.inj masks).symm⟩

/-- A command whose tail is masked. -/
theorem MaskedAgain.tail {command : WireCommand} {channelTypes : String} (words : HasWords command)
    {visible : Nat} (long : visible < command.parameters.length)
    (again : secretMask ⟨command.verb, command.parameters.take visible ++ [secretStars]⟩
        channelTypes =
      some ⟨command.verb, command.parameters.take visible ++ [secretStars]⟩) :
    MaskedAgain channelTypes command
      ⟨command.verb, command.parameters.take visible ++ [secretStars]⟩ where
  verb := rfl
  full := by simp
  words := (words.tail long).1
  again := again
  whole := fun _ => (words.tail long).2

/-- A masked command is masked as it is. -/
theorem secretMask_again (law : UppercaseLaw) {command masked : WireCommand} {channelTypes : String}
    (words : HasWords command) (masks : secretMask command channelTypes = some masked) :
    MaskedAgain channelTypes command masked := by
  cases found : secretRuleFor command.verb with
  | none =>
      rw [secretMask, found] at masks
      cases masks
  | some rule =>
      have listed := List.mem_of_find?_eq_some found
      have named : rule.verb = command.verb := by simpa using List.find?_some found
      rw [secretMask, found] at masks
      dsimp only at masks
      cases shape : rule.shape with
      | tailAfterParameters =>
          have again (other : List String) : secretMask ⟨command.verb, other⟩ channelTypes =
              maskTailAfterParameters ⟨command.verb, other⟩ rule.visibleParameters := by
            rw [secretMask, found]
            dsimp only
            rw [shape]
          rw [shape] at masks
          obtain ⟨long, rfl⟩ := maskTailAfterParameters_cases masks
          refine MaskedAgain.tail words long ?_
          rw [again]
          exact maskTailAfterParameters_again long
      | keyedModeTail =>
          have again (other : List String) : secretMask ⟨command.verb, other⟩ channelTypes =
              maskKeyedModeTail ⟨command.verb, other⟩ rule.visibleParameters := by
            rw [secretMask, found]
            dsimp only
            rw [shape]
          rw [shape] at masks
          obtain ⟨two, long, key, ⟨ambiguous, masks⟩ | ⟨known, keyed, rfl⟩⟩ :=
            maskKeyedModeTail_cases masks
          · obtain ⟨-, rfl⟩ := maskTailAfterParameters_cases masks
            refine MaskedAgain.tail words long ?_
            have modes : modesOf (command.parameters.take rule.visibleParameters ++ [secretStars])
                rule.visibleParameters = modesOf command.parameters rule.visibleParameters := by
              refine modesOf_congr ?_
              rw [List.getElem?_append_left (by rw [List.length_take]; omega),
                List.getElem?_take_of_lt (by omega)]
            rw [again]
            refine (maskKeyedModeTail_ambiguous two ?_ (by rwa [modes]) (by rwa [modes])).trans ?_
            · rw [List.length_append, List.length_take]
              exact Nat.lt_succ_of_le (by omega)
            · exact maskTailAfterParameters_again long
          · have readable := words.starsAt (keyPositions command.parameters rule.visibleParameters)
            refine ⟨rfl, ?_, readable, ?_, ?_⟩
            · intro empty
              have size := congrArg List.length empty
              rw [length_starsAt, List.length_nil] at size
              omega
            · exact (again _).trans (maskKeyedModeTail_again two known keyed)
            · intro kept trailing last
              rw [List.getLast?_eq_getElem?, length_starsAt, getElem?_starsAt] at last
              obtain ⟨before, own, rfl⟩ := Option.map_eq_some_iff.mp last
              split
              · exact whole_secretStars
              · rename_i shown
                by_contra split
                refine kept ⟨rule, listed, named, shape, known, shown, before, ?_, split⟩
                rw [List.getLast?_eq_getElem?]
                exact own
      | serviceRequestBody =>
          have again (other : List String) : secretMask ⟨command.verb, other⟩ channelTypes =
              maskServiceRequestBody ⟨command.verb, other⟩ channelTypes := by
            rw [secretMask, found]
            dsimp only
            rw [shape]
          rw [shape] at masks
          dsimp only at masks
          obtain ⟨verb, parameters⟩ := command
          rcases parameters with _ | ⟨target, _ | ⟨first, others⟩⟩
          · cases masks
          · cases masks
          · rw [maskServiceRequestBody] at masks
            dsimp only at masks
            split at masks
            · cases masks
            · rename_i person
              split at masks
              · cases masks
              · rename_i word matched
                obtain rfl := Option.some.inj masks
                have shown := mem_of_matchedServiceCommand matched
                refine ⟨rfl, List.cons_ne_nil _ _, ?_, ?_, ?_⟩
                · intro parameter here
                  refine words parameter ?_
                  rw [List.mem_singleton.mp here]
                  exact List.mem_cons_self
                · refine (again _).trans ?_
                  rw [maskServiceRequestBody]
                  dsimp only
                  rw [if_neg person, joinTexts_single, matchedServiceCommand_shown law shown]
                · rintro - trailing ⟨⟩
                  refine .inl ?_
                  have spaced : ∀ word ∈ shownCommands,
                      needsMark (word ++ " " ++ secretStars) = true := by decide
                  exact spaced word shown

/-! ## Lines -/

/-- A line is read as words and a last parameter. -/
theorem HasWords.of_tokenize {line : String} {command : WireCommand}
    (read : tokenize line = some command) : HasWords command := by
  have words (verb : List Char) (rest : List Char) (begins : rest.head?.any isFieldSpace = false)
      (here : (if simpleUpper (String.ofList verb) = "" then none
        else some (⟨simpleUpper (String.ofList verb), parametersOf rest⟩ : WireCommand)) =
          some command) : HasWords command := by
    split at here
    · cases here
    · rw [← Option.some.inj here]
      exact middle_of_mem_dropLast begins
  rw [tokenize] at read
  split at read
  · cases read
  · dsimp only at read
    split at read
    · exact words _ _ (head_skipFieldSpaces _) read
    · exact words _ [] rfl read

/-- What is shown of a line is the text of its masked command. -/
theorem redactWireLine_cases {line channelTypes shown : String}
    (redacts : redactWireLine line channelTypes = some shown) :
    ∃ command masked, tokenize line = some command ∧
      secretMask command channelTypes = some masked ∧ shown = formatLine masked := by
  rw [redactWireLine] at redacts
  split at redacts
  · cases redacts
  · rename_i command read
    obtain ⟨masked, masks, rfl⟩ := Option.map_eq_some_iff.mp redacts
    exact ⟨command, masked, read, masks, rfl⟩

/-- A masked command is of a verb of the table. -/
theorem rule_of_secretMask {command masked : WireCommand} {channelTypes : String}
    (masks : secretMask command channelTypes = some masked) :
    ∃ rule ∈ secretMap, rule.verb = command.verb := by
  cases found : secretRuleFor command.verb with
  | none =>
      rw [secretMask, found] at masks
      cases masks
  | some rule =>
      exact ⟨rule, List.mem_of_find?_eq_some found, by simpa using List.find?_some found⟩

/-- A masked command is read back, its last parameter as it is written. -/
theorem MaskedAgain.tokenize (law : UppercaseLaw) {command masked : WireCommand}
    {channelTypes : String} (mask : MaskedAgain channelTypes command masked) :
    tokenize (formatLine masked) = some ⟨masked.verb,
      parametersOf (skipFieldSpaces (parametersText masked.parameters))⟩ := by
  obtain ⟨rule, listed, named⟩ := rule_of_secretMask mask.again
  have text := toList_formatLine mask.full
  rw [← named] at text ⊢
  exact tokenize_rule law listed text

/-- A line that shows no split parameter is masked again as it is. -/
theorem redactWireLine_again (law : UppercaseLaw) {line channelTypes shown : String}
    {command : WireCommand} (read : Irc.tokenize line = some command)
    (redacts : redactWireLine line channelTypes = some shown) (kept : ¬ SplitsLast command) :
    redactWireLine shown channelTypes = some shown := by
  obtain ⟨command', masked, read', masks, rfl⟩ := redactWireLine_cases redacts
  obtain rfl : command = command' := Option.some.inj (read.symm.trans read')
  have mask := secretMask_again law (HasWords.of_tokenize read) masks
  have readable : AreReadable masked.parameters := ⟨mask.words, mask.whole kept⟩
  rw [redactWireLine, mask.tokenize law, readable.read mask.full]
  dsimp only
  rw [mask.again]
  rfl

/-- A line that shows a split parameter is shown with fewer tabs when it is masked again. -/
theorem redactWireLine_split (law : UppercaseLaw) {line channelTypes shown : String}
    {command : WireCommand} (read : Irc.tokenize line = some command)
    (redacts : redactWireLine line channelTypes = some shown) (splits : SplitsLast command) :
    ∃ other, redactWireLine shown channelTypes = some other ∧ other ≠ shown := by
  obtain ⟨command', masked, read', masks, rfl⟩ := redactWireLine_cases redacts
  obtain rfl : command = command' := Option.some.inj (read.symm.trans read')
  have mask := secretMask_again law (HasWords.of_tokenize read) masks
  obtain ⟨rule, listed, named, shape, known, shows, trailing, last, split⟩ := splits
  have found := secretRuleFor_listed listed
  have two := two_le_visible listed shape
  have keyed : HasKeyArgument command.parameters rule.visibleParameters ∧
      masked = ⟨command.verb, starsAt
        (keyPositions command.parameters rule.visibleParameters) command.parameters⟩ := by
    rw [secretMask, ← named, found] at masks
    dsimp only at masks
    rw [shape] at masks
    obtain ⟨-, -, -, ⟨ambiguous, -⟩ | ⟨-, keyed, masked⟩⟩ := maskKeyedModeTail_cases masks
    · rw [known] at ambiguous
      cases ambiguous
    · exact ⟨keyed, masked⟩
  obtain ⟨⟨position, secret, inside⟩, rfl⟩ := keyed
  -- The last parameter is shown behind words.
  have end_ : (starsAt (keyPositions command.parameters rule.visibleParameters)
      command.parameters).getLast? = some trailing := by
    rw [List.getLast?_eq_getElem?] at last ⊢
    rw [length_starsAt, getElem?_starsAt, last]
    exact congrArg some (if_neg shows)
  obtain ⟨words, masked⟩ := List.getLast?_eq_some_iff.mp end_
  have middle := mask.words
  have size := congrArg List.length masked
  rw [length_starsAt, List.length_append, List.length_singleton] at size
  rw [HasWords, masked, List.dropLast_concat] at middle
  rw [IsWhole, not_or, Bool.not_eq_true, not_not] at split
  obtain ⟨bare, tab⟩ := split
  have early : position < words.length := by
    have other : position ≠ command.parameters.length - 1 := by
      rintro rfl
      exact shows secret
    omega
  have behind := le_of_mem_keyArguments secret
  have second := mask.tokenize law
  rw [masked, parametersOf_words middle, parametersText, bare, if_neg Bool.false_ne_true] at second
  have fewer := tabsOf_parametersOf_lt bare tab
  generalize parametersOf (skipFieldSpaces trailing.toList) = pieces at second fewer
  -- The words hold the mode string and the argument of a key.
  have modes : modesOf (words ++ pieces) rule.visibleParameters =
      modesOf command.parameters rule.visibleParameters := by
    refine Eq.trans (modesOf_congr ?_) (modesOf_starsAt two)
    rw [masked, List.getElem?_append_left (by omega), List.getElem?_append_left (by omega)]
  have positions : keyPositions (words ++ pieces) rule.visibleParameters =
      keyPositions command.parameters rule.visibleParameters := by
    rw [keyPositions, modes, keyPositions]
  have keyed : HasKeyArgument (words ++ pieces) rule.visibleParameters := by
    refine ⟨position, by rwa [positions], ?_⟩
    rw [List.length_append]
    omega
  have masks' : secretMask ⟨command.verb, words ++ pieces⟩ channelTypes = some ⟨command.verb,
      starsAt (keyPositions (words ++ pieces) rule.visibleParameters) (words ++ pieces)⟩ := by
    rw [secretMask]
    dsimp only
    rw [← named, found]
    dsimp only
    rw [shape]
    exact maskKeyedModeTail_known two (by rwa [modes]) keyed
  refine ⟨formatLine ⟨command.verb,
    starsAt (keyPositions (words ++ pieces) rule.visibleParameters) (words ++ pieces)⟩, ?_, ?_⟩
  · rw [redactWireLine, masked, second]
    dsimp only
    rw [masks']
    rfl
  · intro same
    have full : starsAt (keyPositions (words ++ pieces) rule.visibleParameters) (words ++ pieces) ≠
        [] := by
      intro empty
      have none := congrArg List.length empty
      rw [length_starsAt, List.length_append, List.length_nil] at none
      omega
    have tabs := congrArg (fun text : String => text.toList.count '\t') same
    rw [toList_formatLine full, toList_formatLine mask.full] at tabs
    dsimp only at tabs
    rw [List.count_append, List.count_append, List.count_cons_of_ne (by decide),
      List.count_cons_of_ne (by decide), count_parametersText, count_parametersText, masked,
      tabsOf_append words [trailing], tabsOf_cons] at tabs
    have stars := tabsOf_starsAt_le (keyPositions (words ++ pieces) rule.visibleParameters)
      (words ++ pieces)
    rw [tabsOf_append] at stars
    omega

/-- A line is read as the command that it spells. Lines whose commands differ in their secrets alone
are masked, and shown alike. What is shown is masked again as it is, exactly when it shows no last
parameter that is read as more than one. -/
theorem redactWireLine_noninterfering (law : UppercaseLaw) (channelTypes : String) :
    (∀ line command, SpellsLine line command → Irc.tokenize line = some command) ∧
      (∀ left right command command', Irc.tokenize left = some command →
        Irc.tokenize right = some command' → SecretsDiffer channelTypes command command' →
          ∃ shown, redactWireLine left channelTypes = some shown ∧
            redactWireLine right channelTypes = some shown) ∧
      ∀ line shown command, Irc.tokenize line = some command →
        redactWireLine line channelTypes = some shown →
          ((redactWireLine shown channelTypes).getD shown = shown ↔ ¬ SplitsLast command) := by
  refine ⟨fun line command => SpellsLine.tokenize, ?_, ?_⟩
  · intro left right command command' read read' differ
    obtain ⟨masked, masks, masks'⟩ := differ.mask
    refine ⟨formatLine masked, ?_, ?_⟩
    · rw [redactWireLine, read]
      dsimp only
      rw [masks]
      rfl
    · rw [redactWireLine, read']
      dsimp only
      rw [masks']
      rfl
  · intro line shown command read redacts
    constructor
    · intro same splits
      obtain ⟨other, again, differs⟩ := redactWireLine_split law read redacts splits
      rw [again] at same
      exact differs same
    · intro kept
      rw [redactWireLine_again law read redacts kept]
      rfl

end Redaction

/-! ## Shown lines -/

section Reference

open Omairc.Session

local instance policyPlatform : Platform := reference

/-- The capitals of the reference platform are those of ASCII. -/
theorem uppercaseLaw_reference : UppercaseLaw := by
  intro char _
  show String.ofList ((String.singleton char).toList.map Char.toUpper) = _
  rw [String.toList_singleton]
  rfl

/-- Two keys of a channel are shown alike. -/
theorem redactWireLine_noninterfering_key :
    ∃ shown, redactWireLine ":nick MODE #omarchy +k first" "#" = some shown ∧
      redactWireLine ":nick MODE #omarchy +k second" "#" = some shown := by
  refine (redactWireLine_noninterfering uppercaseLaw_reference "#").2.1 _ _
    ⟨"MODE", ["#omarchy", "+k", "first"]⟩ ⟨"MODE", ["#omarchy", "+k", "second"]⟩
    (by decide +kernel) (by decide +kernel) ?_
  refine .keys ⟨"MODE", .keyedModeTail, 2⟩ (by decide +kernel) rfl _ _ (by decide +kernel)
    ⟨2, by decide, by decide⟩ rfl ?_
  intro index shown
  match index with
  | 0 => rfl
  | 1 => rfl
  | 2 => exact absurd (by decide) shown
  | _ + 3 => rfl

/-- A mode line whose last parameter has a tab is not masked again as it is. -/
theorem redacted_line_redacted_again :
    ¬ ∀ line shown, redactWireLine line "#" = some shown →
      (redactWireLine shown "#").getD shown = shown := by
  intro stays
  have masked : redactWireLine "MODE #omarchy +k key :x\ty" "#" =
      some "MODE #omarchy +k *** x\ty" := by decide +kernel
  have again : redactWireLine "MODE #omarchy +k *** x\ty" "#" =
      some "MODE #omarchy +k *** x y" := by decide +kernel
  have same := stays _ _ masked
  rw [again] at same
  exact absurd same (by decide)

end Reference

end Omairc.Irc
