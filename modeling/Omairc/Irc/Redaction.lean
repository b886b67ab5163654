import Omairc.Irc.SecretPolicy

/-!
# What redaction shows

Lines that differ in their secrets alone are shown alike. A line that was masked is masked
again as it is, but for a visible last parameter that is a word with a tab in it: it is
written without its mark, and read as two parameters.
-/

namespace Omairc.Irc

open Omairc.Text

/-! ## Keys of a mode string -/

/-- The arguments that the keys of a mode string take, from a sign and an argument on. -/
def keyArguments (adding : Bool) (argument : Nat) : Bytes → List Nat
  | [] => []
  | letter :: rest =>
      if letter = 43 then keyArguments true argument rest
      else if letter = 45 then keyArguments false argument rest
      else if !modeLetterConsumesParameter letter adding then keyArguments adding argument rest
      else if letter = 107 then argument :: keyArguments adding (argument + 1) rest
      else keyArguments adding (argument + 1) rest

/-- Parameters with stars at some positions. -/
def starsAt (positions : List Nat) (parameters : List String) : List String :=
  parameters.mapIdx fun index parameter => if index ∈ positions then secretStars else parameter

@[simp] theorem length_starsAt (positions : List Nat) (parameters : List String) :
    (starsAt positions parameters).length = parameters.length := List.length_mapIdx

theorem getElem?_starsAt (positions : List Nat) (parameters : List String) (index : Nat) :
    (starsAt positions parameters)[index]? =
      parameters[index]?.map fun parameter =>
        if index ∈ positions then secretStars else parameter := List.getElem?_mapIdx

/-- Stars at the same positions again change nothing. -/
theorem starsAt_starsAt (positions : List Nat) (parameters : List String) :
    starsAt positions (starsAt positions parameters) = starsAt positions parameters := by
  apply List.ext_getElem?
  intro index
  rw [getElem?_starsAt, getElem?_starsAt, Option.map_map]
  congr 1
  funext parameter
  simp only [Function.comp_apply]
  split
  all_goals rfl

/-- Parameters that agree elsewhere are alike with stars. -/
theorem starsAt_congr {positions : List Nat} {left right : List String}
    (size : left.length = right.length)
    (same : ∀ index, index ∉ positions → left[index]? = right[index]?) :
    starsAt positions left = starsAt positions right := by
  apply List.ext_getElem?
  intro index
  rw [getElem?_starsAt, getElem?_starsAt]
  by_cases secret : index ∈ positions
  · by_cases inside : index < left.length
    · rw [List.getElem?_eq_getElem inside, List.getElem?_eq_getElem (size ▸ inside)]
      simp [secret]
    · rw [List.getElem?_eq_none (Nat.le_of_not_lt inside),
        List.getElem?_eq_none (size ▸ Nat.le_of_not_lt inside)]
  · rw [same index secret]

/-- Stars beyond the parameters change nothing. -/
theorem starsAt_beyond {positions : List Nat} {parameters : List String}
    (beyond : ∀ position ∈ positions, parameters.length ≤ position) :
    starsAt positions parameters = parameters := by
  apply List.ext_getElem?
  intro index
  rw [getElem?_starsAt]
  by_cases inside : index < parameters.length
  · have outside : index ∉ positions := fun listed =>
      absurd (beyond index listed) (Nat.not_le_of_lt inside)
    rw [List.getElem?_eq_getElem inside, Option.map_some, if_neg outside]
  · rw [List.getElem?_eq_none (Nat.le_of_not_lt inside), Option.map_none]

/-- One position more. -/
theorem starsAt_cons (position : Nat) (positions : List Nat) (parameters : List String) :
    starsAt (position :: positions) parameters =
      starsAt positions (parameters.set position secretStars) := by
  apply List.ext_getElem?
  intro index
  rw [getElem?_starsAt, getElem?_starsAt, List.getElem?_set]
  by_cases here : position = index
  · subst here
    by_cases inside : position < parameters.length
    · simp [inside]
    · simp [inside]
  · rw [if_neg here]
    congr 1
    funext parameter
    simp [Ne.symm here]

/-- The arguments of a mode string come one after another. -/
theorem le_of_mem_keyArguments {adding : Bool} {argument position : Nat} {modes : Bytes}
    (listed : position ∈ keyArguments adding argument modes) : argument ≤ position := by
  induction modes generalizing adding argument with
  | nil => cases listed
  | cons letter rest inductionHypothesis =>
      rw [keyArguments] at listed
      split_ifs at listed
      · exact inductionHypothesis listed
      · exact inductionHypothesis listed
      · exact inductionHypothesis listed
      · rcases List.mem_cons.mp listed with rfl | later
        · exact le_rfl
        · exact (Nat.le_succ _).trans (inductionHypothesis later)
      · exact (Nat.le_succ _).trans (inductionHypothesis listed)

/-- A mode string with the argument of a key has a key. -/
theorem mem_of_mem_keyArguments {adding : Bool} {argument position : Nat} {modes : Bytes}
    (listed : position ∈ keyArguments adding argument modes) : 107 ∈ modes := by
  induction modes generalizing adding argument with
  | nil => cases listed
  | cons letter rest inductionHypothesis =>
      rw [keyArguments] at listed
      split_ifs at listed with plus minus consumes key
      · exact List.mem_cons_of_mem _ (inductionHypothesis listed)
      · exact List.mem_cons_of_mem _ (inductionHypothesis listed)
      · exact List.mem_cons_of_mem _ (inductionHypothesis listed)
      · exact key ▸ List.mem_cons_self
      · exact List.mem_cons_of_mem _ (inductionHypothesis listed)

namespace KeyWalk

/-- A walk that stopped stays where it is. -/
theorem foldl_stopped (modes : Bytes) {walk : KeyWalk} (stopped : walk.stopped = true) :
    modes.foldl step walk = walk := by
  induction modes with
  | nil => rfl
  | cons letter rest inductionHypothesis =>
      have here : walk.step letter = walk := by rw [step, if_pos stopped]
      rw [List.foldl_cons, here, inductionHypothesis]

/-- The walk puts stars at the arguments of the keys. -/
theorem foldl_step (modes : Bytes) {walk : KeyWalk} (running : walk.stopped = false) :
    (modes.foldl step walk).parameters =
        starsAt (keyArguments walk.adding walk.argument modes) walk.parameters ∧
      ((modes.foldl step walk).maskedKey = true ↔ walk.maskedKey = true ∨
        ∃ position ∈ keyArguments walk.adding walk.argument modes,
          position < walk.parameters.length) := by
  induction modes generalizing walk with
  | nil =>
      refine ⟨(starsAt_beyond fun _ listed => absurd listed List.not_mem_nil).symm, ?_⟩
      simp [keyArguments]
  | cons letter rest inductionHypothesis =>
      have go : ¬ walk.stopped = true := by simp [running]
      rw [List.foldl_cons, keyArguments, step, if_neg go]
      by_cases plus : letter = 43
      · rw [if_pos plus, if_pos plus]
        exact inductionHypothesis running
      rw [if_neg plus, if_neg plus]
      by_cases minus : letter = 45
      · rw [if_pos minus, if_pos minus]
        exact inductionHypothesis running
      rw [if_neg minus, if_neg minus]
      by_cases spare : (!modeLetterConsumesParameter letter walk.adding) = true
      · rw [if_pos spare, if_pos spare]
        exact inductionHypothesis running
      rw [if_neg spare, if_neg spare]
      by_cases beyond : walk.parameters.length ≤ walk.argument
      · rw [if_pos beyond, foldl_stopped rest rfl]
        have far (position : Nat) (listed : position ∈ (if letter = 107 then
            walk.argument :: keyArguments walk.adding (walk.argument + 1) rest
            else keyArguments walk.adding (walk.argument + 1) rest)) :
            walk.parameters.length ≤ position := by
          split at listed
          · rcases List.mem_cons.mp listed with rfl | later
            · exact beyond
            · exact beyond.trans ((Nat.le_succ _).trans (le_of_mem_keyArguments later))
          · exact beyond.trans ((Nat.le_succ _).trans (le_of_mem_keyArguments listed))
        refine ⟨(starsAt_beyond far).symm, ⟨.inl, ?_⟩⟩
        rintro (masked | ⟨position, listed, inside⟩)
        · exact masked
        · exact absurd (far position listed) (Nat.not_le_of_lt inside)
      rw [if_neg beyond]
      by_cases key : letter = 107
      · rw [if_pos key, if_pos key, starsAt_cons]
        have masked : { walk with
            parameters := walk.parameters.set walk.argument secretStars
            maskedKey := true
            argument := walk.argument + 1 : KeyWalk }.stopped = false := running
        obtain ⟨stars, masked⟩ := inductionHypothesis masked
        refine ⟨stars, masked.trans ?_⟩
        constructor
        · intro _
          exact .inr ⟨walk.argument, List.mem_cons_self, Nat.lt_of_not_le beyond⟩
        · intro _
          exact .inl rfl
      · rw [if_neg key, if_neg key]
        have passed : { walk with argument := walk.argument + 1 : KeyWalk }.stopped = false :=
          running
        exact inductionHypothesis passed

end KeyWalk

/-! ## Masks of mode strings -/

/-- Whether a mode string has a letter that may take a parameter of its own. -/
def ambiguousModes (modes : Bytes) : Bool := (modes.foldl ModeScan.step {}).ambiguous

/-- The mode string of a command. -/
def modesOf (parameters : List String) (visible : Nat) : Bytes :=
  utf8 (parameters.getD (visible - 1) "")

/-- A scan finds the keys. -/
theorem hasKey_foldl (modes : Bytes) (scan : ModeScan) :
    (modes.foldl ModeScan.step scan).hasKey = true ↔ scan.hasKey = true ∨ 107 ∈ modes := by
  induction modes generalizing scan with
  | nil => simp
  | cons letter rest inductionHypothesis =>
      rw [List.foldl_cons, inductionHypothesis, List.mem_cons, ← or_assoc]
      refine or_congr_left ?_
      unfold ModeScan.step
      by_cases key : letter = 107
      · subst key
        simp
      · split_ifs
        all_goals simp [Ne.symm key]

/-- The arguments of the keys of a command. -/
def keyPositions (parameters : List String) (visible : Nat) : List Nat :=
  keyArguments true visible (modesOf parameters visible)

/-- An argument of a key is one of the parameters. -/
def HasKeyArgument (parameters : List String) (visible : Nat) : Prop :=
  ∃ position ∈ keyPositions parameters visible, position < parameters.length

/-- The mask of a mode string whose letters are known. -/
theorem maskKeyedModeTail_known {command : WireCommand} {visible : Nat} (two : 2 ≤ visible)
    (known : ambiguousModes (modesOf command.parameters visible) = false)
    (keyed : HasKeyArgument command.parameters visible) :
    maskKeyedModeTail command visible = some { command with
      parameters := starsAt (keyPositions command.parameters visible) command.parameters } := by
  obtain ⟨position, listed, inside⟩ := keyed
  have long : visible < command.parameters.length :=
    (le_of_mem_keyArguments listed).trans_lt inside
  have hasKey : ((modesOf command.parameters visible).foldl ModeScan.step {}).hasKey = true :=
    (hasKey_foldl _ _).mpr (.inr (mem_of_mem_keyArguments listed))
  have running : ({ parameters := command.parameters, argument := visible } : KeyWalk).stopped =
      false := rfl
  obtain ⟨stars, masked⟩ := KeyWalk.foldl_step (modesOf command.parameters visible) running
  have short : (visible < 2 || command.parameters.length ≤ visible : Bool) = false := by
    rw [Bool.or_eq_false_iff, decide_eq_false_iff_not, decide_eq_false_iff_not]
    omega
  rw [maskKeyedModeTail, short, if_neg Bool.false_ne_true]
  dsimp only
  rw [show utf8 (command.parameters.getD (visible - 1) "") = modesOf command.parameters visible
    from rfl, hasKey, Bool.not_true, if_neg Bool.false_ne_true]
  rw [ambiguousModes] at known
  rw [known, if_neg Bool.false_ne_true, masked.mpr (.inr ⟨position, listed, inside⟩), Bool.not_true,
    if_neg Bool.false_ne_true, stars]
  rfl

/-- The mask of a mode string with an unknown letter. -/
theorem maskKeyedModeTail_ambiguous {command : WireCommand} {visible : Nat} (two : 2 ≤ visible)
    (long : visible < command.parameters.length)
    (key : 107 ∈ modesOf command.parameters visible)
    (ambiguous : ambiguousModes (modesOf command.parameters visible) = true) :
    maskKeyedModeTail command visible = maskTailAfterParameters command visible := by
  have hasKey : ((modesOf command.parameters visible).foldl ModeScan.step {}).hasKey = true :=
    (hasKey_foldl _ _).mpr (.inr key)
  have short : (visible < 2 || command.parameters.length ≤ visible : Bool) = false := by
    rw [Bool.or_eq_false_iff, decide_eq_false_iff_not, decide_eq_false_iff_not]
    omega
  rw [maskKeyedModeTail, short, if_neg Bool.false_ne_true]
  dsimp only
  rw [show utf8 (command.parameters.getD (visible - 1) "") = modesOf command.parameters visible
    from rfl, hasKey, Bool.not_true, if_neg Bool.false_ne_true]
  rw [ambiguousModes] at ambiguous
  rw [ambiguous, if_pos rfl]

/-- What the mask of a mode string can be. -/
theorem maskKeyedModeTail_cases {command masked : WireCommand} {visible : Nat}
    (masks : maskKeyedModeTail command visible = some masked) :
    2 ≤ visible ∧ visible < command.parameters.length ∧
      107 ∈ modesOf command.parameters visible ∧
      (ambiguousModes (modesOf command.parameters visible) = true ∧
          maskTailAfterParameters command visible = some masked ∨
        ambiguousModes (modesOf command.parameters visible) = false ∧
          HasKeyArgument command.parameters visible ∧
          masked = { command with
            parameters := starsAt (keyPositions command.parameters visible) command.parameters }) := by
  have running : ({ parameters := command.parameters, argument := visible } : KeyWalk).stopped =
      false := rfl
  obtain ⟨stars, masked'⟩ := KeyWalk.foldl_step (modesOf command.parameters visible) running
  unfold maskKeyedModeTail at masks
  dsimp only at masks
  rw [show utf8 (command.parameters.getD (visible - 1) "") = modesOf command.parameters visible
    from rfl] at masks
  split at masks
  · cases masks
  · rename_i long
    rw [Bool.or_eq_true, decide_eq_true_eq, decide_eq_true_eq, not_or, Nat.not_lt, Nat.not_le] at long
    split at masks
    · cases masks
    · rename_i keyed
      rw [Bool.not_eq_true', Bool.not_eq_false] at keyed
      have key : 107 ∈ modesOf command.parameters visible :=
        ((hasKey_foldl _ _).mp keyed).resolve_left Bool.false_ne_true
      refine ⟨long.1, long.2, key, ?_⟩
      split at masks
      · rename_i ambiguous
        exact .inl ⟨ambiguous, masks⟩
      · rename_i known
        split at masks
        · cases masks
        · rename_i found
          rw [Bool.not_eq_true', Bool.not_eq_false] at found
          refine .inr ⟨Bool.eq_false_iff.mpr known, ?_, ?_⟩
          · exact (masked'.mp found).resolve_left Bool.false_ne_true
          · rw [← Option.some.inj masks, stars]
            rfl

/-- The mask of a tail. -/
theorem maskTailAfterParameters_eq {command : WireCommand} {visible : Nat}
    (long : visible < command.parameters.length) :
    maskTailAfterParameters command visible = some { command with
      parameters := command.parameters.take visible ++ [secretStars] } :=
  if_neg (Nat.not_le_of_lt long)

/-! ## Requests to services -/

/-- A character that shows and is no space. -/
def isSolid (char : Char) : Bool := !isWhitespace char && !isControl char

/-- Characters without the white space at their two ends. -/
def trimChars (text : List Char) : List Char :=
  (text.dropWhile isWhitespace).rdropWhile isWhitespace

/-- A text whose two ends are no white space, without the white space around it. -/
theorem trimChars_around {front core back : List Char}
    (before : ∀ char ∈ front, isWhitespace char = true)
    (after : ∀ char ∈ back, isWhitespace char = true)
    (first : core.head?.any isWhitespace = false) (last : core.getLast?.any isWhitespace = false)
    (nonempty : core ≠ []) : trimChars (front ++ (core ++ back)) = core := by
  have kept {text : List Char} (begins : text.head?.any isWhitespace = false) :
      text.dropWhile isWhitespace = text := by
    cases text with
    | nil => rfl
    | cons char rest =>
        exact List.dropWhile_cons_of_neg (Bool.eq_false_iff.mp begins)
  have begins : (core ++ back).head?.any isWhitespace = false := by
    rw [List.head?_append_of_ne_nil _ nonempty]
    exact first
  have ends : core.reverse.head?.any isWhitespace = false := by
    rw [List.head?_reverse]
    exact last
  rw [trimChars, List.dropWhile_append_of_pos before, kept begins, List.rdropWhile,
    List.reverse_append, List.dropWhile_append_of_pos (fun char present =>
      after char (List.mem_reverse.mp present)), kept ends, List.reverse_reverse]

/-- The pieces of a text between field spaces. -/
def fieldTokens (text : List Char) : List (List Char) :=
  (text.splitOnP isFieldSpace).filter fun token => !token.isEmpty

theorem fieldTokens_space {space : Char} (blank : isFieldSpace space = true) (rest : List Char) :
    fieldTokens (space :: rest) = fieldTokens rest := by
  rw [fieldTokens, List.splitOnP_cons_eq_if_modifyHead, if_pos blank]
  rfl

theorem fieldTokens_word {word : List Char} (some : word ≠ [])
    (clean : ∀ char ∈ word, isFieldSpace char = false) {space : Char}
    (blank : isFieldSpace space = true) (rest : List Char) :
    fieldTokens (word ++ space :: rest) = word :: fieldTokens rest := by
  rw [fieldTokens, List.splitOnP_append_cons_of_forall_mem clean space blank,
    List.filter_cons_of_pos (by simpa using some)]
  rfl

/-- A text that has more than field spaces has tokens. -/
theorem fieldTokens_ne_nil {text : List Char} {char : Char} (present : char ∈ text)
    (solid : isFieldSpace char = false) : fieldTokens text ≠ [] := by
  induction text with
  | nil => cases present
  | cons first rest inductionHypothesis =>
      cases blank : isFieldSpace first with
      | true =>
          rw [fieldTokens_space blank]
          rcases List.mem_cons.mp present with rfl | later
          · rw [blank] at solid
            cases solid
          · exact inductionHypothesis later
      | false =>
          rw [fieldTokens, List.splitOnP_cons_eq_if_modifyHead, if_neg (by simp [blank])]
          cases pieces : rest.splitOnP isFieldSpace with
          | nil => exact absurd pieces (List.splitOnP_ne_nil _ _)
          | cons piece others =>
              rw [List.modifyHead_cons, List.filter_cons_of_pos rfl]
              exact nofun

/-- One or more field spaces. -/
def IsGap (gap : List Char) : Prop := gap ≠ [] ∧ ∀ char ∈ gap, isFieldSpace char = true

/-- A word: it begins with a character that shows, and has no field space. -/
def IsWord (word : List Char) : Prop :=
  word.head?.any isSolid = true ∧ ∀ char ∈ word, isFieldSpace char = false

/-- A secret: it begins and ends with a character that shows. -/
def IsSecret (secret : List Char) : Prop :=
  secret.head?.any isSolid = true ∧ secret.getLast?.any isSolid = true

/-- A text that opens with some words, and goes on with a secret. -/
def Opens : List (List Char) → List Char → Prop
  | [], text => IsSecret text
  | word :: words, text =>
      ∃ gap rest, text = word ++ (gap ++ rest) ∧ IsWord word ∧ IsGap gap ∧ Opens words rest

/-- The margin of a body: white space, and one mark among it or none. -/
def IsMargin (margin : List Char) : Prop :=
  ∃ outer inner, (∀ char ∈ outer ++ inner, isWhitespace char = true) ∧
    (margin = outer ++ ctcpDelimiter :: inner ∨ margin = outer ++ inner)

/-- The body of a request with some command words. -/
def IsRequest (words : List (List Char)) (body : String) : Prop :=
  ∃ opening core closing, body.toList = opening ++ (core ++ closing) ∧ IsMargin opening ∧
    IsMargin closing.reverse ∧ Opens words core

/-- A character that shows is no space, no mark and no field space. -/
theorem isSolid_spec {char : Char} (solid : isSolid char = true) :
    isWhitespace char = false ∧ char ≠ ctcpDelimiter ∧ isFieldSpace char = false := by
  rw [isSolid, Bool.and_eq_true, Bool.not_eq_true', Bool.not_eq_true'] at solid
  refine ⟨solid.1, ?_, ?_⟩
  · rintro rfl
    exact absurd solid.2 (by decide)
  · rw [isFieldSpace, Bool.or_eq_false_iff, beq_eq_false_iff_ne, beq_eq_false_iff_ne]
    constructor
    · rintro rfl
      exact absurd solid.1 (by decide)
    · rintro rfl
      exact absurd solid.1 (by decide)

/-- The two ends of a text that opens with words show, and its tokens are the words and more. -/
theorem Opens.tokens {words : List (List Char)} {text : List Char} (opens : Opens words text) :
    text.head?.any isSolid = true ∧ text.getLast?.any isSolid = true ∧
      ∃ secrets, secrets ≠ [] ∧ fieldTokens text = words ++ secrets := by
  induction words generalizing text with
  | nil =>
      obtain ⟨first, last⟩ := opens
      refine ⟨first, last, fieldTokens text, ?_, (List.nil_append _).symm⟩
      cases text with
      | nil => cases first
      | cons char rest =>
          exact fieldTokens_ne_nil List.mem_cons_self (isSolid_spec first).2.2
  | cons word words inductionHypothesis =>
      obtain ⟨gap, rest, rfl, ⟨begins, clean⟩, ⟨wide, blank⟩, later⟩ := opens
      obtain ⟨first, last, secrets, secret, tokens⟩ := inductionHypothesis later
      have spaced (gap : List Char) (blank : ∀ char ∈ gap, isFieldSpace char = true) :
          fieldTokens (gap ++ rest) = fieldTokens rest := by
        induction gap with
        | nil => rfl
        | cons space gap inductionHypothesis =>
            rw [List.cons_append, fieldTokens_space (blank space List.mem_cons_self)]
            exact inductionHypothesis fun char present => blank char (List.mem_cons_of_mem _ present)
      cases word with
      | nil => cases begins
      | cons char more =>
          cases gap with
          | nil => exact absurd rfl wide
          | cons space gap =>
              have here := blank space List.mem_cons_self
              refine ⟨begins, ?_, secrets, secret, ?_⟩
              · have some : rest ≠ [] := by
                  rintro rfl
                  cases first
                rw [List.getLast?_append_of_ne_nil _ (by simp),
                  List.getLast?_append_of_ne_nil _ some]
                exact last
              · show fieldTokens (char :: more ++ space :: (gap ++ rest)) = _
                rw [fieldTokens_word (List.cons_ne_nil _ _) clean here,
                  spaced gap fun char present => blank char (List.mem_cons_of_mem _ present), tokens]
                rfl

/-- A margin is white space, and what unwraps to white space. -/
theorem IsMargin.parts {margin : List Char} (margins : IsMargin margin) :
    ∃ outer frame inner, margin = outer ++ frame ∧ (∀ char ∈ outer, isWhitespace char = true) ∧
      (∀ char ∈ inner, isWhitespace char = true) ∧
        ∀ rest : List Char, rest.head?.any isSolid = true →
          stripMark (frame ++ rest) = inner ++ rest ∧
            (frame ++ rest).head?.any isWhitespace = false := by
  obtain ⟨outer, inner, blank, rfl | rfl⟩ := margins
  · refine ⟨outer, ctcpDelimiter :: inner, inner, rfl,
      fun char present => blank char (List.mem_append_left _ present),
      fun char present => blank char (List.mem_append_right _ present), fun rest _ => ⟨?_, rfl⟩⟩
    rw [List.cons_append, stripMark, if_pos rfl]
  · refine ⟨outer ++ inner, [], [], (List.append_nil _).symm, blank, nofun, fun rest first => ?_⟩
    cases rest with
    | nil => cases first
    | cons char rest =>
        obtain ⟨shows, unmarked, -⟩ := isSolid_spec first
        rw [List.nil_append, stripMark, if_neg unmarked]
        exact ⟨rfl, shows⟩

theorem toList_trim (text : String) : (trim text).toList = trimChars text.toList := by
  rw [trim, String.toList_ofList, trimChars]

theorem serviceBodyTokens_eq (body : String) :
    serviceBodyTokens body = (fieldTokens (trimChars
      (stripMark (stripMark (trimChars body.toList)).reverse).reverse)).map String.ofList := by
  rw [serviceBodyTokens, toList_trim, toList_trim, String.toList_ofList, fieldTokens]

/-- The tokens of a request are its command words and more. -/
theorem IsRequest.tokens {words : List (List Char)} {body : String} (request : IsRequest words body) :
    ∃ secrets, secrets ≠ [] ∧ serviceBodyTokens body = (words ++ secrets).map String.ofList := by
  obtain ⟨opening, core, closing, text, before, after, opens⟩ := request
  obtain ⟨first, last, secrets, secret, tokens⟩ := opens.tokens
  obtain ⟨outer, frame, inner, rfl, outerBlank, innerBlank, unwraps⟩ := before.parts
  obtain ⟨outer', frame', inner', shape', outerBlank', innerBlank', unwraps'⟩ := after.parts
  have close : closing = frame'.reverse ++ outer'.reverse := by
    rw [← List.reverse_append, ← shape', List.reverse_reverse]
  have some : core ≠ [] := by
    rintro rfl
    cases first
  have firstBack : core.reverse.head?.any isSolid = true := by
    rw [List.head?_reverse]
    exact last
  have solidFirst (back : List Char) : (core ++ back).head?.any isSolid = true := by
    rw [List.head?_append_of_ne_nil _ some]
    exact first
  have solidLast (back : List Char) : (core.reverse ++ back).head?.any isSolid = true := by
    rw [List.head?_append_of_ne_nil _ (by simpa using some)]
    exact firstBack
  -- The white space around the frames goes, then the frames, then the white space within.
  have trimmed : trimChars body.toList = frame ++ (core ++ frame'.reverse) := by
    have whole : body.toList = outer ++ ((frame ++ (core ++ frame'.reverse)) ++ outer'.reverse) := by
      rw [text, close]
      simp
    have ends : (frame ++ (core ++ frame'.reverse)).getLast?.any isWhitespace = false := by
      rw [← List.head?_reverse, List.reverse_append, List.reverse_append, List.reverse_reverse,
        List.append_assoc]
      exact (unwraps' _ (solidLast _)).2
    rw [whole, trimChars_around outerBlank
      (fun char present => outerBlank' char (List.mem_reverse.mp present))
      (unwraps _ (solidFirst _)).2 ends (by simp [some])]
  have unframed : stripMark (trimChars body.toList) = inner ++ (core ++ frame'.reverse) := by
    rw [trimmed]
    exact (unwraps _ (solidFirst _)).1
  have closed : (stripMark (stripMark (trimChars body.toList)).reverse).reverse =
      inner ++ (core ++ inner'.reverse) := by
    have back : (inner ++ (core ++ frame'.reverse)).reverse =
        frame' ++ (core.reverse ++ inner.reverse) := by
      simp
    rw [unframed, back, (unwraps' _ (solidLast _)).1]
    simp
  have left : trimChars (inner ++ (core ++ inner'.reverse)) = core := by
    have shown {char : Option Char} (shows : char.any isSolid = true) :
        char.any isWhitespace = false := by
      cases char with
      | none => rfl
      | some char => exact (isSolid_spec shows).1
    exact trimChars_around innerBlank
      (fun char present => innerBlank' char (List.mem_reverse.mp present)) (shown first)
      (shown last) some
  refine ⟨secrets, secret, ?_⟩
  rw [serviceBodyTokens_eq, closed, left, tokens]

section Noninterference

variable [Platform]

/-- The password command that a word is, or is an edit away from. -/
def commandOf (word : List Char) : Option String :=
  let first := simpleUpper (String.ofList word)
  (servicePasswordCommands.find? fun command => command = first).or (nearestServicePassword first)

/-- The words that announce a password to a service: one of the commands, or the two that set the
password. -/
inductive IsPhrase : List (List Char) → Prop
  | command (word : List Char) (found : (commandOf word).isSome = true) : IsPhrase [word]
  | setPassword (word second : List Char) (set : simpleUpper (String.ofList word) = "SET")
      (near : alnumOnlyUpper (String.ofList second) = "PASSWORD".toList ∨
        letterDistance (alnumOnlyUpper (String.ofList second)) "PASSWORD".toList = 1) :
      IsPhrase [word, second]

/-- The words that announce a password decide what is shown of a request. -/
theorem IsPhrase.matched {words : List (List Char)} (phrase : IsPhrase words) :
    ∃ command, ∀ secrets : List (List Char), secrets ≠ [] →
      matchedServiceCommand ((words ++ secrets).map String.ofList) = some command := by
  cases phrase with
  | command word found =>
      obtain ⟨command, found⟩ := Option.isSome_iff_exists.mp found
      refine ⟨command, fun secrets secret => ?_⟩
      cases secrets with
      | nil => exact absurd rfl secret
      | cons second rest =>
          show matchedServiceCommand (String.ofList word :: String.ofList second ::
            rest.map String.ofList) = _
          rw [commandOf] at found
          rw [matchedServiceCommand]
          dsimp only at found ⊢
          cases exact : servicePasswordCommands.find? fun command =>
              command = simpleUpper (String.ofList word) with
          | some command' =>
              rw [exact, Option.some_or] at found
              exact found
          | none =>
              rw [exact, Option.none_or] at found
              rw [found]
  | setPassword word second set near =>
      refine ⟨"SET PASSWORD", fun secrets secret => ?_⟩
      cases secrets with
      | nil => exact absurd rfl secret
      | cons third rest =>
          show matchedServiceCommand (String.ofList word :: String.ofList second ::
            (third :: rest).map String.ofList) = _
          rw [matchedServiceCommand]
          dsimp only
          rw [set, show (servicePasswordCommands.find? fun command => command = "SET") = none by
            decide, show nearestServicePassword "SET" = none by decide]
          dsimp only
          have either := near
          rw [← decide_eq_true_eq (p := alnumOnlyUpper (String.ofList second) = _),
            ← decide_eq_true_eq (p := letterDistance _ _ = 1), ← Bool.or_eq_true] at either
          rw [List.map_cons, if_pos (by rfl)]
          exact if_pos either

/-- Commands that differ in their secrets alone. Behind the visible parameters everything is secret,
but for a mode string of known letters, where the arguments of its keys are, and for a request to a
service, where all is that follows the words that announce a password. -/
inductive SecretsDiffer (channelTypes : String) : WireCommand → WireCommand → Prop
  | tail (rule : SecretRule) (listed : rule ∈ secretMap) (shape : rule.shape = .tailAfterParameters)
      (left right : List String) (long : rule.visibleParameters < left.length)
      (long' : rule.visibleParameters < right.length)
      (same : left.take rule.visibleParameters = right.take rule.visibleParameters) :
      SecretsDiffer channelTypes ⟨rule.verb, left⟩ ⟨rule.verb, right⟩
  | keys (rule : SecretRule) (listed : rule ∈ secretMap) (shape : rule.shape = .keyedModeTail)
      (left right : List String)
      (known : ambiguousModes (modesOf left rule.visibleParameters) = false)
      (keyed : HasKeyArgument left rule.visibleParameters) (size : left.length = right.length)
      (same : ∀ index, index ∉ keyPositions left rule.visibleParameters →
        left[index]? = right[index]?) :
      SecretsDiffer channelTypes ⟨rule.verb, left⟩ ⟨rule.verb, right⟩
  | arguments (rule : SecretRule) (listed : rule ∈ secretMap) (shape : rule.shape = .keyedModeTail)
      (left right : List String)
      (ambiguous : ambiguousModes (modesOf left rule.visibleParameters) = true)
      (key : 107 ∈ modesOf left rule.visibleParameters)
      (long : rule.visibleParameters < left.length) (long' : rule.visibleParameters < right.length)
      (same : left.take rule.visibleParameters = right.take rule.visibleParameters) :
      SecretsDiffer channelTypes ⟨rule.verb, left⟩ ⟨rule.verb, right⟩
  | request (rule : SecretRule) (listed : rule ∈ secretMap)
      (shape : rule.shape = .serviceRequestBody) (target : String)
      (toPerson : hasPrivateRecipient target channelTypes = true) (first first' : String)
      (others others' : List String) (words : List (List Char)) (phrase : IsPhrase words)
      (body : IsRequest words (joinTexts " " (first :: others)))
      (body' : IsRequest words (joinTexts " " (first' :: others'))) :
      SecretsDiffer channelTypes ⟨rule.verb, target :: first :: others⟩
        ⟨rule.verb, target :: first' :: others'⟩

omit [Platform] in
/-- A rule is found by its verb. -/
theorem secretRuleFor_listed {rule : SecretRule} (listed : rule ∈ secretMap) :
    secretRuleFor rule.verb = some rule := by
  have all : ∀ rule ∈ secretMap, secretRuleFor rule.verb = some rule := by decide
  exact all rule listed

omit [Platform] in
/-- The visible parameters of a mode string hold the mode string. -/
theorem two_le_visible {rule : SecretRule} (listed : rule ∈ secretMap)
    (shape : rule.shape = .keyedModeTail) : 2 ≤ rule.visibleParameters := by
  have all : ∀ rule ∈ secretMap, rule.shape = .keyedModeTail → 2 ≤ rule.visibleParameters := by
    decide
  exact all rule listed shape

omit [Platform] in
/-- Parameters that agree as far as the mode string have the same one. -/
theorem modesOf_congr {left right : List String} {visible : Nat}
    (same : left[visible - 1]? = right[visible - 1]?) : modesOf left visible = modesOf right visible := by
  rw [modesOf, modesOf, List.getD_eq_getElem?_getD, List.getD_eq_getElem?_getD, same]

/-- Commands that differ in their secrets alone have one mask. -/
theorem SecretsDiffer.mask {channelTypes : String} {left right : WireCommand}
    (differ : SecretsDiffer channelTypes left right) :
    ∃ masked, secretMask left channelTypes = some masked ∧
      secretMask right channelTypes = some masked := by
  cases differ with
  | tail rule listed shape left right long long' same =>
      refine ⟨⟨rule.verb, left.take rule.visibleParameters ++ [secretStars]⟩, ?_, ?_⟩
      · rw [secretMask, secretRuleFor_listed listed]
        dsimp only
        rw [shape]
        exact maskTailAfterParameters_eq long
      · rw [secretMask, secretRuleFor_listed listed]
        dsimp only
        rw [shape, same]
        exact maskTailAfterParameters_eq long'
  | keys rule listed shape left right known keyed size same =>
      have two := two_le_visible listed shape
      have modes : modesOf left rule.visibleParameters = modesOf right rule.visibleParameters := by
        refine modesOf_congr (same _ fun secret => ?_)
        have behind := le_of_mem_keyArguments secret
        omega
      have positions : keyPositions left rule.visibleParameters =
          keyPositions right rule.visibleParameters := by
        rw [keyPositions, keyPositions, modes]
      have keyed' : HasKeyArgument right rule.visibleParameters := by
        obtain ⟨position, secret, inside⟩ := keyed
        exact ⟨position, positions ▸ secret, size ▸ inside⟩
      refine ⟨⟨rule.verb, starsAt (keyPositions left rule.visibleParameters) left⟩, ?_, ?_⟩
      · rw [secretMask, secretRuleFor_listed listed]
        dsimp only
        rw [shape]
        exact maskKeyedModeTail_known two known keyed
      · rw [secretMask, secretRuleFor_listed listed]
        dsimp only
        rw [shape, starsAt_congr size same, positions]
        exact maskKeyedModeTail_known two (modes ▸ known) keyed'
  | arguments rule listed shape left right ambiguous key long long' same =>
      have two := two_le_visible listed shape
      have modes : modesOf left rule.visibleParameters = modesOf right rule.visibleParameters := by
        refine modesOf_congr ?_
        have here := congrArg (fun parameters : List String => parameters[rule.visibleParameters - 1]?)
          same
        rwa [List.getElem?_take_of_lt (by omega), List.getElem?_take_of_lt (by omega)] at here
      refine ⟨⟨rule.verb, left.take rule.visibleParameters ++ [secretStars]⟩, ?_, ?_⟩
      · rw [secretMask, secretRuleFor_listed listed]
        dsimp only
        rw [shape]
        refine (maskKeyedModeTail_ambiguous two long key ambiguous).trans ?_
        exact maskTailAfterParameters_eq long
      · rw [secretMask, secretRuleFor_listed listed]
        dsimp only
        rw [shape, same]
        refine (maskKeyedModeTail_ambiguous two long' (modes ▸ key) (modes ▸ ambiguous)).trans ?_
        exact maskTailAfterParameters_eq long'
  | request rule listed shape target toPerson first first' others others' words phrase body body' =>
      obtain ⟨command, matched⟩ := phrase.matched
      have masks (first : String) (others : List String)
          (body : IsRequest words (joinTexts " " (first :: others))) :
          secretMask ⟨rule.verb, target :: first :: others⟩ channelTypes =
            some ⟨rule.verb, [target, command ++ " " ++ secretStars]⟩ := by
        obtain ⟨secrets, secret, tokens⟩ := body.tokens
        rw [secretMask, secretRuleFor_listed listed]
        dsimp only
        rw [shape]
        dsimp only
        rw [maskServiceRequestBody]
        dsimp only
        rw [toPerson, Bool.not_true, if_neg Bool.false_ne_true, tokens, matched secrets secret]
      exact ⟨_, masks first others body, masks first' others' body'⟩

end Noninterference

end Omairc.Irc
