import Mathlib.Data.List.Basic
import Mathlib.Logic.Function.Basic
import Omairc.Text.Strings

/-!
# Rank changes of a MODE line

PREFIX and CHANMODES name the rank modes of a server and say which other channel modes
take a parameter. A MODE line is walked from left to right against the table built from
them. `prefixChanges_eq_reference` compares the walk with a reading by position: the
argument of a letter is the one whose number is the count of the letters before it that
take one.
-/

namespace Omairc.Irc

open Omairc.Text

/-- One mode-driven rank grant or revoke. -/
structure IrcPrefixChange where
  nick : String
  letter : UInt8
  grant : Bool
  deriving DecidableEq

/-- Whether a channel-mode letter consumes a parameter. -/
inductive ModeParamRule
  | never
  | always
  | setOnly
  | rank
  deriving DecidableEq

/-- One PREFIX entry: the lowercase mode letter and its symbol. -/
structure PrefixPair where
  mode : UInt8
  symbol : UInt8

/-- CHANMODES groups A, B, C and D. -/
structure ChanModes where
  a : String := "b"
  b : String := "k"
  c : String := "l"
  d : String := "imnpst"

/-- The part of the server features that a MODE line is read with. -/
structure ModeFeatures where
  prefixPairs : List PrefixPair
  chanModes : ChanModes
  modeRules : UInt8 → ModeParamRule

/-- The default PREFIX letters and symbols, highest rank first. -/
def defaultPrefix : Bytes × Bytes := (utf8 "qaohv", utf8 "~&@%+")

/-- The modes and symbols of a PREFIX value, as the server wrote them. A value that is
malformed or not ASCII has none. -/
def splitPrefix (value : String) : Option (Bytes × Bytes) :=
  match utf8 value with
  | 40 :: rest =>
      if rest.length < 3 then none
      else
        let modes := rest.takeWhile (· != 41)
        match rest.dropWhile (· != 41) with
        | [] => none
        | _ :: symbols =>
            if modes = [] ∨ modes.length ≠ symbols.length ∨ ¬ modes.all (· < 128) ∨
                ¬ symbols.all (· < 128) then none
            else some (modes, symbols)
  | _ => none

/-- The pairs of an advertised PREFIX. -/
def prefixPairs (advertised : Bytes × Bytes) : List PrefixPair :=
  (advertised.1.zip advertised.2).map fun (mode, symbol) =>
    { mode := toAsciiLowercase mode, symbol }

/-- CHANMODES must carry exactly four comma-separated groups. -/
def splitChanModes (value : String) : Option ChanModes :=
  match splitText ',' value with
  | [a, b, c, d] => some { a, b, c, d }
  | _ => none

/-- Give every letter of a group its rule. -/
def setRules (rule : ModeParamRule) (letters : Bytes) (rules : UInt8 → ModeParamRule) :
    UInt8 → ModeParamRule :=
  letters.foldl (fun rules letter => Function.update rules letter rule) rules

namespace ModeFeatures

/-- The table of mode rules: the groups in order, then the rank letters. -/
def rebuildModeRules (features : ModeFeatures) : ModeFeatures :=
  let groups := features.chanModes
  let rules := setRules .never (utf8 groups.d) (setRules .setOnly (utf8 groups.c)
    (setRules .always (utf8 groups.b) (setRules .always (utf8 groups.a) fun _ => .never)))
  { features with modeRules := setRules .rank (features.prefixPairs.map PrefixPair.mode) rules }

/-- Features before any advertisement. -/
def new : ModeFeatures :=
  rebuildModeRules
    { prefixPairs := Irc.prefixPairs defaultPrefix, chanModes := {}, modeRules := fun _ => .never }

/-- Apply one ISUPPORT token. The removal forms change nothing here. -/
def applyToken (features : ModeFeatures) (token : String) : ModeFeatures :=
  match stripLead "-" token with
  | some _ => features
  | none =>
      let (name, value) := (splitTextOnce '=' token).getD (token, "")
      match name with
      | "PREFIX" =>
          match splitPrefix value with
          | some advertised =>
              rebuildModeRules { features with prefixPairs := Irc.prefixPairs advertised }
          | none => features
      | "CHANMODES" =>
          match splitChanModes value with
          | some groups => rebuildModeRules { features with chanModes := groups }
          | none => features
      | _ => features

/-- Apply a batch of ISUPPORT tokens in order. -/
def applyTokens (features : ModeFeatures) (tokens : List String) : ModeFeatures :=
  tokens.foldl applyToken features

/-- The rule for a letter. A rank letter wins over any CHANMODES group, in either case. -/
def ruleFor (features : ModeFeatures) (raw : UInt8) : ModeParamRule :=
  if features.modeRules (toAsciiLowercase raw) = .rank then .rank else features.modeRules raw

/-- The walk over a MODE line: the changes found, the sign in force and the number of the
next argument. -/
structure Walk where
  changes : List IrcPrefixChange := []
  grant : Bool := true
  argument : Nat := 0

/-- One letter of a MODE line. -/
def walkLetter (features : ModeFeatures) (arguments : List String) (walk : Walk) (raw : UInt8) :
    Walk :=
  if raw = 43 then { walk with grant := true }
  else if raw = 45 then { walk with grant := false }
  else
    let letter := toAsciiLowercase raw
    let rule := features.ruleFor raw
    if rule = .rank then
      match arguments[walk.argument]? with
      | none => walk
      | some nick =>
          { walk with
            changes := walk.changes ++ [{ nick, letter, grant := walk.grant }]
            argument := walk.argument + 1 }
    else
      let consumes := rule = .always ∨ rule = .setOnly ∧ walk.grant
      if consumes ∧ walk.argument < arguments.length then
        { walk with argument := walk.argument + 1 }
      else walk

/-- The rank grants and revokes of one MODE line. -/
def prefixChanges (features : ModeFeatures) (mode : String) (arguments : List String) :
    List IrcPrefixChange :=
  ((utf8 mode).foldl (features.walkLetter arguments) {}).changes

end ModeFeatures

/-! ## The reading by position -/

/-- The PREFIX a token advertises, if it is well formed. -/
def advertisedPrefix (token : String) : Option (Bytes × Bytes) :=
  (splitTextOnce '=' token).bind fun (name, value) =>
    if name = "PREFIX" then splitPrefix value else none

/-- The CHANMODES a token advertises, if it is well formed. -/
def advertisedChanModes (token : String) : Option ChanModes :=
  (splitTextOnce '=' token).bind fun (name, value) =>
    if name = "CHANMODES" then splitChanModes value else none

/-- The rank letters in force, as the server wrote them: those of the last well-formed
PREFIX. -/
def rankLetters (tokens : List String) : Bytes :=
  ((tokens.filterMap advertisedPrefix).getLast?.getD defaultPrefix).1

/-- The groups in force: those of the last well-formed CHANMODES. -/
def groupsInForce (tokens : List String) : ChanModes :=
  (tokens.filterMap advertisedChanModes).getLast?.getD {}

/-- The class of a letter: a rank, or else that of the last group that lists it. -/
def classOf (isRank : UInt8 → Bool) (groups : ChanModes) (letter : UInt8) : ModeParamRule :=
  if isRank letter then .rank
  else if letter ∈ utf8 groups.d then .never
  else if letter ∈ utf8 groups.c then .setOnly
  else if letter ∈ utf8 groups.b ∨ letter ∈ utf8 groups.a then .always
  else .never

/-- The sign in force after some letters. -/
def signAfter (letters : Bytes) : Bool :=
  (letters.filter fun letter => letter = 43 ∨ letter = 45).getLast?.getD 43 = 43

/-- Whether a letter takes an argument under a sign. -/
def takesArgument (classes : UInt8 → ModeParamRule) (grant : Bool) (letter : UInt8) : Bool :=
  letter ≠ 43 ∧ letter ≠ 45 ∧
    (classes letter = .rank ∨ classes letter = .always ∨ classes letter = .setOnly ∧ grant)

/-- How many of the letters take an argument, each under the sign in force before it. -/
def argumentsTaken (classes : UInt8 → ModeParamRule) (letters : Bytes) : Nat :=
  ((List.range letters.length).filter fun position =>
    (letters[position]?).any (takesArgument classes (signAfter (letters.take position)))).length

/-- The change the letter at a position makes: none unless it is a rank letter with an
argument of its own. -/
def changeAt (classes : UInt8 → ModeParamRule) (letters : Bytes) (arguments : List String)
    (position : Nat) : Option IrcPrefixChange :=
  match letters[position]? with
  | none => none
  | some letter =>
      if letter = 43 ∨ letter = 45 ∨ classes letter ≠ .rank then none
      else
        (arguments[argumentsTaken classes (letters.take position)]?).map fun nick =>
          { nick, letter := toAsciiLowercase letter, grant := signAfter (letters.take position) }

/-- The changes of a MODE line, position by position. -/
def referenceChanges (classes : UInt8 → ModeParamRule) (mode : String)
    (arguments : List String) : List IrcPrefixChange :=
  (List.range (utf8 mode).length).filterMap (changeAt classes (utf8 mode) arguments)

/-! ## The table -/

/-- Lower casing is idempotent. -/
@[simp] theorem toAsciiLowercase_idem (byte : UInt8) :
    toAsciiLowercase (toAsciiLowercase byte) = toAsciiLowercase byte := by
  revert byte
  exact byte_forall (by decide +kernel)

theorem setRules_apply (rule : ModeParamRule) (letters : Bytes)
    (rules : UInt8 → ModeParamRule) (letter : UInt8) :
    setRules rule letters rules letter = if letter ∈ letters then rule else rules letter := by
  induction letters generalizing rules with
  | nil => rfl
  | cons head rest inductionHypothesis =>
      show setRules rule rest (Function.update rules head rule) letter = _
      rw [inductionHypothesis]
      by_cases later : letter ∈ rest
      · rw [if_pos later, if_pos (List.mem_cons_of_mem _ later)]
      · rw [if_neg later]
        by_cases same : letter = head
        · rw [same, Function.update_self, if_pos List.mem_cons_self]
        · rw [Function.update_of_ne same, if_neg]
          intro mem
          exact (List.mem_cons.mp mem).elim same later

/-- A PREFIX that is taken has as many symbols as modes. -/
theorem splitPrefix_length {value : String} {advertised : Bytes × Bytes}
    (split : splitPrefix value = some advertised) :
    advertised.1.length = advertised.2.length := by
  unfold splitPrefix at split
  split at split
  · split at split
    · cases split
    · split at split
      · cases split
      · simp only at split
        split at split
        · cases split
        · rename_i refused
          cases split
          rw [not_or, not_or] at refused
          exact not_not.mp refused.2.1
  · cases split

theorem modes_prefixPairs {advertised : Bytes × Bytes}
    (same : advertised.1.length = advertised.2.length) :
    (prefixPairs advertised).map PrefixPair.mode = advertised.1.map toAsciiLowercase := by
  rw [prefixPairs, List.map_map]
  calc (advertised.1.zip advertised.2).map _
      = ((advertised.1.zip advertised.2).map Prod.fst).map toAsciiLowercase := by
        rw [List.map_map]
        rfl
    _ = advertised.1.map toAsciiLowercase := by
        rw [List.map_fst_zip (Nat.le_of_eq same)]

/-- The features under one PREFIX and one CHANMODES. -/
def ModeFeatures.built (advertised : Bytes × Bytes) (groups : ChanModes) : ModeFeatures :=
  rebuildModeRules
    { prefixPairs := Irc.prefixPairs advertised, chanModes := groups, modeRules := fun _ => .never }

/-- What a removal form names starts with a dash. -/
theorem head_of_removal {token removed name value : String}
    (removal : stripLead "-" token = some removed)
    (split : splitTextOnce '=' token = some (name, value)) : name.toList.head? = some '-' := by
  unfold stripLead at removal
  split at removal
  · rename_i leads
    obtain ⟨rest, shape⟩ := List.isPrefixOf_iff_prefix.mp leads
    have text : token.toList = '-' :: rest := shape.symm
    unfold splitTextOnce at split
    split at split
    · obtain ⟨rfl, _⟩ := Prod.mk.inj (Option.some.inj split)
      rw [text, String.toList_ofList]
      rfl
    · cases split
  · cases removal

/-- A token replaces the PREFIX or the CHANMODES it advertises. -/
theorem ModeFeatures.applyToken_built (advertised : Bytes × Bytes) (groups : ChanModes)
    (token : String) :
    (built advertised groups).applyToken token =
      built ((advertisedPrefix token).getD advertised)
        ((advertisedChanModes token).getD groups) := by
  unfold applyToken advertisedPrefix advertisedChanModes
  cases removal : stripLead "-" token with
  | some removed =>
      cases split : splitTextOnce '=' token with
      | none => rfl
      | some pair =>
          obtain ⟨name, value⟩ := pair
          have dashed := head_of_removal removal split
          have notPrefix : name ≠ "PREFIX" := by
            rintro rfl
            cases dashed
          have notChanModes : name ≠ "CHANMODES" := by
            rintro rfl
            cases dashed
          simp only [Option.bind_some, if_neg notPrefix, if_neg notChanModes, Option.getD_none]
  | none =>
      cases split : splitTextOnce '=' token with
      | none =>
          simp only [Option.getD_none, Option.bind_none]
          split
          · rfl
          · rfl
          · rfl
      | some pair =>
          obtain ⟨name, value⟩ := pair
          simp only [Option.getD_some, Option.bind_some]
          split
          · rw [if_pos rfl, if_neg (by decide)]
            cases splitPrefix value <;> rfl
          · rw [if_pos rfl, if_neg (by decide)]
            cases splitChanModes value <;> rfl
          · rename_i notPrefix notChanModes
            rw [if_neg notPrefix, if_neg notChanModes]
            rfl

/-- The features after a batch of tokens. -/
theorem ModeFeatures.applyTokens_built (advertised : Bytes × Bytes) (groups : ChanModes)
    (tokens : List String) :
    (built advertised groups).applyTokens tokens =
      built ((tokens.filterMap advertisedPrefix).getLast?.getD advertised)
        ((tokens.filterMap advertisedChanModes).getLast?.getD groups) := by
  have last : ∀ {α : Type} (found : Option α) (later : List α) (before : α),
      later.getLast?.getD (found.getD before) = (found.toList ++ later).getLast?.getD before := by
    intro α found later before
    cases found with
    | none => rfl
    | some value => cases later <;> simp [List.getLast?_cons]
  induction tokens generalizing advertised groups with
  | nil => rfl
  | cons token rest inductionHypothesis =>
      show ((built advertised groups).applyToken token).applyTokens rest = _
      rw [applyToken_built, inductionHypothesis, last, last]
      congr 3
      · cases found : advertisedPrefix token <;> simp [found]
      · cases found : advertisedChanModes token <;> simp [found]

/-- The rule of a letter is its class, where rank letters count in either case. -/
theorem ModeFeatures.ruleFor_built {advertised : Bytes × Bytes}
    (same : advertised.1.length = advertised.2.length) (groups : ChanModes) (raw : UInt8) :
    (built advertised groups).ruleFor raw =
      classOf (fun letter => toAsciiLowercase letter ∈ advertised.1.map toAsciiLowercase)
        groups raw := by
  have rules : ∀ letter, (built advertised groups).modeRules letter =
      classOf (fun letter => letter ∈ advertised.1.map toAsciiLowercase) groups letter := by
    intro letter
    show setRules .rank ((Irc.prefixPairs advertised).map PrefixPair.mode) _ letter = _
    rw [modes_prefixPairs same, setRules_apply, setRules_apply, setRules_apply, setRules_apply,
      setRules_apply, classOf]
    simp only [decide_eq_true_eq]
    split
    · rfl
    · split
      · rfl
      · split
        · rfl
        · split
          · rename_i listed
            rw [if_pos (.inl listed)]
          · rename_i unlisted
            by_cases listed : letter ∈ utf8 groups.a
            · rw [if_pos listed, if_pos (.inr listed)]
            · rw [if_neg listed, if_neg (not_or.mpr ⟨unlisted, listed⟩)]
  have ranked : ∀ letter, (built advertised groups).modeRules letter = .rank ↔
      letter ∈ advertised.1.map toAsciiLowercase := by
    intro letter
    rw [rules, classOf]
    constructor
    · intro rank
      by_contra unlisted
      rw [if_neg (by simpa using unlisted)] at rank
      split at rank
      · cases rank
      · split at rank
        · cases rank
        · split at rank <;> cases rank
    · intro listed
      exact if_pos (by simpa using listed)
  rw [ruleFor]
  by_cases listed : toAsciiLowercase raw ∈ advertised.1.map toAsciiLowercase
  · rw [if_pos ((ranked _).mpr listed), classOf, if_pos (decide_eq_true listed)]
  · -- Every rank letter of the table is lowercase.
    have small : raw ∉ advertised.1.map toAsciiLowercase := by
      intro mem
      obtain ⟨mode, wrote, rfl⟩ := List.mem_map.mp mem
      exact listed (List.mem_map.mpr ⟨mode, wrote, (toAsciiLowercase_idem mode).symm⟩)
    rw [if_neg fun rank => listed ((ranked _).mp rank), rules, classOf,
      if_neg (fun rank => small (of_decide_eq_true rank)), classOf,
      if_neg (fun rank => listed (of_decide_eq_true rank))]

/-! ## The walk -/

theorem signAfter_concat (letters : Bytes) (letter : UInt8) :
    signAfter (letters ++ [letter]) =
      if letter = 43 then true else if letter = 45 then false else signAfter letters := by
  unfold signAfter
  rw [List.filter_append]
  by_cases plus : letter = 43
  · simp [plus]
  · by_cases minus : letter = 45
    · simp [minus]
    · simp [plus, minus]

theorem getElem?_concat_of_lt {letters : Bytes} (letter : UInt8) {position : Nat}
    (before : position < letters.length) :
    (letters ++ [letter])[position]? = letters[position]? ∧
      (letters ++ [letter]).take position = letters.take position :=
  ⟨List.getElem?_append_left before, List.take_append_of_le_length (Nat.le_of_lt before)⟩

theorem argumentsTaken_concat (classes : UInt8 → ModeParamRule) (letters : Bytes)
    (letter : UInt8) :
    argumentsTaken classes (letters ++ [letter]) = argumentsTaken classes letters +
      if takesArgument classes (signAfter letters) letter then 1 else 0 := by
  unfold argumentsTaken
  rw [List.length_append, List.length_singleton, List.range_succ, List.filter_append,
    List.length_append]
  congr 1
  · congr 1
    apply List.filter_congr
    intro position mem
    obtain ⟨get, take⟩ := getElem?_concat_of_lt letter (List.mem_range.mp mem)
    rw [get, take]
  · have here : (letters ++ [letter])[letters.length]? = some letter :=
      List.getElem?_concat_length
    rw [List.filter_singleton, here, List.take_left, Option.any_some]
    cases takesArgument classes (signAfter letters) letter <;> rfl

theorem changes_concat (classes : UInt8 → ModeParamRule) (letters : Bytes) (letter : UInt8)
    (arguments : List String) :
    (List.range (letters ++ [letter]).length).filterMap
        (changeAt classes (letters ++ [letter]) arguments) =
      (List.range letters.length).filterMap (changeAt classes letters arguments) ++
        (if letter = 43 ∨ letter = 45 ∨ classes letter ≠ .rank then none
        else (arguments[argumentsTaken classes letters]?).map fun nick =>
          ({ nick, letter := toAsciiLowercase letter, grant := signAfter letters } :
            IrcPrefixChange)).toList := by
  rw [List.length_append, List.length_singleton, List.range_succ, List.filterMap_append]
  congr 1
  · apply List.filterMap_congr
    intro position mem
    obtain ⟨get, take⟩ := getElem?_concat_of_lt letter (List.mem_range.mp mem)
    rw [changeAt, changeAt, get, take]
  · have here : (letters ++ [letter])[letters.length]? = some letter :=
      List.getElem?_concat_length
    have single : ∀ (change : Nat → Option IrcPrefixChange) (position : Nat),
        [position].filterMap change = (change position).toList := by
      intro change position
      rw [List.filterMap_cons]
      cases change position <;> rfl
    rw [single, changeAt, here, List.take_left]

/-- What the walk holds after some letters: the sign in force, the changes of the
positions passed, and the number of arguments taken as far as there are any. -/
theorem ModeFeatures.walk_eq (features : ModeFeatures) (arguments : List String)
    (letters : Bytes) :
    letters.foldl (features.walkLetter arguments) {} =
      { changes := (List.range letters.length).filterMap
          (changeAt features.ruleFor letters arguments)
        grant := signAfter letters
        argument := min (argumentsTaken features.ruleFor letters) arguments.length } := by
  induction letters using List.reverseRecOn with
  | nil => simp [signAfter, argumentsTaken]
  | append_singleton letters letter inductionHypothesis =>
      rw [List.foldl_concat, inductionHypothesis, changes_concat, signAfter_concat,
        argumentsTaken_concat]
      clear inductionHypothesis
      generalize (List.range letters.length).filterMap _ = changes
      generalize argumentsTaken features.ruleFor letters = taken
      generalize signAfter letters = grant
      unfold walkLetter takesArgument
      by_cases plus : letter = 43
      · simp [plus]
      by_cases minus : letter = 45
      · simp [minus]
      simp only [plus, minus, if_false, false_or, ne_eq, not_false_eq_true, true_and]
      by_cases rank : features.ruleFor letter = .rank
      · simp only [rank, not_true_eq_false, if_false, if_true, true_or, decide_true]
        by_cases there : taken < arguments.length
        · rw [Nat.min_eq_left (Nat.le_of_lt there), List.getElem?_eq_getElem there]
          simp only [Option.map_some, Option.toList_some]
          rw [Nat.min_eq_left there]
        · have none_left := Nat.le_of_not_lt there
          rw [Nat.min_eq_right none_left, List.getElem?_eq_none none_left,
            List.getElem?_eq_none (Nat.le_refl _), Nat.min_eq_right (by omega)]
          simp
      · simp only [rank, if_false, not_false_eq_true, if_true, false_or, Option.toList_none,
          List.append_nil]
        by_cases consumes : features.ruleFor letter = .always ∨
            features.ruleFor letter = .setOnly ∧ grant = true
        · simp only [consumes, true_and, decide_true, if_true]
          split
          · rename_i there
            congr 1
            omega
          · rename_i there
            congr 1
            omega
        · simp only [consumes, false_and, if_false, decide_false, Bool.false_eq_true,
            Nat.add_zero]

/-- The changes the client derives are those of the reading by position, where the rank
letters are the advertised ones in either case and every other letter has the class of
its group. So a letter listed as a rank in neither case changes nobody, and the change of
a rank letter takes the argument whose number is the count of the letters before it that
take one. -/
theorem prefixChanges_eq_reference (tokens : List String) (mode : String)
    (arguments : List String) :
    (ModeFeatures.new.applyTokens tokens).prefixChanges mode arguments =
        referenceChanges
          (classOf
            (fun letter => toAsciiLowercase letter ∈ (rankLetters tokens).map toAsciiLowercase)
            (groupsInForce tokens))
          mode arguments ∧
      ∀ change ∈ (ModeFeatures.new.applyTokens tokens).prefixChanges mode arguments,
        ∃ letter ∈ utf8 mode, change.letter = toAsciiLowercase letter ∧
          change.letter ∈ (rankLetters tokens).map toAsciiLowercase := by
  have lengths : ((tokens.filterMap advertisedPrefix).getLast?.getD defaultPrefix).1.length =
      ((tokens.filterMap advertisedPrefix).getLast?.getD defaultPrefix).2.length := by
    cases last : (tokens.filterMap advertisedPrefix).getLast? with
    | none => decide
    | some advertised =>
        obtain ⟨token, _, found⟩ := List.mem_filterMap.mp (List.mem_of_getLast? last)
        obtain ⟨⟨name, value⟩, _, taken⟩ := Option.bind_eq_some_iff.mp found
        by_cases named : name = "PREFIX"
        · exact splitPrefix_length ((if_pos named).symm.trans taken)
        · cases (if_neg named).symm.trans taken
  have classes : (ModeFeatures.new.applyTokens tokens).ruleFor =
      classOf (fun letter => toAsciiLowercase letter ∈ (rankLetters tokens).map toAsciiLowercase)
        (groupsInForce tokens) := by
    funext letter
    show ((ModeFeatures.built defaultPrefix {}).applyTokens tokens).ruleFor letter = _
    rw [ModeFeatures.applyTokens_built, ModeFeatures.ruleFor_built lengths]
    rfl
  have equal : (ModeFeatures.new.applyTokens tokens).prefixChanges mode arguments =
      referenceChanges (ModeFeatures.new.applyTokens tokens).ruleFor mode arguments := by
    rw [ModeFeatures.prefixChanges, ModeFeatures.walk_eq]
    rfl
  refine ⟨equal.trans (by rw [classes]), ?_⟩
  intro change mem
  rw [equal, classes] at mem
  obtain ⟨position, _, made⟩ := List.mem_filterMap.mp mem
  unfold changeAt at made
  split at made
  · cases made
  rename_i letter found
  split at made
  · cases made
  rename_i ranks
  obtain ⟨nick, _, rfl⟩ := Option.map_eq_some_iff.mp made
  refine ⟨letter, List.mem_of_getElem? found, rfl, ?_⟩
  by_contra unlisted
  refine ranks (.inr (.inr ?_))
  rw [classOf, if_neg fun rank => unlisted (of_decide_eq_true rank)]
  split
  · exact nofun
  · split
    · exact nofun
    · split <;> exact nofun

/-- With rank letters read in their own case the walk differs: `O` is a mode without a
parameter here, and the client takes it for the rank `o`. -/
theorem rank_letters_in_either_case :
    ¬ ∀ (tokens : List String) (mode : String) (arguments : List String),
      (ModeFeatures.new.applyTokens tokens).prefixChanges mode arguments =
        referenceChanges
          (classOf (fun letter => letter ∈ rankLetters tokens) (groupsInForce tokens))
          mode arguments := by
  intro same
  have differ := same ["PREFIX=(ov)@+", "CHANMODES=b,k,l,imnpstO"] "+O" ["alice"]
  revert differ
  decide

end Omairc.Irc
