import Omairc.Irc.CommandParams
import Omairc.Irc.TagEscaping
import Omairc.Session.Atomicity

/-!
# Commands are read as they were built

A builder takes its arguments apart, and the parser should give them back. The line
builders and the one-command senders are taken together: each writes a command, some
words, and perhaps a text behind a colon. The words are read back when each is a word,
which not every builder checks.
-/

namespace Omairc.Session

open Omairc.Text Omairc.Irc

/-- A call of a command builder, with its arguments. -/
inductive CommandBuilder
  | pass (password : String)
  | nick (nickname : String)
  | user (username realname : String)
  | join (channel key : String)
  | privmsg (target body : String)
  | notice (target body : String)
  | channelMode (request : IrcChannelModeRequest)
  | part (channel : String)
  | kick (channel nick reason : String)
  | invite (nick channel : String)
  | setTopic (channel topic : String)
  | setAway (reason : String)
  | markAway (reason : String)
  | changeNick (nick : String)
  | whois (nick requestLabel : String)
  | list (mask : String)

namespace Effect

/-- The frame of a write. -/
def frame? : Effect → Option Bytes
  | .write frame => some frame
  | _ => none

end Effect

/-- What a line is read as: its command and its parameters. -/
def readLine (built : Bytes) : Option (String × List Bytes) :=
  (parse (built.take (built.length - crlfBytes))).toOption.map fun message =>
    (message.command, message.params)

namespace Core

variable [Platform]

/-- The lines a sender wrote, if it says that it was sent. -/
def sentLines (core : Core) (operation : SendOperation) : List Bytes :=
  if (core.send operation).2 then
    ((core.send operation).1.effects.drop core.effects.length).filterMap Effect.frame?
  else []

end Core

namespace CommandBuilder

section Definitions

variable [Platform]

/-- The lines a builder returns, none when it refuses its arguments. -/
def built (core : Core) : CommandBuilder → List Bytes
  | .pass password => (Irc.pass password core.features).toOption.toList
  | .nick nickname => (Irc.nick nickname core.features).toOption.toList
  | .user username realname => (Irc.user username realname core.features).toOption.toList
  | .join channel key => (Irc.join channel key core.features).toOption.toList
  | .privmsg target body => core.sentLines (.privmsg target body)
  | .notice target body => core.sentLines (.notice target body)
  | .channelMode request => core.sentLines (.channelMode request)
  | .part channel => core.sentLines (.part channel)
  | .kick channel nickname reason => core.sentLines (.kick channel nickname reason)
  | .invite nickname channel => core.sentLines (.invite nickname channel)
  | .setTopic channel topic => core.sentLines (.setTopic channel topic)
  | .setAway reason => core.sentLines (.setAway reason)
  | .markAway reason => core.sentLines (.markAway reason)
  | .changeNick nickname => core.sentLines (.changeNick nickname)
  | .whois nickname requestLabel => core.sentLines (.whois nickname requestLabel)
  | .list mask => core.sentLines (.list mask)

end Definitions

/-- The command a builder is for. -/
def command : CommandBuilder → String
  | .pass _ => "PASS"
  | .nick _ => "NICK"
  | .user _ _ => "USER"
  | .join _ _ => "JOIN"
  | .privmsg _ _ => "PRIVMSG"
  | .notice _ _ => "NOTICE"
  | .channelMode _ => "MODE"
  | .part _ => "PART"
  | .kick _ _ _ => "KICK"
  | .invite _ _ => "INVITE"
  | .setTopic _ _ => "TOPIC"
  | .setAway _ => "AWAY"
  | .markAway _ => "AWAY"
  | .changeNick _ => "NICK"
  | .whois _ _ => "WHOIS"
  | .list _ => "LIST"

/-- The chunks of a message to a target. -/
def chunks (core : Core) (command target body : String) : List Bytes :=
  splitTrailingParam (utf8 (command ++ " " ++ target ++ " :")) (utf8 body) [] core.features

/-- An argument that is left out when it is empty. -/
def unlessEmpty (argument : String) : List Bytes := if argument = "" then [] else [utf8 argument]

/-- The arguments of each line, in the order of the lines. A long body is one argument for each
of its chunks. -/
def arguments (core : Core) : CommandBuilder → List (List Bytes)
  | .pass password => [[utf8 password]]
  | .nick nickname => [[utf8 nickname]]
  | .user username realname => [[utf8 username, utf8 "8", utf8 "*", utf8 realname]]
  | .join channel key => [utf8 channel :: unlessEmpty key]
  | .privmsg target body => (chunks core "PRIVMSG" target body).map fun chunk => [utf8 target, chunk]
  | .notice target body => (chunks core "NOTICE" target body).map fun chunk => [utf8 target, chunk]
  | .channelMode request =>
      [if request.query then [utf8 request.channel]
        else utf8 request.channel :: utf8 request.modes :: request.parameters.map utf8]
  | .part channel => [[utf8 channel]]
  | .kick channel nickname reason => [utf8 channel :: utf8 nickname :: unlessEmpty reason]
  | .invite nickname channel => [[utf8 nickname, utf8 channel]]
  | .setTopic channel topic => [[utf8 channel, utf8 topic]]
  | .setAway reason => [unlessEmpty reason]
  | .markAway reason => [[utf8 reason]]
  | .changeNick nickname => [[utf8 nickname]]
  | .whois nickname _ => [[utf8 nickname, utf8 nickname]]
  | .list mask => [unlessEmpty mask]

/-- Every line of a builder is read as its command with exactly its arguments. -/
def ReadsBack [Platform] (core : Core) (builder : CommandBuilder) : Prop :=
  (builder.built core).map readLine =
    (builder.arguments core).map fun arguments => some (builder.command, arguments)

/-- What the arguments must be for that. A text that the sender trims must be trimmed, and what
is written as a word must be one. -/
def Plain : CommandBuilder → Prop
  | .pass password => startsWithChar password ':' = false
  | .nick nickname => startsWithChar nickname ':' = false
  | .user username _ => startsWithChar username ':' = false
  | .join _ _ => True
  | .privmsg _ _ => True
  | .notice target _ => isWord target
  | .channelMode request =>
      ReadBack (maxParameters - 1)
        (if request.query then [utf8 request.channel]
          else utf8 request.channel :: utf8 request.modes :: request.parameters.map utf8) none
  | .part channel => isWord channel
  | .kick channel nickname _ => isWord channel ∧ isWord nickname
  | .invite nickname channel => isWord nickname ∧ isWord channel
  | .setTopic channel _ => isWord channel
  | .setAway reason => trim reason = reason
  | .markAway reason => trim reason = reason
  | .changeNick nickname => isWord nickname
  | .whois nickname _ => trim nickname = nickname ∧ isWord nickname
  | .list mask => trim mask = mask ∧ (mask = "" ∨ isWord mask)

/-- What the lines of a builder are made of: the words of each, and the text behind a colon. -/
def forms (core : Core) : CommandBuilder → List (List Bytes × Option Bytes)
  | .pass password => [([utf8 password], none)]
  | .nick nickname => [([utf8 nickname], none)]
  | .user username realname => [([utf8 username, utf8 "8", utf8 "*"], some (utf8 realname))]
  | .join channel key => [(utf8 channel :: unlessEmpty key, none)]
  | .privmsg target body =>
      (chunks core "PRIVMSG" target body).map fun chunk => ([utf8 target], some chunk)
  | .notice target body =>
      (chunks core "NOTICE" target body).map fun chunk => ([utf8 target], some chunk)
  | .channelMode request =>
      [(if request.query then [utf8 request.channel]
        else utf8 request.channel :: utf8 request.modes :: request.parameters.map utf8, none)]
  | .part channel => [([utf8 channel], none)]
  | .kick channel nickname reason =>
      [([utf8 channel, utf8 nickname], if reason = "" then none else some (utf8 reason))]
  | .invite nickname channel => [([utf8 nickname, utf8 channel], none)]
  | .setTopic channel topic => [([utf8 channel], some (utf8 topic))]
  | .setAway reason => [([], if trim reason = "" then none else some (utf8 (trim reason)))]
  | .markAway reason => [([], some (utf8 (trim reason)))]
  | .changeNick nickname => [([utf8 nickname], none)]
  | .whois nickname _ => [([utf8 (trim nickname), utf8 (trim nickname)], none)]
  | .list mask => [(unlessEmpty (trim mask), none)]

/-- The label of a builder's line. -/
def label : CommandBuilder → String
  | .whois _ requestLabel => requestLabel
  | _ => ""

/-- The name of a builder's command is one. -/
theorem named (builder : CommandBuilder) : IsCommandName builder.command := by
  cases builder
  all_goals
    constructor
    all_goals
      dsimp only [command]
      decide

end CommandBuilder

/-! ## Labels -/

/-- The bytes of a label that may be sent are no separators. -/
theorem isTagSafeLabel_bytes {label : String} (safe : isTagSafeLabel label = true) :
    label ≠ "" ∧ (utf8 label).length ≤ 64 ∧
      ∀ byte ∈ utf8 label, byte ≠ 32 ∧ byte ≠ 59 ∧ byte ≠ 61 ∧ byte ≠ 92 := by
  simp only [isTagSafeLabel, Bool.and_eq_true, decide_eq_true_eq, List.all_eq_true] at safe
  obtain ⟨⟨named, short⟩, bytes⟩ := safe
  refine ⟨named, short, fun byte present => ?_⟩
  have allowed := bytes byte present
  refine ⟨?_, ?_, ?_, ?_⟩
  all_goals
    rintro rfl
    cases allowed

/-- A value without a backslash is read as it stands. -/
theorem unescapeTagValue_of_notMem {value : Bytes} (plain : 92 ∉ value) :
    unescapeTagValue value = value := by
  induction value with
  | nil => rfl
  | cons byte rest inductionHypothesis =>
      obtain ⟨apart, later⟩ := not_or.mp (mt List.mem_cons.mpr plain)
      rw [unescapeTagValue_cons (Ne.symm apart), inductionHypothesis later]

/-- A label that may be sent is a tag value as it stands. -/
theorem parseTagSection_label {label : String} (safe : isTagSafeLabel label = true) {first : UInt8}
    {rest : Bytes} (notSpace : first ≠ 32) :
    parseTagSection (utf8 "@label=" ++ utf8 label ++ [32] ++ first :: rest) =
      .ok ([⟨"label", some (utf8 label)⟩], first :: rest) := by
  obtain ⟨-, short, bytes⟩ := isTagSafeLabel_bytes safe
  have lead : utf8 "@label=" = 64 :: utf8 "label=" := by decide
  have key : utf8 "label=" = utf8 "label" ++ [61] := by decide
  have outside (byte : UInt8) (apart : byte ∉ utf8 "label=") (absent : byte ∉ utf8 label) :
      byte ∉ utf8 "label=" ++ utf8 label := by
    rw [List.mem_append, not_or]
    exact ⟨apart, absent⟩
  have noSpace : 32 ∉ 64 :: (utf8 "label=" ++ utf8 label) := by
    rw [List.mem_cons, not_or]
    exact ⟨by decide, outside 32 (by decide) fun present => (bytes 32 present).1 rfl⟩
  have noSemicolon : 59 ∉ utf8 "label=" ++ utf8 label :=
    outside 59 (by decide) fun present => (bytes 59 present).2.1 rfl
  have tag : parseTag (utf8 "label=" ++ utf8 label) = some ⟨"label", some (utf8 label)⟩ := by
    have keyed : 61 ∉ utf8 "label" := by decide
    have cut : splitOnce 61 (utf8 "label=" ++ utf8 label) = some (utf8 "label", utf8 label) := by
      rw [key, List.append_assoc]
      exact splitOnce_append_cons keyed _
    have valid : isValidTagName (utf8 "label") = true := by decide
    rw [parseTag, cut]
    simp only [valid, if_true, fromUtf8?_utf8, Option.map_some]
    rw [unescapeTagValue_of_notMem fun present => (bytes 92 present).2.2.2 rfl]
  have tags : parseTags (utf8 "label=" ++ utf8 label) = some [⟨"label", some (utf8 label)⟩] := by
    rw [parseTags, List.splitOn_eq_singleton noSemicolon]
    simp [tag]
  have shape : utf8 "@label=" ++ utf8 label ++ [32] ++ first :: rest =
      (64 :: (utf8 "label=" ++ utf8 label)) ++ 32 :: first :: rest := by
    simp [lead]
  have size : (utf8 "label=").length = 6 := by decide
  rw [shape, parseTagSection, if_pos (by simp), splitOnce_append_cons noSpace]
  have fits : ¬ ((64 :: (utf8 "label=" ++ utf8 label)).length = 1 ∨
      maxTagSectionBytes < (64 :: (utf8 "label=" ++ utf8 label)).length - 1) := by
    simp only [List.length_cons, List.length_append, size, maxTagSectionBytes]
    omega
  simp only [Bool.or_eq_true, decide_eq_true_eq, if_neg fits, List.tail_cons, tags,
    skipSpaces_of_head notSpace]

/-- A command under a label is read as the command alone, with the label as its tag. -/
theorem readLine_labeled {command label : String} {words : List Bytes} {trailing : Option Bytes}
    (named : IsCommandName command) (safe : label = "" ∨ isTagSafeLabel label = true)
    (framed : IsFrame (labeledCommand (commandText command words trailing) label ++ crlf)) :
    readLine (labeledCommand (commandText command words trailing) label ++ crlf) =
      some (command, parseParameters (parameterText words trailing)) := by
  obtain ⟨body, clean, same⟩ := framed
  rw [← List.append_cancel_right same] at clean
  have cut (text : Bytes) : (text ++ crlf).take ((text ++ crlf).length - crlfBytes) = text := by
    rw [List.length_append, show crlf.length = crlfBytes from rfl, Nat.add_sub_cancel,
      List.take_left]
  rw [readLine, cut]
  by_cases unlabeled : label = ""
  · subst unlabeled
    rw [labeledCommand, if_pos rfl] at clean ⊢
    rw [named.parse_commandText clean]
    rfl
  · have tagged := safe.resolve_left unlabeled
    rw [labeledCommand, if_neg unlabeled] at clean ⊢
    have read := named.parseCommand_commandText words trailing
    obtain ⟨first, rest, shape, notSpace, sourceless, -⟩ := named.commandText_head words trailing
    rw [shape] at clean read ⊢
    rw [parse, if_neg (by simp), if_neg (ne_true_of_eq_false clean),
      parseTagSection_label tagged notSpace]
    simp only [parseSource, List.head?_cons, Option.some.injEq, sourceless, if_false, bind,
      Except.bind, read, Except.toOption, Option.map_some]

namespace Core

variable [Platform]

/-- A sender that is not cut short wrote its lines, or none. -/
theorem sentLines_eq (core : Core) {operation : SendOperation}
    (whole : ¬ core.SplitsOperation operation) :
    core.sentLines operation =
      if (core.send operation).2 then core.operationLines operation else [] := by
  rw [sentLines]
  split
  · rename_i sent
    rw [((core.send_allOrNothing_iff operation).mpr whole).effects, if_pos sent, List.drop_left,
      queuedWrites, List.filterMap_map]
    exact List.filterMap_some
  · rfl

/-- What a sender wrote is a list of frames. -/
theorem sentLines_framed (core : Core) {operation : SendOperation}
    (other : ∀ target phase, operation ≠ .typing target phase) :
    ∀ built ∈ core.sentLines operation, IsFrame built := by
  rw [sentLines]
  split
  · obtain ⟨frames, effects, framed⟩ := (core.send_peripheral_of_ne_typing other).writes
    rw [effects, List.drop_left, queuedWrites, List.filterMap_map]
    simpa [Function.comp_def, Effect.frame?] using framed.1
  · exact fun _ present => absurd present List.not_mem_nil

end Core

namespace CommandBuilder

/-- A line that a builder ends in is its text, and a frame. -/
theorem toList_line {text : Bytes} {features : IrcServerFeatures}
    (accepted : (line text features).toOption.toList ≠ []) :
    (line text features).toOption.toList = [text ++ crlf] ∧ IsFrame (text ++ crlf) := by
  cases result : line text features with
  | error error =>
      rw [result] at accepted
      exact absurd rfl accepted
  | ok built =>
      obtain ⟨-, clean, -, rfl⟩ := line_eq_ok_iff.mp result
      exact ⟨rfl, text, clean, rfl⟩

/-- A builder that checks its arguments returns a line when they pass. -/
theorem toList_guarded {refused : Prop} [Decidable refused] {result : Except IrcError Bytes}
    (accepted : (if refused then .error .invalidField else result).toOption.toList ≠ []) :
    ¬ refused ∧ (if refused then .error .invalidField else result) = result := by
  by_cases holds : refused
  · rw [if_pos holds] at accepted
    exact absurd rfl accepted
  · exact ⟨holds, if_neg holds⟩

/-- The arguments of a JOIN are words. -/
theorem isWord_of_isJoinField {field : String} (accepted : isJoinField field = true) :
    isWord field = true := by
  simp only [isJoinField, Bool.and_eq_true, Bool.not_eq_true', List.any_eq_false] at accepted
  obtain ⟨⟨nonempty, colonless⟩, breaks⟩ := accepted
  have noSpace : field.toList.contains ' ' = false := by
    rw [List.contains_eq_mem, decide_eq_false_iff_not]
    intro present
    exact breaks ' ' present (by decide)
  rw [isWord, nonempty, colonless, noSpace]
  rfl

/-- A target that can take a message is a word. -/
theorem isWord_of_isValidPrivmsgTarget {target : String}
    (accepted : isValidPrivmsgTarget target = true) : isWord target = true := by
  simp only [isValidPrivmsgTarget, Bool.and_eq_true, Bool.not_eq_true', List.any_eq_false]
    at accepted
  obtain ⟨⟨nonempty, colonless⟩, breaks⟩ := accepted
  have noSpace : target.toList.contains ' ' = false := by
    rw [List.contains_eq_mem, decide_eq_false_iff_not]
    intro present
    exact breaks ' ' present (by decide)
  rw [isWord, nonempty, colonless, noSpace]
  rfl

/-- A single field is a word unless a colon stands in front of it. -/
theorem isWord_of_isSingleField {field : String} (accepted : isSingleField field = true) :
    isWord field = !startsWithChar field ':' := by
  simp only [isSingleField, Bool.and_eq_true, Bool.not_eq_true'] at accepted
  obtain ⟨⟨nonempty, -⟩, noSpace⟩ := accepted
  rw [isWord, nonempty, noSpace]
  simp

/-- One word is read back when it is one. -/
theorem readBack_word (word : String) :
    ReadBack (maxParameters - 1) [utf8 word] none ↔ isWord word = true := by
  show needsColon (utf8 word) = false ∧ ReadBack _ [] none ↔ _
  rw [needsColon_utf8]
  simp

/-- A word before a text behind a colon is read back when it is one. -/
theorem readBack_word_trailing (word : String) (trailing : Bytes) :
    ReadBack (maxParameters - 1) [utf8 word] (some trailing) ↔ isWord word = true := by
  show needsColon (utf8 word) = false ∧ ReadBack _ [] _ ↔ _
  rw [needsColon_utf8]
  simp

/-- Two words are read back when both are words. -/
theorem readBack_words (first second : String) (trailing : Option Bytes) :
    ReadBack (maxParameters - 1) [utf8 first, utf8 second] trailing ↔
      isWord first = true ∧ isWord second = true := by
  show needsColon (utf8 first) = false ∧ needsColon (utf8 second) = false ∧ ReadBack _ [] _ ↔ _
  rw [needsColon_utf8, needsColon_utf8]
  simp

/-- Nothing is left of nothing. -/
theorem trim_empty : trim "" = "" := by decide

/-- A trimmed text is read as the text only when it is the whole of it. -/
theorem trim_of_read (words : List Bytes) (count : Nat) {text : String}
    (written : (parameterText words none).length + 1 = count * (byteLength (trim text) + 1))
    (some : 0 < count)
    (read : parseParameters (parameterText words none) = List.replicate count (utf8 text)) :
    trim text = text := by
  refine (byteLength_trim text).resolve_right fun shorter => ?_
  have size := parseParametersFrom_size (maxParameters - 1) (parameterText words none)
  rw [show parseParametersFrom (maxParameters - 1) _ = _ from read, List.map_replicate,
    List.sum_replicate_nat, List.length_replicate, written, ← Nat.mul_succ] at size
  exact Nat.not_lt.mpr (Nat.le_of_mul_le_mul_left size some) (Nat.succ_lt_succ shorter)

variable [Platform] {core : Core} {builder : CommandBuilder}

/-- A sender that wrote something wrote its lines. -/
theorem sent_eq {operation : SendOperation} (accepted : core.sentLines operation ≠ [])
    (whole : ¬ core.SplitsOperation operation) :
    (core.send operation).2 = true ∧ core.sentLines operation = core.operationLines operation := by
  rw [core.sentLines_eq whole] at accepted ⊢
  by_cases sent : (core.send operation).2 = true
  · exact ⟨sent, if_pos sent⟩
  · rw [if_neg sent] at accepted
    exact absurd rfl accepted

omit [Platform] in
/-- A command text starts with its name and a space. -/
theorem commandText_lead {lead command : String} {words : List Bytes} {trailing : Option Bytes}
    (spaced : utf8 lead = utf8 command ++ [32]) (written : ¬ (words = [] ∧ trailing = none)) :
    commandText command words trailing = utf8 lead ++ parameterText words trailing := by
  rw [commandText, if_neg written, spaced, List.append_assoc, List.singleton_append]

omit [Platform] in
/-- Texts joined by spaces are the words of a text. -/
theorem utf8_joinTexts_words (first : String) (rest : List String) :
    utf8 (joinTexts " " (first :: rest)) = parameterText ((first :: rest).map utf8) none := by
  induction rest generalizing first with
  | nil => rw [joinTexts_single, List.map_singleton, parameterText]
  | cons next rest inductionHypothesis =>
      have space : utf8 " " = [32] := by decide
      rw [joinTexts_cons, inductionHypothesis, space]
      rfl

/-- The lines of a builder are its command with its words, the text behind a colon, and its
label in front. -/
theorem built_eq (accepted : builder.built core ≠ []) :
    builder.built core = (builder.forms core).map fun form =>
      labeledCommand (commandText builder.command form.1 form.2) builder.label ++ crlf := by
  have unlabeled (builder : CommandBuilder) (none : builder.label = "") (text : Bytes) :
      labeledCommand text builder.label = text := if_pos none
  have space : utf8 " " = [32] := by decide
  have colon : utf8 " :" = [32, 58] := by decide
  cases builder with
  | pass password =>
      obtain ⟨-, passed⟩ := toList_guarded accepted
      rw [built, Irc.pass, passed] at accepted ⊢
      rw [(toList_line accepted).1, forms, List.map_singleton, unlabeled _ rfl, command,
        commandText_lead (show utf8 "PASS " = utf8 "PASS" ++ [32] by decide) (by simp)]
      simp [parameterText]
  | nick nickname =>
      obtain ⟨-, passed⟩ := toList_guarded accepted
      rw [built, Irc.nick, passed] at accepted ⊢
      rw [(toList_line accepted).1, forms, List.map_singleton, unlabeled _ rfl, command,
        commandText_lead (show utf8 "NICK " = utf8 "NICK" ++ [32] by decide) (by simp)]
      simp [parameterText]
  | user username realname =>
      obtain ⟨-, passed⟩ := toList_guarded accepted
      rw [built, Irc.user, passed] at accepted ⊢
      rw [(toList_line accepted).1, forms, List.map_singleton, unlabeled _ rfl, command,
        commandText_lead (show utf8 "USER " = utf8 "USER" ++ [32] by decide) (by simp)]
      have mode : utf8 " 8 * :" = [32] ++ utf8 "8" ++ [32] ++ utf8 "*" ++ [32, 58] := by
        decide
      simp [parameterText, mode]
  | join channel key =>
      obtain ⟨-, passed⟩ := toList_guarded accepted
      rw [built, Irc.join, passed] at accepted ⊢
      rw [forms, List.map_singleton, unlabeled _ rfl, command,
        commandText_lead (show utf8 "JOIN " = utf8 "JOIN" ++ [32] by decide) (by simp)]
      by_cases keyless : key = ""
      · rw [if_pos keyless] at accepted ⊢
        rw [(toList_line accepted).1, unlessEmpty, if_pos keyless]
        simp [parameterText]
      · rw [if_neg keyless] at accepted ⊢
        obtain ⟨-, keyed⟩ := toList_guarded accepted
        rw [keyed] at accepted ⊢
        rw [(toList_line accepted).1, unlessEmpty, if_neg keyless]
        simp [parameterText, space]
  | privmsg target body =>
      rw [built, (sent_eq accepted not_false).2, Core.operationLines, Core.trailingLines, forms,
        List.map_map, chunks, show "PRIVMSG" ++ " " = "PRIVMSG " from rfl]
      refine List.map_congr_left fun chunk _ => ?_
      rw [Function.comp_apply, unlabeled _ rfl, command, labeledCommand, if_pos rfl,
        commandText_lead (show utf8 "PRIVMSG " = utf8 "PRIVMSG" ++ [32] by decide)
          (by simp)]
      simp [parameterText, colon]
  | notice target body =>
      rw [built, (sent_eq accepted not_false).2, Core.operationLines, Core.trailingLines, forms,
        List.map_map, chunks, show "NOTICE" ++ " " = "NOTICE " from rfl]
      refine List.map_congr_left fun chunk _ => ?_
      rw [Function.comp_apply, unlabeled _ rfl, command, labeledCommand, if_pos rfl,
        commandText_lead (show utf8 "NOTICE " = utf8 "NOTICE" ++ [32] by decide)
          (by simp)]
      simp [parameterText, colon]
  | channelMode request =>
      rw [built, (sent_eq accepted not_false).2, Core.operationLines, forms, List.map_singleton,
        unlabeled _ rfl, command, channelModeCommand,
        commandText_lead (show utf8 "MODE " = utf8 "MODE" ++ [32] by decide)
          (by split <;> simp)]
      by_cases query : request.query = true
      · simp [Core.textLine, query, parameterText]
      · have lead : utf8 "MODE " = utf8 "MODE" ++ [32] := by decide
        rw [if_neg query, if_neg query, Core.textLine, List.cons_append, utf8_joinTexts_words, lead]
        simp [parameterText]
  | part channel =>
      rw [built, (sent_eq accepted not_false).2, Core.operationLines, forms, List.map_singleton,
        unlabeled _ rfl, command,
        commandText_lead (show utf8 "PART " = utf8 "PART" ++ [32] by decide) (by simp)]
      simp [Core.textLine, parameterText]
  | kick channel nickname reason =>
      rw [built, (sent_eq accepted not_false).2, Core.operationLines, forms, List.map_singleton,
        unlabeled _ rfl, command, kickCommand,
        commandText_lead (show utf8 "KICK " = utf8 "KICK" ++ [32] by decide) (by simp)]
      by_cases silent : reason = ""
      · simp [Core.textLine, parameterText, silent, space]
      · simp [Core.textLine, parameterText, silent, space, colon]
  | invite nickname channel =>
      rw [built, (sent_eq accepted not_false).2, Core.operationLines, forms, List.map_singleton,
        unlabeled _ rfl, command,
        commandText_lead (show utf8 "INVITE " = utf8 "INVITE" ++ [32] by decide) (by simp)]
      simp [Core.textLine, parameterText, space]
  | setTopic channel topic =>
      rw [built, (sent_eq accepted not_false).2, Core.operationLines, forms, List.map_singleton,
        unlabeled _ rfl, command,
        commandText_lead (show utf8 "TOPIC " = utf8 "TOPIC" ++ [32] by decide) (by simp)]
      simp [Core.textLine, parameterText, colon]
  | setAway reason =>
      rw [built, (sent_eq accepted not_false).2, Core.operationLines, forms, List.map_singleton,
        unlabeled _ rfl, command]
      by_cases clears : trim reason = ""
      · simp [Core.textLine, commandText, clears]
      · rw [if_neg clears, if_neg clears,
          commandText_lead (show utf8 "AWAY " = utf8 "AWAY" ++ [32] by decide) (by simp)]
        have lead : utf8 "AWAY :" = utf8 "AWAY " ++ [58] := by decide
        simp [Core.textLine, parameterText, lead]
  | markAway reason =>
      rw [built, (sent_eq accepted not_false).2, Core.operationLines, forms, List.map_singleton,
        unlabeled _ rfl, command,
        commandText_lead (show utf8 "AWAY " = utf8 "AWAY" ++ [32] by decide) (by simp)]
      have lead : utf8 "AWAY :" = utf8 "AWAY " ++ [58] := by decide
      by_cases clears : trim reason = ""
      · simp [Core.textLine, parameterText, clears, lead]
      · simp [Core.textLine, parameterText, clears, lead]
  | changeNick nickname =>
      rw [built, (sent_eq accepted not_false).2, Core.operationLines, forms, List.map_singleton,
        unlabeled _ rfl, command,
        commandText_lead (show utf8 "NICK " = utf8 "NICK" ++ [32] by decide) (by simp)]
      simp [Core.textLine, parameterText]
  | whois nickname requestLabel =>
      rw [built, (sent_eq accepted not_false).2, Core.operationLines, forms, List.map_singleton,
        label, command,
        commandText_lead (show utf8 "WHOIS " = utf8 "WHOIS" ++ [32] by decide) (by simp)]
      simp [parameterText, space]
  | list mask =>
      rw [built, (sent_eq accepted not_false).2, Core.operationLines, forms, List.map_singleton,
        unlabeled _ rfl, command, unlessEmpty]
      by_cases whole : trim mask = ""
      · simp [Core.textLine, commandText, whole]
      · rw [if_neg whole, if_neg whole,
          commandText_lead (show utf8 "LIST " = utf8 "LIST" ++ [32] by decide) (by simp)]
        simp [Core.textLine, parameterText]

/-- What a builder returns is a list of frames. -/
theorem built_framed (core : Core) (builder : CommandBuilder) :
    ∀ line ∈ builder.built core, IsFrame line := by
  have only {result : Except IrcError Bytes} {text : Bytes}
      (same : result.toOption.toList = [text ++ crlf] ∧ IsFrame (text ++ crlf)) :
      ∀ line ∈ result.toOption.toList, IsFrame line := by
    intro line present
    rw [same.1, List.mem_singleton] at present
    exact present ▸ same.2
  cases builder with
  | pass password =>
      intro line present
      obtain ⟨-, passed⟩ := toList_guarded (List.ne_nil_of_mem present)
      rw [built, Irc.pass, passed] at present
      exact only (toList_line (List.ne_nil_of_mem present)) line present
  | nick nickname =>
      intro line present
      obtain ⟨-, passed⟩ := toList_guarded (List.ne_nil_of_mem present)
      rw [built, Irc.nick, passed] at present
      exact only (toList_line (List.ne_nil_of_mem present)) line present
  | user username realname =>
      intro line present
      obtain ⟨-, passed⟩ := toList_guarded (List.ne_nil_of_mem present)
      rw [built, Irc.user, passed] at present
      exact only (toList_line (List.ne_nil_of_mem present)) line present
  | join channel key =>
      intro line present
      obtain ⟨-, passed⟩ := toList_guarded (List.ne_nil_of_mem present)
      rw [built, Irc.join, passed] at present
      by_cases keyless : key = ""
      · rw [if_pos keyless] at present
        exact only (toList_line (List.ne_nil_of_mem present)) line present
      · rw [if_neg keyless] at present
        obtain ⟨-, keyed⟩ := toList_guarded (List.ne_nil_of_mem present)
        rw [keyed] at present
        exact only (toList_line (List.ne_nil_of_mem present)) line present
  | _ => exact core.sentLines_framed (by simp)

/-- The label of a line that was written is one that may be sent. -/
theorem label_safe (accepted : builder.built core ≠ []) :
    builder.label = "" ∨ isTagSafeLabel builder.label = true := by
  cases builder with
  | whois nickname requestLabel =>
      have sent := (sent_eq accepted not_false).1
      rw [Core.send, Core.sendWhois] at sent
      split at sent
      · cases sent
      · rw [Core.sendCommand_eq] at sent
        by_contra unlabeled
        obtain ⟨labeled, untagged⟩ := not_or.mp unlabeled
        have refused : core.acceptsCommand
            (utf8 ("WHOIS " ++ trim nickname ++ " " ++ trim nickname)) requestLabel = false := by
          simp only [label] at labeled untagged
          simp [Core.acceptsCommand, labeled, untagged]
        rw [if_neg (ne_true_of_eq_false refused)] at sent
        cases sent
  | _ => exact .inl rfl

/-- The lines of a builder are read as its command and what its texts are read as. -/
theorem built_read (accepted : builder.built core ≠ []) :
    (builder.built core).map readLine = (builder.forms core).map fun form =>
      some (builder.command, parseParameters (parameterText form.1 form.2)) := by
  have framed := builder.built_framed core
  rw [built_eq accepted] at framed ⊢
  rw [List.map_map]
  refine List.map_congr_left fun form present => ?_
  exact readLine_labeled builder.named (label_safe accepted)
    (framed _ (List.mem_map_of_mem present))

/-- A builder's lines are read back exactly when each text is read as the arguments of its line. -/
theorem readsBack_iff (accepted : builder.built core ≠ []) :
    builder.ReadsBack core ↔
      (builder.forms core).map (fun form => parseParameters (parameterText form.1 form.2)) =
        builder.arguments core := by
  have tagged : Function.Injective fun read : List Bytes => some (builder.command, read) :=
    fun _ _ same => (Prod.mk.inj (Option.some.inj same)).2
  rw [ReadsBack, built_read accepted, ← (List.map_injective_iff.mpr tagged).eq_iff, List.map_map]
  rfl

/-- A builder with one line is read back exactly when its text is read as its arguments. -/
theorem readsBack_single (accepted : builder.built core ≠ []) {words : List Bytes}
    {trailing : Option Bytes} (form : builder.forms core = [(words, trailing)])
    (arguments : builder.arguments core = [words ++ trailing.toList]) :
    builder.ReadsBack core ↔ ReadBack (maxParameters - 1) words trailing := by
  rw [readsBack_iff accepted, form, arguments, List.map_singleton, List.singleton_inj,
    parseParameters_text_iff]

/-- A message is read back chunk by chunk exactly when its target is a word. -/
theorem readsBack_chunks (accepted : builder.built core ≠ []) {target : String}
    {chunks : List Bytes}
    (form : builder.forms core = chunks.map fun chunk => ([utf8 target], some chunk))
    (arguments : builder.arguments core = chunks.map fun chunk => [utf8 target, chunk]) :
    builder.ReadsBack core ↔ isWord target = true := by
  have whole := accepted
  rw [built_eq accepted, form, List.map_map] at accepted
  obtain ⟨chunk, others, rfl⟩ : ∃ chunk others, chunks = chunk :: others := by
    refine List.exists_cons_of_ne_nil fun none => accepted ?_
    rw [none, List.map_nil]
  have each (chunk : Bytes) :
      parseParameters (parameterText [utf8 target] (some chunk)) = [utf8 target, chunk] ↔
        isWord target = true :=
    (parseParameters_text_iff [utf8 target] (some chunk)).trans (readBack_word_trailing target chunk)
  rw [readsBack_iff whole, form, arguments, List.map_map, List.map_inj_left]
  constructor
  · intro read
    exact (each chunk).mp (read chunk List.mem_cons_self)
  · intro word chunk _
    exact (each chunk).mpr word

/-- The lines of a builder that takes its arguments are read back exactly when the arguments are
plain: every one of them that is written as a word is one. -/
theorem readsBack_iff_plain (core : Core) (builder : CommandBuilder)
    (accepted : builder.built core ≠ []) : builder.ReadsBack core ↔ builder.Plain := by
  cases builder with
  | pass password =>
      have single := (toList_guarded accepted).1
      rw [readsBack_single accepted rfl rfl, readBack_word,
        isWord_of_isSingleField (by simpa using single)]
      simp [Plain]
  | nick nickname =>
      have single := (toList_guarded accepted).1
      rw [readsBack_single accepted rfl rfl, readBack_word,
        isWord_of_isSingleField (by simpa using single)]
      simp [Plain]
  | user username realname =>
      have single : isSingleField username = true := by
        have passed := (toList_guarded accepted).1
        simp only [Bool.or_eq_true, not_or, Bool.not_eq_true, Bool.not_eq_false'] at passed
        exact passed.1.1
      have mode : needsColon (utf8 "8") = false ∧ needsColon (utf8 "*") = false := by
        decide
      rw [readsBack_single accepted rfl rfl]
      show needsColon (utf8 username) = false ∧ needsColon (utf8 "8") = false ∧
        needsColon (utf8 "*") = false ∧ ReadBack _ [] _ ↔ _
      rw [needsColon_utf8, isWord_of_isSingleField single, Bool.not_not]
      simp [mode, Plain]
  | join channel key =>
      refine iff_of_true ?_ trivial
      have whole := accepted
      obtain ⟨named, passed⟩ := toList_guarded accepted
      rw [Bool.not_eq_true', Bool.not_eq_false] at named
      rw [built, Irc.join, passed] at accepted
      have channelWord := isWord_of_isJoinField named
      by_cases keyless : key = ""
      · have form : forms core (.join channel key) = [([utf8 channel], none)] := by
          rw [forms, unlessEmpty, if_pos keyless]
        have argued : arguments core (.join channel key) = [[utf8 channel] ++ Option.toList none] := by
          rw [arguments, unlessEmpty, if_pos keyless]
          rfl
        exact (readsBack_single whole form argued).mpr ((readBack_word channel).mpr channelWord)
      · rw [if_neg keyless] at accepted
        have keyed := (toList_guarded accepted).1
        rw [Bool.not_eq_true', Bool.not_eq_false] at keyed
        have form : forms core (.join channel key) = [([utf8 channel, utf8 key], none)] := by
          rw [forms, unlessEmpty, if_neg keyless]
        have argued : arguments core (.join channel key) =
            [[utf8 channel, utf8 key] ++ Option.toList none] := by
          rw [arguments, unlessEmpty, if_neg keyless]
          rfl
        exact (readsBack_single whole form argued).mpr
          ((readBack_words channel key none).mpr ⟨channelWord, isWord_of_isJoinField keyed⟩)
  | privmsg target body =>
      refine iff_of_true ((readsBack_chunks accepted rfl rfl).mpr ?_) trivial
      have sent := (sent_eq accepted not_false).1
      rw [Core.send, Core.sendPrivmsgLocked] at sent
      split at sent
      · cases sent
      · rename_i valid
        simp only [Bool.or_eq_true, not_or, Bool.not_eq_true, Bool.not_eq_false'] at valid
        exact isWord_of_isValidPrivmsgTarget valid.1
  | notice target body => exact readsBack_chunks accepted rfl rfl
  | channelMode request =>
      refine readsBack_single accepted rfl ?_
      rw [arguments, Option.toList_none, List.append_nil]
  | part channel =>
      rw [readsBack_single accepted rfl rfl, readBack_word]
      rfl
  | kick channel nickname reason =>
      have argued : arguments core (.kick channel nickname reason) =
          [[utf8 channel, utf8 nickname] ++
            (if reason = "" then none else some (utf8 reason)).toList] := by
        rw [arguments, unlessEmpty]
        split
        all_goals rfl
      rw [readsBack_single accepted rfl argued, readBack_words]
      rfl
  | invite nickname channel =>
      rw [readsBack_single accepted rfl rfl, readBack_words]
      rfl
  | setTopic channel topic =>
      rw [readsBack_single accepted rfl rfl, readBack_word_trailing]
      rfl
  | setAway reason =>
      rw [readsBack_iff accepted, forms, List.map_singleton, arguments, List.singleton_inj,
        (parseParameters_text_iff [] _).mpr (readBack_nil _ _), List.nil_append, unlessEmpty, Plain]
      by_cases clears : trim reason = ""
      · rw [if_pos clears, clears]
        by_cases none : reason = ""
        · simp [none]
        · simp [none, Ne.symm none]
      · have some : reason ≠ "" := by
          rintro rfl
          exact clears trim_empty
        rw [if_neg clears, if_neg some, Option.toList_some, List.singleton_inj]
        exact ⟨fun same => utf8_injective same, fun same => congrArg utf8 same⟩
  | markAway reason =>
      rw [readsBack_iff accepted, forms, List.map_singleton, arguments, List.singleton_inj,
        (parseParameters_text_iff [] _).mpr (readBack_nil _ _), List.nil_append,
        Option.toList_some, List.singleton_inj]
      exact ⟨fun same => utf8_injective same, fun same => congrArg utf8 same⟩
  | changeNick nickname =>
      rw [readsBack_single accepted rfl rfl, readBack_word]
      rfl
  | whois nickname requestLabel =>
      have whole (same : trim nickname = nickname) :
          (whois nickname requestLabel).ReadsBack core ↔ isWord nickname = true := by
        rw [readsBack_iff accepted, forms, List.map_singleton, arguments, List.singleton_inj, same]
        refine (parseParameters_text_iff [utf8 nickname, utf8 nickname] none).trans ?_
        rw [readBack_words, and_self]
      constructor
      · intro read
        rw [readsBack_iff accepted, forms, List.map_singleton, arguments, List.singleton_inj] at read
        have same : trim nickname = nickname := by
          refine trim_of_read [utf8 (trim nickname), utf8 (trim nickname)] 2 ?_ Nat.two_pos read
          simp only [parameterText, List.length_append, List.length_cons, byteLength]
          omega
        refine ⟨same, (whole same).mp ?_⟩
        rw [readsBack_iff accepted, forms, List.map_singleton, arguments, List.singleton_inj]
        exact read
      · rintro ⟨same, word⟩
        exact (whole same).mpr word
  | list mask =>
      rw [readsBack_iff accepted, forms, List.map_singleton, arguments, List.singleton_inj]
      by_cases none : mask = ""
      · subst none
        refine iff_of_true ?_ ⟨trim_empty, .inl rfl⟩
        rw [trim_empty]
        rfl
      · have word (same : trim mask = mask) :
            parseParameters (parameterText [utf8 (trim mask)] Option.none) = [utf8 mask] ↔
              isWord mask = true := by
          rw [same]
          exact (parseParameters_text_iff [utf8 mask] Option.none).trans (readBack_word mask)
        by_cases blank : trim mask = ""
        · rw [blank, unlessEmpty, unlessEmpty, if_pos rfl, if_neg none]
          refine iff_of_false (fun read => ?_) fun plain => none (plain.1.symm.trans blank)
          cases read
        · rw [unlessEmpty, unlessEmpty, if_neg blank, if_neg none]
          constructor
          · intro read
            have same : trim mask = mask := trim_of_read [utf8 (trim mask)] 1
              (by rw [parameterText, Nat.one_mul, byteLength]) Nat.one_pos read
            exact ⟨same, .inr ((word same).mp read)⟩
          · rintro ⟨same, plain⟩
            exact (word same).mpr (plain.resolve_left none)

end CommandBuilder

section Reference

local instance builderPlatform : Platform := reference

/-- The password of a PASS without a colon in front is read back. -/
theorem readsBack_plain_password :
    (CommandBuilder.pass "secret").ReadsBack (System.initial plaintextProfile).core :=
  (CommandBuilder.readsBack_iff_plain _ (.pass "secret") (by decide)).mpr (by
    rw [CommandBuilder.Plain]
    decide)

/-- A password that starts with a colon is read without it. -/
theorem colon_password_stripped :
    ¬ ∀ core builder, CommandBuilder.built core builder ≠ [] → builder.ReadsBack core := by
  intro law
  have read := law (System.initial plaintextProfile).core (.pass ":secret") (by decide)
  rw [CommandBuilder.ReadsBack] at read
  revert read
  decide

end Reference

end Omairc.Session
