import Omairc.Irc.Parser
import Omairc.Irc.ServerFeatures
import Omairc.Text.Position

/-!
# Outbound lines

The line builders and the body splitter. Every frame size is the advertised line
length, CRLF included. A command is its UTF-8 bytes, because the splitter cuts
bodies at byte offsets.
-/

namespace Omairc.Irc

open Omairc.Text

/-- Length of the line terminator. -/
def crlfBytes : Nat := 2

/-- The line terminator. -/
def crlf : Bytes := [13, 10]

/-- Terminate a command, refusing an empty one, forbidden bytes and an overlong frame. -/
def line (command : Bytes) (features : IrcServerFeatures) : Except IrcError Bytes :=
  let frame := features.lineLength
  if command.isEmpty then .error .emptyInput
  else if containsForbidden command then .error .invalidCharacter
  else if frame < crlfBytes || command.length + crlfBytes > frame then .error .tooManyBytes
  else .ok (command ++ crlf)

/-- A built line is the command and its terminator, and the command is clean. -/
theorem line_eq_ok_iff {command built : Bytes} {features : IrcServerFeatures} :
    line command features = .ok built ↔
      command ≠ [] ∧ containsForbidden command = false ∧
        command.length + crlfBytes ≤ features.lineLength ∧ built = command ++ crlf := by
  unfold line
  by_cases empty : command = []
  · simp [empty]
  by_cases forbidden : containsForbidden command = true
  · simp [empty, forbidden]
  by_cases fits : command.length + crlfBytes ≤ features.lineLength
  · have frame : ¬ (features.lineLength < crlfBytes ∨
        command.length + crlfBytes > features.lineLength) := by omega
    simp only [List.isEmpty_iff, empty, forbidden, fits, frame, Bool.or_eq_true,
      decide_eq_true_eq, if_false, Except.ok.injEq, true_and, Bool.false_eq_true, ne_eq,
      not_false_eq_true]
    exact eq_comm
  · have frame : features.lineLength < crlfBytes ∨
        command.length + crlfBytes > features.lineLength := by omega
    simp [empty, forbidden, fits, frame]

/-- One IRC frame: it ends in CR LF and holds no other CR, LF or NUL. -/
def IsFrame (bytes : Bytes) : Prop := ∃ body, containsForbidden body = false ∧ bytes = body ++ crlf

/-- What the line builder returns is one frame. -/
theorem isFrame_of_line {command built : Bytes} {features : IrcServerFeatures}
    (accepted : line command features = .ok built) : IsFrame built := by
  obtain ⟨-, clean, -, rfl⟩ := line_eq_ok_iff.mp accepted
  exact ⟨command, clean, rfl⟩

/-- The last space of a window, by its offset. -/
def lastSpace (window : Bytes) : Option Nat :=
  (position 32 window.reverse).map fun fromEnd => window.length - 1 - fromEnd

/-- Back up from a cut while it would land on a continuation byte. -/
def backUp (body : Bytes) : Nat → Nat
  | 0 => 0
  | take + 1 => if (body[take + 1]?.getD 0) &&& 0xC0 == 0x80 then backUp body take else take + 1

/-- Cut a body into chunks of at most `maxBody` bytes, at a space where there is one.
There is no result when a character does not fit. -/
def splitChunks (maxBody : Nat) (body : Bytes) : Option (List Bytes) :=
  if body = [] then some []
  else if body.length ≤ maxBody then some [body]
  else
    match lastSpace (body.take maxBody) with
    | some (space + 1) =>
        (splitChunks maxBody (body.drop (space + 2))).map (body.take (space + 1) :: ·)
    | _ =>
        match backUp body maxBody with
        | 0 => none
        | take + 1 =>
            (splitChunks maxBody (body.drop (take + 1))).map (body.take (take + 1) :: ·)
termination_by body.length
decreasing_by
  all_goals
    have := List.length_pos_iff.mpr ‹¬ body = []›
    simp only [List.length_drop]
    omega

/-- Backing up never moves a cut forward. -/
theorem backUp_le (body : Bytes) (cut : Nat) : backUp body cut ≤ cut := by
  fun_induction backUp body cut with
  | case1 => exact Nat.le_refl 0
  | case2 take continues inductionHypothesis => exact Nat.le_succ_of_le inductionHypothesis
  | case3 => exact Nat.le_refl _

/-- The last space of a window is inside it. -/
theorem lastSpace_le {window : Bytes} {space : Nat} (found : lastSpace window = some space) :
    space ≤ window.length := by
  obtain ⟨fromEnd, -, rfl⟩ := Option.map_eq_some_iff.mp found
  omega

/-- Each chunk is a part of the body, not empty, and within the limit. -/
theorem mem_splitChunks {maxBody : Nat} {body : Bytes} {chunks : List Bytes}
    (cut : splitChunks maxBody body = some chunks) :
    ∀ chunk ∈ chunks, chunk ≠ [] ∧ chunk.length ≤ maxBody ∧ chunk ⊆ body := by
  fun_induction splitChunks maxBody body generalizing chunks with
  | case1 =>
      cases cut
      simp
  | case2 body some fits =>
      cases cut
      simpa using ⟨some, fits⟩
  | case3 body some long space found inductionHypothesis =>
      obtain ⟨rest, restCut, rfl⟩ := Option.map_eq_some_iff.mp cut
      have inside : space + 1 ≤ maxBody := by
        have bound := lastSpace_le found
        rw [List.length_take] at bound
        omega
      intro chunk present
      rcases List.mem_cons.mp present with rfl | later
      · refine ⟨by simpa using some, ?_, (List.take_sublist _ _).subset⟩
        rw [List.length_take]
        omega
      · obtain ⟨nonempty, fits, part⟩ := inductionHypothesis restCut chunk later
        exact ⟨nonempty, fits, fun _ within => (List.drop_sublist _ _).subset (part within)⟩
  | case4 => cases cut
  | case5 body some long take cutBack found inductionHypothesis =>
      obtain ⟨rest, restCut, rfl⟩ := Option.map_eq_some_iff.mp cut
      have inside : take + 1 ≤ maxBody := cutBack.symm.le.trans (backUp_le body maxBody)
      intro chunk present
      rcases List.mem_cons.mp present with rfl | later
      · refine ⟨by simpa using some, ?_, (List.take_sublist _ _).subset⟩
        rw [List.length_take]
        omega
      · obtain ⟨nonempty, fits, part⟩ := inductionHypothesis restCut chunk later
        exact ⟨nonempty, fits, fun _ within => (List.drop_sublist _ _).subset (part within)⟩

/-- Chunks of `body` that each fit one frame between `lead` and `suffix`. The empty
result means that the body cannot be sent. -/
def splitTrailingParam (lead body suffix : Bytes) (features : IrcServerFeatures) : List Bytes :=
  let frame := features.lineLength
  if body.isEmpty || containsForbidden lead || containsForbidden body ||
      containsForbidden suffix then []
  else if frame < 3 || lead.length + suffix.length + 3 > frame then []
  else (splitChunks (frame - lead.length - suffix.length - crlfBytes) body).getD []

/-- A single parameter: nonempty, without CR, LF, NUL or space. -/
def isSingleField (field : String) : Bool :=
  field ≠ "" && !containsForbidden (utf8 field) && !field.toList.contains ' '

/-- A JOIN channel or key. -/
def isJoinField (field : String) : Bool :=
  field ≠ "" && !startsWithChar field ':' &&
    !field.toList.any fun character =>
      isWhitespace character || character == ',' || character == Char.ofNat 0

/-- The NICK line. -/
def nick (nickname : String) (features : IrcServerFeatures) : Except IrcError Bytes :=
  if !isSingleField nickname then .error .invalidField
  else line (utf8 ("NICK " ++ nickname)) features

/-- The USER line. -/
def user (username realname : String) (features : IrcServerFeatures) : Except IrcError Bytes :=
  if !isSingleField username || realname = "" || containsForbidden (utf8 realname) then
    .error .invalidField
  else line (utf8 ("USER " ++ username ++ " 8 * :" ++ realname)) features

/-- The PASS line. -/
def pass (password : String) (features : IrcServerFeatures) : Except IrcError Bytes :=
  if !isSingleField password then .error .invalidField
  else line (utf8 ("PASS " ++ password)) features

/-- The JOIN line. An empty key omits the key parameter. -/
def join (channel key : String) (features : IrcServerFeatures) : Except IrcError Bytes :=
  if !isJoinField channel then .error .invalidField
  else if key = "" then line (utf8 ("JOIN " ++ channel)) features
  else if !isJoinField key then .error .invalidField
  else line (utf8 ("JOIN " ++ channel ++ " " ++ key)) features

/-- A character that would end a JOIN field. -/
def isFieldBreaker (character : Char) : Bool :=
  isWhitespace character || character == ',' || character == Char.ofNat 0

/-- Whether a text holds a character that would end a JOIN field. -/
def hasFieldBreakers (token : String) : Bool := token.toList.any isFieldBreaker

/-- A channel key that JOIN can carry. -/
def isSafeJoinKey (key : String) : Bool :=
  key ≠ "" && !startsWithChar key ':' && !hasFieldBreakers key

/-- Number of UTF-16 code units of a text. -/
def utf16Length (text : String) : Nat :=
  (text.toList.map fun character => if character.toNat < 0x10000 then 1 else 2).sum

/-- A validated channel and an optional validated key. -/
structure IrcJoinTarget where
  channel : String
  key : Option String
  channel_valid : 2 ≤ utf16Length channel ∧ hasFieldBreakers channel = false
  key_valid : ∀ text ∈ key, isSafeJoinKey text = true

/-- Validate one channel and an optional key. -/
def IrcJoinTarget.make (channel : String) (key : Option String) (features : IrcServerFeatures) :
    Option IrcJoinTarget :=
  let trimmedChannel := trim channel
  if trimmedChannel = "" then none
  else
    let name := if features.isChannel trimmedChannel then trimmedChannel else "#" ++ trimmedChannel
    if channelValid : 2 ≤ utf16Length name ∧ hasFieldBreakers name = false then
      match key with
      | none => some ⟨name, none, channelValid, by simp⟩
      | some raw =>
          if keyValid : isSafeJoinKey (trim raw) = true then
            some ⟨name, some (trim raw), channelValid, by simpa using keyValid⟩
          else none
    else none

/-- A parsed `/mode` argument: a query, or a change with its modes and parameters. -/
structure IrcChannelModeRequest where
  channel : String := ""
  modes : String := ""
  parameters : List String := []
  query : Bool := false

/-- A typing phase. -/
inductive TypingPhase
  | active
  | paused
  | done
  deriving DecidableEq

/-- The tag value of a typing phase. -/
def TypingPhase.tagValue : TypingPhase → String
  | .active => "active"
  | .paused => "paused"
  | .done => "done"

/-- Spacing of the typing notifications of one target, in milliseconds. -/
def typingSendIntervalMs : Int := 3000

/-- The typing notification of a target. It refuses an empty target, spaces, CR and LF. -/
def typingTagmsg (target : String) (phase : TypingPhase) : Option Bytes :=
  if target = "" || (utf8 target).any fun byte => byte == 32 || byte == 13 || byte == 10 then none
  else some (utf8 ("@+typing=" ++ phase.tagValue ++ " TAGMSG " ++ target) ++ crlf)

end Omairc.Irc
