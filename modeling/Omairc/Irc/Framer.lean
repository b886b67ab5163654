import Omairc.Irc.Message
import Omairc.Text.Lines
import Omairc.Text.Position

/-!
# Cutting a byte stream into frames

`IrcFramer` keeps the bytes of an unfinished line across `feed` calls, drops a
line that holds NUL or breaks a length limit, and reports each such line once.
While it discards a bad line it keeps a trailing CR, so that a CRLF split across
two reads still ends the discard.
-/

namespace Omairc.Irc

open Omairc.Text

/-- How much of a bad frame a fault keeps. -/
def faultPreviewBytes : Nat := 160

/-- One rejected frame. -/
structure IrcFrameFault where
  error : IrcError
  preview : Bytes
  byteCount : Nat

/-- The frames and faults one `feed` resolved. -/
structure IrcFrameResult where
  frames : List Bytes := []
  faults : List IrcFrameFault := []

/-- The carried state: bytes not yet resolved, and whether a bad line is being discarded. -/
structure IrcFramer where
  pending : Bytes := []
  discarding : Bool := false
  deriving DecidableEq

/-- Position of the first CRLF. -/
def findCrlf (bytes : Bytes) : Option Nat := findPair 13 10 bytes

/-- What a discarded tail leaves pending: a CR that may begin a CRLF. -/
def retainedCarriageReturn (rest : Bytes) : Bytes := retained 13 rest

/-- Append a fault with a bounded preview of the bad bytes. -/
def recordFault (result : IrcFrameResult) (error : IrcError) (raw : Bytes) : IrcFrameResult :=
  { result with
    faults := result.faults ++ [⟨error, raw.take faultPreviewBytes, raw.length⟩] }

/-- Whether a complete frame, without its CRLF, is within its limits. A tagged
frame is limited twice: its tag section, and the classic part after the tags. -/
def completeFrameIsValid (frame : Bytes) : Bool :=
  let plainFits := decide (frame.length + 2 ≤ maxInboundClassicFrameBytes)
  if frame.head? ≠ some 64 then plainFits
  else
    match position 32 frame with
    | none => plainFits
    | some space =>
        let tagPayloadBytes := space - 1
        let classicFrameBytes := frame.length - space - 1 + 2
        decide (tagPayloadBytes ≤ maxTagSectionBytes) &&
          decide (classicFrameBytes ≤ maxInboundClassicFrameBytes)

/-- Whether unresolved bytes can no longer become a valid frame. -/
def pendingFrameIsOverlong (rest : Bytes) : Bool :=
  if rest.head? ≠ some 64 then decide (maxInboundClassicFrameBytes ≤ rest.length)
  else
    match position 32 rest with
    | none => decide (1 + maxTagSectionBytes < rest.length)
    | some space =>
        if maxTagSectionBytes < space - 1 then true
        else decide (maxInboundClassicFrameBytes ≤ rest.length - space - 1)

/-- Resolve one complete frame: a fault when it is bad, else a frame. -/
def resolveFrame (result : IrcFrameResult) (frame : Bytes) : IrcFrameResult :=
  if frame.contains 0 then recordFault result .invalidCharacter frame
  else if !completeFrameIsValid frame then recordFault result .tooManyBytes frame
  else { result with frames := result.frames ++ [frame] }

/-- Why the unresolved bytes are given up, if they are. -/
def pendingFault (rest : Bytes) : Option IrcError :=
  if rest.contains 0 then some .invalidCharacter
  else if pendingFrameIsOverlong rest then some .tooManyBytes
  else none

/-- The loop of `feed` over the bytes from the current position. -/
def feedLoop (discarding : Bool) (rest : Bytes) (result : IrcFrameResult) :
    IrcFramer × IrcFrameResult :=
  if discarding then
    match found : findCrlf rest with
    | some delimiter => feedLoop false (rest.drop (delimiter + 2)) result
    | none => (⟨retainedCarriageReturn rest, true⟩, result)
  else
    match found : findCrlf rest with
    | some delimiter =>
        feedLoop false (rest.drop (delimiter + 2)) (resolveFrame result (rest.take delimiter))
    | none =>
        match pendingFault rest with
        | none => (⟨rest, false⟩, result)
        | some error =>
            feedLoop true (retainedCarriageReturn rest) (recordFault result error rest)
termination_by 2 * rest.length + if discarding then 0 else 1
decreasing_by
  · have bounded := findPair_bound found
    rw [List.length_drop]
    split <;> omega
  · have bounded := findPair_bound found
    rw [List.length_drop]
    split <;> omega
  · have short : (retainedCarriageReturn rest).length ≤ rest.length := retained_length 13 rest
    rw [if_pos (by trivial), if_neg (by assumption)]
    omega

/-- A terminated line is resolved and the loop goes on behind it. -/
theorem feedLoop_line {rest : Bytes} {delimiter : Nat} (result : IrcFrameResult)
    (found : findCrlf rest = some delimiter) :
    feedLoop false rest result =
      feedLoop false (rest.drop (delimiter + 2))
        (resolveFrame result (rest.take delimiter)) := by
  rw [feedLoop]
  simp only [Bool.false_eq_true, if_false]
  split <;> simp_all

/-- An unfinished line that can still be valid stays pending. -/
theorem feedLoop_pending {rest : Bytes} (result : IrcFrameResult)
    (unfinished : findCrlf rest = none) (hopeful : pendingFault rest = none) :
    feedLoop false rest result = (⟨rest, false⟩, result) := by
  rw [feedLoop]
  simp only [Bool.false_eq_true, if_false]
  split <;> simp_all

/-- An unfinished line that cannot be valid is reported and discarded from here on. -/
theorem feedLoop_giveUp {rest : Bytes} {error : IrcError} (result : IrcFrameResult)
    (unfinished : findCrlf rest = none) (hopeless : pendingFault rest = some error) :
    feedLoop false rest result =
      feedLoop true (retainedCarriageReturn rest) (recordFault result error rest) := by
  rw [feedLoop]
  simp only [Bool.false_eq_true, if_false]
  split <;> simp_all

/-- A discard ends at the next terminator. -/
theorem feedLoop_discardEnd {rest : Bytes} {delimiter : Nat} (result : IrcFrameResult)
    (found : findCrlf rest = some delimiter) :
    feedLoop true rest result = feedLoop false (rest.drop (delimiter + 2)) result := by
  rw [feedLoop]
  simp only [if_true]
  split <;> simp_all

/-- A discard without a terminator in sight keeps only a possible half of one. -/
theorem feedLoop_discardMore {rest : Bytes} (result : IrcFrameResult)
    (unfinished : findCrlf rest = none) :
    feedLoop true rest result = (⟨retainedCarriageReturn rest, true⟩, result) := by
  rw [feedLoop]
  simp only [if_true]
  split <;> simp_all

/-- Append `incoming` and resolve every frame and fault now possible. -/
def IrcFramer.feed (framer : IrcFramer) (incoming : Bytes) : IrcFramer × IrcFrameResult :=
  feedLoop framer.discarding (framer.pending ++ incoming) {}

end Omairc.Irc
