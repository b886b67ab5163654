import Omairc.Session.Builders

/-!
# A response goes through its frames

A SASL response is written in frames of 400 base64 digits, and a challenge is put
together from such frames. What one side writes the other puts together again, and the
buffer never holds more than its limit.
-/

namespace Omairc.Session

open Omairc.Text Omairc.Irc

/-- What the framing relies on of the base64 library: encoded text is a whole number of groups of
four digits, one for every three bytes begun, and the decoder reads it back. -/
structure Base64Law [Platform] : Prop where
  decode_encode : ∀ raw, Platform.base64Decode (Platform.base64Encode raw) = some raw
  encode_length : ∀ raw, (Platform.base64Encode raw).length = 4 * ((raw.length + 2) / 3)

/-- The payload of an AUTHENTICATE frame. -/
def framePayload (frame : Bytes) : Bytes :=
  match readLine frame with
  | some ("AUTHENTICATE", [payload]) => payload
  | _ => []

/-- The payload that ends a response of whole chunks. -/
def barePlus : Bytes := utf8 "+"

section Framing

variable [Platform]

/-- Feed payloads to the buffer one by one, with the result of each. -/
def ChallengeBuffer.feed (buffer : ChallengeBuffer) :
    List Bytes → ChallengeBuffer × List (Except ScramFailure (Option Bytes))
  | [] => (buffer, [])
  | payload :: rest =>
      let (next, result) := buffer.take payload
      let (last, results) := next.feed rest
      (last, result :: results)

namespace ChallengeBuffer

variable {buffer : ChallengeBuffer}

/-- Feeding one payload more. -/
theorem feed_cons (buffer : ChallengeBuffer) (payload : Bytes) (rest : List Bytes) :
    buffer.feed (payload :: rest) =
      (((buffer.take payload).1.feed rest).1,
        (buffer.take payload).2 :: ((buffer.take payload).1.feed rest).2) := rfl

/-- What a payload leaves in the buffer is within the limit. -/
theorem take_bounded (buffer : ChallengeBuffer) (payload : Bytes) :
    (buffer.take payload).1.accumulated.length ≤ incomingEncodedLimit := by
  rw [take]
  by_cases plus : payload = utf8 "+"
  · simp only [plus, if_true, decide_true, Bool.not_true, Bool.false_and, Bool.false_eq_true, if_false]
    repeat' split
    all_goals exact Nat.zero_le _
  · simp only [plus, if_false, decide_false, Bool.not_false, Bool.true_and]
    split
    · exact Nat.zero_le _
    · rename_i passed
      simp only [Bool.or_eq_true, decide_eq_true_eq, not_or, Nat.not_lt] at passed
      obtain ⟨-, within, room⟩ := passed
      split
      · rw [List.length_append]
        exact Nat.add_le_of_le_sub within room
      · repeat' split
        all_goals exact Nat.zero_le _

/-- The buffer never holds more than its limit. -/
theorem feed_bounded (payloads : List Bytes)
    (bounded : buffer.accumulated.length ≤ incomingEncodedLimit) :
    (buffer.feed payloads).1.accumulated.length ≤ incomingEncodedLimit := by
  induction payloads generalizing buffer with
  | nil => exact bounded
  | cons payload rest inductionHypothesis =>
      rw [feed_cons]
      exact inductionHypothesis (buffer.take_bounded payload)

/-- The buffer holds whole chunks and has room for some more digits. -/
structure HasRoom (buffer : ChallengeBuffer) (encoded : Bytes) : Prop where
  whole : buffer.accumulated.length % saslAuthenticateChunk = 0
  room : buffer.accumulated.length + encoded.length ≤ incomingEncodedLimit
  groups : encoded.length % 4 = 0

/-- What becomes of a payload that is no bare plus, when the buffer has room for it. -/
theorem take_of_room {chunk : Bytes} (room : buffer.HasRoom chunk) (nonempty : chunk ≠ []) :
    buffer.take chunk =
      if chunk.length = saslAuthenticateChunk then (⟨buffer.accumulated ++ chunk⟩, .ok none)
      else
        match Platform.base64Decode (buffer.accumulated ++ chunk) with
        | some decoded => ({}, .ok (some decoded))
        | none => ({}, .error .malformedChallenge) := by
  have plus : chunk ≠ utf8 "+" := by
    rintro rfl
    exact absurd room.groups (by decide)
  have fits := room.room
  have guard : ¬ ((chunk.isEmpty || (!buffer.accumulated.isEmpty &&
      decide (buffer.accumulated.length % saslAuthenticateChunk ≠ 0)) ||
        (decide (chunk.length > incomingEncodedLimit) ||
          decide (buffer.accumulated.length > incomingEncodedLimit - chunk.length))) = true) := by
    simp only [room.whole, ne_eq, not_true_eq_false, decide_false, Bool.and_false, Bool.or_false,
      Bool.or_eq_true, List.isEmpty_iff, nonempty, decide_eq_true_eq, false_or]
    omega
  rw [take]
  cases decoded : Platform.base64Decode (buffer.accumulated ++ chunk) with
  | none | some raw =>
      simp only [plus, if_false, decide_false, Bool.not_false, Bool.true_and, if_neg guard,
        decide_eq_true_eq, List.isEmpty_iff, List.append_eq_nil_iff, nonempty, and_false, decoded]

/-- A whole chunk asks for more. -/
theorem take_chunk {chunk : Bytes} (room : buffer.HasRoom chunk)
    (full : chunk.length = saslAuthenticateChunk) :
    buffer.take chunk = (⟨buffer.accumulated ++ chunk⟩, .ok none) := by
  have nonempty : chunk ≠ [] := by
    rintro rfl
    cases full
  rw [take_of_room room nonempty, if_pos full]

/-- A shorter chunk completes the challenge. -/
theorem take_last {chunk raw : Bytes} (room : buffer.HasRoom chunk) (nonempty : chunk ≠ [])
    (short : chunk.length ≠ saslAuthenticateChunk)
    (decoded : Platform.base64Decode (buffer.accumulated ++ chunk) = some raw) :
    buffer.take chunk = ({}, .ok (some raw)) := by
  rw [take_of_room room nonempty, if_neg short, decoded]

/-- A bare plus completes a challenge of whole chunks. -/
theorem take_barePlus (whole : buffer.accumulated.length % saslAuthenticateChunk = 0) :
    buffer.take barePlus =
      if buffer.accumulated = [] then ({}, .ok (some []))
      else
        match Platform.base64Decode buffer.accumulated with
        | some decoded => ({}, .ok (some decoded))
        | none => ({}, .error .malformedChallenge) := by
  have nonempty : (utf8 "+").isEmpty = false := by decide
  rw [take, barePlus]
  cases decoded : Platform.base64Decode buffer.accumulated with
  | none | some raw =>
      simp only [whole, nonempty, if_true, decide_true, Bool.not_true, Bool.false_and,
        Bool.or_false, ne_eq, not_true_eq_false, decide_false, Bool.and_false, Bool.false_eq_true,
        if_false, List.isEmpty_iff, decoded]

/-- Chunks after what the buffer holds complete the challenge with the last of them, or with the
bare plus when all of them are whole. -/
theorem feed_chunks {encoded raw : Bytes} (room : buffer.HasRoom encoded) (nonempty : encoded ≠ [])
    (decoded : Platform.base64Decode (buffer.accumulated ++ encoded) = some raw) :
    ∃ waits, buffer.feed (chunksOf saslAuthenticateChunk encoded ++
        if encoded.length % saslAuthenticateChunk = 0 then [barePlus] else []) =
      ({}, List.replicate waits (.ok none) ++ [.ok (some raw)]) := by
  induction size : encoded.length using Nat.strong_induction_on generalizing buffer encoded with
  | _ length inductionHypothesis =>
      subst size
      have chunked : chunksOf saslAuthenticateChunk encoded =
          encoded.take saslAuthenticateChunk ::
            chunksOf saslAuthenticateChunk (encoded.drop saslAuthenticateChunk) := by
        rw [chunksOf, dif_neg (by simpa [saslAuthenticateChunk] using nonempty)]
      by_cases short : encoded.length < saslAuthenticateChunk
      · -- The last chunk is a short one.
        have positive := List.length_pos_iff.mpr nonempty
        rw [chunked, List.take_of_length_le short.le, List.drop_eq_nil_of_le short.le, chunksOf,
          dif_pos (.inl rfl), Nat.mod_eq_of_lt short, if_neg (by omega), List.append_nil, feed_cons,
          take_last room nonempty short.ne decoded]
        exact ⟨0, rfl⟩
      · have full : (encoded.take saslAuthenticateChunk).length = saslAuthenticateChunk := by
          rw [List.length_take]
          omega
        have fits := room.room
        have first : buffer.take (encoded.take saslAuthenticateChunk) =
            (⟨buffer.accumulated ++ encoded.take saslAuthenticateChunk⟩, .ok none) :=
          take_chunk ⟨room.whole, by omega, by rw [full]; rfl⟩ full
        have whole : (buffer.accumulated ++ encoded.take saslAuthenticateChunk).length %
            saslAuthenticateChunk = 0 := by
          rw [List.length_append, full, Nat.add_mod_right]
          exact room.whole
        rw [chunked, List.cons_append]
        by_cases last : encoded.length = saslAuthenticateChunk
        · -- The last chunk is a whole one, and a bare plus follows it.
          have all : encoded.take saslAuthenticateChunk = encoded :=
            List.take_of_length_le last.le
          rw [all] at first whole ⊢
          refine ⟨1, ?_⟩
          have held : buffer.accumulated ++ encoded ≠ [] := by simp [nonempty]
          rw [List.drop_eq_nil_of_le last.le, chunksOf, dif_pos (.inl rfl), last, Nat.mod_self,
            if_pos rfl, List.nil_append, feed_cons, first, feed_cons, take_barePlus whole,
            if_neg held, decoded]
          rfl
        · have remains : (encoded.drop saslAuthenticateChunk).length =
              encoded.length - saslAuthenticateChunk := List.length_drop
          have roomy : HasRoom ⟨buffer.accumulated ++ encoded.take saslAuthenticateChunk⟩
              (encoded.drop saslAuthenticateChunk) := by
            refine ⟨whole, ?_, ?_⟩
            · rw [List.length_append, full, remains]
              omega
            · have groups := room.groups
              rw [remains, saslAuthenticateChunk]
              rw [saslAuthenticateChunk] at short last
              omega
          have positive : 0 < saslAuthenticateChunk := by decide
          obtain ⟨waits, later⟩ := inductionHypothesis _ (by omega) roomy
            (List.ne_nil_of_length_pos (by omega))
            (by rw [List.append_assoc, List.take_append_drop]; exact decoded) rfl
          refine ⟨waits + 1, ?_⟩
          have modulo : (encoded.drop saslAuthenticateChunk).length % saslAuthenticateChunk =
              encoded.length % saslAuthenticateChunk := by
            rw [remains]
            exact (Nat.mod_eq_sub_mod (by omega)).symm
          rw [modulo] at later
          rw [feed_cons, first, later]
          rfl

end ChallengeBuffer

omit [Platform] in
/-- The payload of a written chunk is the chunk. -/
theorem framePayload_chunk {chunk : Bytes} (nonempty : chunk ≠ [])
    (digits : ∀ byte ∈ chunk, isBase64Byte byte = true) :
    framePayload (utf8 "AUTHENTICATE " ++ chunk ++ utf8 "\r\n") = chunk := by
  have lead : utf8 "AUTHENTICATE " = utf8 "AUTHENTICATE" ++ [32] := by decide
  have terminator : utf8 "\r\n" = crlf := by decide
  have named : IsCommandName "AUTHENTICATE" := ⟨by decide, by decide⟩
  have plain : ∀ byte, isBase64Byte byte = true →
      byte ≠ 32 ∧ byte ≠ 58 ∧ isForbidden byte = false := byte_forall (by decide +kernel)
  have word : needsColon chunk = false := by
    refine needsColon_eq_false_iff.mpr ⟨nonempty, fun colon => ?_, fun space => ?_⟩
    · exact (plain 58 (digits 58 (List.mem_of_mem_head? colon))).2.1 rfl
    · exact (plain 32 (digits 32 space)).1 rfl
  have clean : containsForbidden chunk = false := by
    rw [containsForbidden, List.any_eq_false]
    exact fun byte present => ne_true_of_eq_false (plain byte (digits byte present)).2.2
  have text : utf8 "AUTHENTICATE " ++ chunk ++ utf8 "\r\n" =
      labeledCommand (commandText "AUTHENTICATE" [chunk] none) "" ++ crlf := by
    rw [labeledCommand, if_pos rfl, commandText, lead, terminator]
    simp [parameterText]
  have framed : IsFrame (utf8 "AUTHENTICATE " ++ chunk ++ utf8 "\r\n") := by
    rw [terminator]
    refine isFrame_append_crlf ?_
    rw [containsForbidden_append, clean, Bool.or_false]
    decide
  have read := readLine_labeled named (.inl rfl) (text ▸ framed)
  rw [(parseParameters_text_iff [chunk] none).mpr ⟨word, readBack_nil _ _⟩] at read
  rw [framePayload, text, read]
  rfl

omit [Platform] in
/-- No chunk of a text is empty. -/
theorem ne_nil_of_mem_chunksOf {size : Nat} {bytes chunk : Bytes}
    (present : chunk ∈ chunksOf size bytes) : chunk ≠ [] := by
  fun_induction chunksOf size bytes with
  | case1 => cases present
  | case2 bytes more inductionHypothesis =>
      rcases List.mem_cons.mp present with rfl | later
      · rw [ne_eq, List.take_eq_nil_iff]
        exact fun none => more none.symm
      · exact inductionHypothesis later

/-- The payloads of the frames of a response are its chunks, and a bare plus after whole ones. -/
theorem payloads_of_encodeSaslFrames (raw : Bytes) :
    (encodeSaslFrames raw).map framePayload =
      chunksOf saslAuthenticateChunk (Platform.base64Encode raw) ++
        if (Platform.base64Encode raw).length % saslAuthenticateChunk = 0 then [barePlus] else [] := by
  have plus : framePayload (utf8 "AUTHENTICATE +\r\n") = barePlus := by decide
  have chunks : ((chunksOf saslAuthenticateChunk (Platform.base64Encode raw)).map fun chunk =>
      utf8 "AUTHENTICATE " ++ chunk ++ utf8 "\r\n").map framePayload =
        chunksOf saslAuthenticateChunk (Platform.base64Encode raw) := by
    rw [List.map_map]
    refine (List.map_congr_left fun chunk present => ?_).trans (List.map_id _)
    exact framePayload_chunk (ne_nil_of_mem_chunksOf present) fun byte inside =>
      Platform.base64Encode_alphabet raw byte (subset_of_mem_chunksOf present inside)
  simp only [encodeSaslFrames, List.isEmpty_iff]
  by_cases empty : Platform.base64Encode raw = []
  · rw [if_pos empty, empty, chunksOf, dif_pos (.inl rfl), List.map_singleton, plus]
    rfl
  · rw [if_neg empty]
    split
    · rw [List.map_append, chunks, List.map_singleton, plus]
    · rw [chunks, List.append_nil]

/-- The frames of a response are put together again: every frame but the last asks for more, and
the last gives the response. Whatever the frames, the buffer never holds more than its limit. -/
theorem sasl_frames_round_trip (law : Base64Law) (raw : Bytes) (payloads : List Bytes) :
    ((Platform.base64Encode raw).length ≤ incomingEncodedLimit →
      ∃ waits, ({} : ChallengeBuffer).feed ((encodeSaslFrames raw).map framePayload) =
        ({}, List.replicate waits (.ok none) ++ [.ok (some raw)])) ∧
      (({} : ChallengeBuffer).feed payloads).1.accumulated.length ≤ incomingEncodedLimit := by
  refine ⟨fun fits => ?_, ChallengeBuffer.feed_bounded payloads (Nat.zero_le _)⟩
  have size := law.encode_length raw
  rw [payloads_of_encodeSaslFrames]
  by_cases empty : Platform.base64Encode raw = []
  · obtain rfl : raw = [] := by
      rw [empty, List.length_nil] at size
      exact List.eq_nil_of_length_eq_zero (by omega)
    rw [empty, chunksOf, dif_pos (.inl rfl)]
    exact ⟨0, rfl⟩
  · exact ChallengeBuffer.feed_chunks ⟨rfl, by simpa using fits, by omega⟩ empty
      (law.decode_encode raw)

end Framing

section Reference

/-- The digit of a six-bit value stands for it, and is no padding. -/
theorem base64Value_base64Digit {value : Nat} (small : value < 64) :
    base64Value (base64Digit value) = some value ∧ base64Digit value ≠ 61 := by
  have digits : ∀ value : Fin 64,
      base64Value (base64Digit value) = some value.val ∧ base64Digit value ≠ 61 := by
    decide
  exact digits ⟨value, small⟩

/-- The four digits of three bytes stand for them. -/
theorem decodeGroups_cons {first second third fourth : UInt8} (unpadded : fourth ≠ 61)
    (rest : Bytes) :
    decodeGroups (first :: second :: third :: fourth :: rest) = (do
      let middle ← base64Value second
      let later ← base64Value third
      let tail ← decodeGroups rest
      return UInt8.ofNat ((← base64Value first) * 4 + middle / 16) ::
        UInt8.ofNat (middle % 16 * 16 + later / 4) ::
        UInt8.ofNat (later % 4 * 64 + (← base64Value fourth)) :: tail) := by
  rw [decodeGroups]
  all_goals simp [unpadded]

/-- The digits of some bytes stand for them. -/
theorem decodeGroups_encodeBase64 (raw : Bytes) : decodeGroups (encodeBase64 raw) = some raw := by
  have byte (value : UInt8) (number : Nat) (same : number = value.toNat) :
      UInt8.ofNat number = value := by rw [same, UInt8.ofNat_toNat]
  fun_induction encodeBase64 raw with
  | case1 => rfl
  | case2 first =>
      have bound := first.toNat_lt
      rw [decodeGroups, (base64Value_base64Digit (by omega)).1,
        (base64Value_base64Digit (by omega)).1]
      simp only [Option.bind_eq_bind, Option.bind_some, Option.pure_def]
      rw [byte first _ (by omega)]
  | case3 first second =>
      have bound := first.toNat_lt
      have next := second.toNat_lt
      have unpadded : base64Digit (second.toNat % 16 * 4) ≠ 61 :=
        (base64Value_base64Digit (by omega)).2
      rw [decodeGroups, (base64Value_base64Digit (by omega)).1,
        (base64Value_base64Digit (by omega)).1, (base64Value_base64Digit (by omega)).1]
      · simp only [Option.bind_eq_bind, Option.bind_some, Option.pure_def]
        rw [byte first _ (by omega), byte second _ (by omega)]
      · exact fun same => unpadded same
  | case4 first second third rest inductionHypothesis =>
      have bound := first.toNat_lt
      have next := second.toNat_lt
      have last := third.toNat_lt
      rw [decodeGroups_cons (base64Value_base64Digit (by omega)).2, inductionHypothesis,
        (base64Value_base64Digit (by omega)).1, (base64Value_base64Digit (by omega)).1,
        (base64Value_base64Digit (by omega)).1, (base64Value_base64Digit (by omega)).1]
      simp only [Option.bind_eq_bind, Option.bind_some, Option.pure_def]
      rw [byte first _ (by omega), byte second _ (by omega), byte third _ (by omega)]

/-- The digits of some bytes are four for every three bytes begun. -/
theorem encodeBase64_length (raw : Bytes) :
    (encodeBase64 raw).length = 4 * ((raw.length + 2) / 3) := by
  fun_induction encodeBase64 raw with
  | case1 => rfl
  | case2 first => simp
  | case3 first second => simp
  | case4 first second third rest inductionHypothesis =>
      simp only [List.length_cons, inductionHypothesis]
      omega

local instance framingPlatform : Platform := reference

/-- The reference platform's base64 is lawful. -/
theorem reference_base64Law : Base64Law where
  decode_encode raw := by
    show decodeBase64Strict (encodeBase64 raw) = some raw
    rw [decodeBase64Strict, decodeGroups_encodeBase64, Option.filter_some]
    simp
  encode_length := encodeBase64_length

/-- A response of exactly one whole chunk. -/
theorem sasl_frames_round_trip_whole_chunk :
    ∃ waits, ({} : ChallengeBuffer).feed
        ((encodeSaslFrames (List.replicate 300 97)).map framePayload) =
      ({}, List.replicate waits (.ok none) ++ [.ok (some (List.replicate 300 97))]) :=
  (sasl_frames_round_trip reference_base64Law (List.replicate 300 97) []).1 (by decide +kernel)

end Reference

end Omairc.Session
