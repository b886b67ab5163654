import Omairc.Irc.Framer

/-!
# The framer against its stream

The carried state of `IrcFramer` is a function of the bytes read so far alone:
`streamFramer` computes it from the unfinished remainder of the stream.
`feed_stream` shows that one `feed` moves from the state of a stream to the state
of the longer stream and emits exactly the difference between their frames, so
the partition of a stream into chunks has no influence.
-/

namespace Omairc.Irc

open Omairc.Text

/-- The limits on a line without its CRLF. When it is tagged, its tag section and
its classic part are limited apart; else the whole line is its classic part. The
classic limit counts the removed CRLF. -/
def WithinLimits (line : Bytes) : Prop :=
  (∀ tags classic, line = 64 :: (tags ++ 32 :: classic) → 32 ∉ tags →
      tags.length ≤ maxTagSectionBytes ∧ classic.length + 2 ≤ maxInboundClassicFrameBytes) ∧
    ((line.head? ≠ some 64 ∨ 32 ∉ line) → line.length + 2 ≤ maxInboundClassicFrameBytes)

/-- The lines a stream keeps: those within the limits that hold no NUL. -/
def AdmittedLine (line : Bytes) : Prop := 0 ∉ line ∧ WithinLimits line

/-- The code's length check is the limit on the two parts of a line. -/
theorem completeFrameIsValid_iff (frame : Bytes) :
    completeFrameIsValid frame = true ↔ WithinLimits frame := by
  by_cases tagged : frame.head? = some 64
  · rcases position_cases 32 frame with ⟨found, absent⟩ | ⟨front, classic, rfl, absent, found⟩
    · have noParts : ∀ tags classic, frame ≠ 64 :: (tags ++ 32 :: classic) := by
        rintro tags classic rfl
        simp at absent
      simp [completeFrameIsValid, WithinLimits, tagged, found, absent, noParts]
    · cases front with
      | nil => simp at tagged
      | cons lead tags =>
          obtain rfl : lead = 64 := by simpa using tagged
          simp only [List.mem_cons, not_or] at absent
          have uniqueParts : ∀ otherTags otherClassic,
              64 :: (tags ++ 32 :: classic) = 64 :: (otherTags ++ 32 :: otherClassic) →
                32 ∉ otherTags → otherTags = tags ∧ otherClassic = classic := by
            intro otherTags otherClassic same otherAbsent
            have tails : tags ++ 32 :: classic = otherTags ++ 32 :: otherClassic := by
              simpa using same
            have lengths : tags.length = otherTags.length := by
              have left := position_append_cons absent.2 classic
              rw [tails, position_append_cons otherAbsent] at left
              simpa using left.symm
            obtain ⟨sameTags, sameClassic⟩ := List.append_inj tails lengths
            exact ⟨sameTags.symm, by simpa using sameClassic.symm⟩
          simp only [completeFrameIsValid, WithinLimits, found, tagged, ne_eq, not_true, if_false,
            Bool.and_eq_true, decide_eq_true_eq, List.length_append, List.length_cons]
          constructor
          · rintro ⟨tagFits, classicFits⟩
            refine ⟨fun otherTags otherClassic same otherAbsent => ?_, ?_⟩
            · obtain ⟨rfl, rfl⟩ := uniqueParts otherTags otherClassic same otherAbsent
              omega
            · simp
          · rintro ⟨parts, _⟩
            have limits := parts tags classic rfl absent.2
            omega
  · have noParts : ∀ tags classic, frame ≠ 64 :: (tags ++ 32 :: classic) := by
      rintro tags classic rfl
      simp at tagged
    simp [completeFrameIsValid, WithinLimits, tagged, noParts]

instance (line : Bytes) : Decidable (WithinLimits line) :=
  decidable_of_iff _ (completeFrameIsValid_iff line)

instance (line : Bytes) : Decidable (AdmittedLine line) :=
  inferInstanceAs (Decidable (0 ∉ line ∧ WithinLimits line))

/-- The lines of a stream that must come out as frames, in order. -/
def streamFrames (stream : Bytes) : List Bytes :=
  (splitPair 13 10 stream).1.filter fun line => decide (AdmittedLine line)

/-- The lines of a stream that are dropped. -/
def droppedLines (stream : Bytes) : List Bytes :=
  (splitPair 13 10 stream).1.filter fun line => !decide (AdmittedLine line)

/-- One fault for each dropped line, and one for a remainder already given up. -/
def streamFaults (stream : Bytes) : Nat :=
  (droppedLines stream).length + (pendingFault (splitPair 13 10 stream).2).toList.length

/-- The carried state after a stream. -/
def streamFramer (stream : Bytes) : IrcFramer :=
  match pendingFault (splitPair 13 10 stream).2 with
  | none => ⟨(splitPair 13 10 stream).2, false⟩
  | some _ => ⟨retainedCarriageReturn (splitPair 13 10 stream).2, true⟩

/-- Feed chunks in order, collecting what each resolves. -/
def IrcFramer.feedAll (framer : IrcFramer) : List Bytes → IrcFramer × IrcFrameResult
  | [] => (framer, {})
  | chunk :: chunks =>
      let (next, result) := framer.feed chunk
      let (final, results) := next.feedAll chunks
      (final, ⟨result.frames ++ results.frames, result.faults ++ results.faults⟩)

/-- An admitted line becomes a frame. -/
theorem resolveFrame_of_admitted {line : Bytes} (admitted : AdmittedLine line)
    (result : IrcFrameResult) :
    resolveFrame result line = { result with frames := result.frames ++ [line] } := by
  obtain ⟨noNul, fits⟩ := admitted
  simp [resolveFrame, noNul, (completeFrameIsValid_iff line).mpr fits]

/-- A line that is not admitted becomes one fault. -/
theorem resolveFrame_of_dropped {line : Bytes} (dropped : ¬ AdmittedLine line)
    (result : IrcFrameResult) :
    ∃ error, resolveFrame result line = recordFault result error line := by
  by_cases nul : 0 ∈ line
  · exact ⟨.invalidCharacter, by simp [resolveFrame, nul]⟩
  · have overlong : completeFrameIsValid line = false := by
      rw [Bool.eq_false_iff, ne_eq, completeFrameIsValid_iff]
      exact fun fits => dropped ⟨nul, fits⟩
    exact ⟨.tooManyBytes, by simp [resolveFrame, nul, overlong]⟩

/-- An overlong remainder stays overlong when more bytes arrive. -/
theorem pendingFrameIsOverlong_append {rest : Bytes} (more : Bytes)
    (overlong : pendingFrameIsOverlong rest = true) :
    pendingFrameIsOverlong (rest ++ more) = true := by
  have nonempty : rest ≠ [] := by
    rintro rfl
    exact absurd overlong (by decide)
  have sameHead : (rest ++ more).head? = rest.head? := List.head?_append_of_ne_nil rest nonempty
  unfold pendingFrameIsOverlong at overlong ⊢
  rw [sameHead, List.length_append]
  split at overlong
  case isTrue untagged =>
    rw [if_pos untagged]
    rw [decide_eq_true_eq] at overlong ⊢
    omega
  case isFalse tagged =>
    rw [if_neg tagged]
    cases found : position 32 rest with
    | some space =>
        rw [position_append_of_some more found]
        simp only [found] at overlong ⊢
        split at overlong
        · simp_all
        · simp_all
          omega
    | none =>
        rw [position_append_of_notMem more (position_eq_none_iff.mp found)]
        simp only [found, decide_eq_true_eq] at overlong
        cases position 32 more with
        | none =>
            simp only [Option.map_none, decide_eq_true_eq]
            omega
        | some space =>
            simp only [Option.map_some]
            rw [if_pos (by omega)]

/-- Bytes that were given up stay given up when more arrive. -/
theorem pendingFault_append {rest : Bytes} (more : Bytes)
    (hopeless : (pendingFault rest).isSome) : (pendingFault (rest ++ more)).isSome := by
  by_cases nul : 0 ∈ rest
  · simp [pendingFault, nul]
  · have overlong : pendingFrameIsOverlong rest = true := by
      by_contra fits
      simp [pendingFault, nul, fits] at hopeless
    simp only [pendingFault, pendingFrameIsOverlong_append more overlong]
    split <;> rfl

/-- A line whose bytes were given up at its CR is not admitted. -/
theorem not_admitted_of_pendingFault {line : Bytes}
    (hopeless : (pendingFault (line ++ [13])).isSome) : ¬ AdmittedLine line := by
  rintro ⟨noNul, fits⟩
  rw [← completeFrameIsValid_iff] at fits
  have overlong : pendingFrameIsOverlong (line ++ [13]) = true := by
    by_contra short
    simp [pendingFault, noNul, short] at hopeless
  cases line with
  | nil => exact absurd overlong (by decide)
  | cons lead tail =>
      rw [List.cons_append] at overlong
      by_cases tagged : lead = 64
      · subst tagged
        cases found : position 32 (64 :: tail) with
        | none =>
            have alsoNone : position 32 (64 :: (tail ++ [13])) = none := by
              rw [← List.cons_append, position_append_of_notMem _ (position_eq_none_iff.mp found)]
              rfl
            simp [completeFrameIsValid, found, maxInboundClassicFrameBytes] at fits
            simp [pendingFrameIsOverlong, alsoNone, maxTagSectionBytes] at overlong
            omega
        | some space =>
            have alsoSome : position 32 (64 :: (tail ++ [13])) = some space := by
              rw [← List.cons_append, position_append_of_some _ found]
            have inside := (position_eq_some found).2.2
            simp [completeFrameIsValid, found] at fits inside
            simp [pendingFrameIsOverlong, alsoSome] at overlong
            omega
      · simp [completeFrameIsValid, tagged] at fits
        simp [pendingFrameIsOverlong, tagged] at overlong
        omega

/-! ### One feed

`streamFramer` and the two stream functions unfold along the terminators of the
bytes still to read, which is how `feedLoop` walks them. -/

@[simp] theorem recordFault_frames (result : IrcFrameResult) (error : IrcError) (raw : Bytes) :
    (recordFault result error raw).frames = result.frames := rfl

@[simp] theorem recordFault_faults_length (result : IrcFrameResult) (error : IrcError)
    (raw : Bytes) : (recordFault result error raw).faults.length = result.faults.length + 1 := by
  simp [recordFault]

/-- The loop, from a position at the start of a line, resolves the bytes it has as
their own stream. -/
theorem feedLoop_stream (rest : Bytes) (result : IrcFrameResult) :
    (feedLoop false rest result).1 = streamFramer rest ∧
      (feedLoop false rest result).2.frames = result.frames ++ streamFrames rest ∧
      (feedLoop false rest result).2.faults.length =
        result.faults.length + streamFaults rest := by
  induction size : rest.length using Nat.strongRecOn generalizing rest result with
  | ind size ih =>
      cases found : findPair 13 10 rest with
      | some delimiter =>
          have bounded := findPair_bound found
          have split := splitPair_of_some found
          obtain ⟨sameFramer, sameFrames, sameFaults⟩ := ih _ (by simp; omega)
            (rest.drop (delimiter + 2)) (resolveFrame result (rest.take delimiter)) rfl
          rw [feedLoop_line result found, sameFramer, sameFrames, sameFaults]
          refine ⟨by simp [streamFramer, split], ?_⟩
          by_cases admitted : AdmittedLine (rest.take delimiter)
          · rw [resolveFrame_of_admitted admitted]
            simp [streamFrames, streamFaults, droppedLines, split, admitted]
          · obtain ⟨error, recorded⟩ := resolveFrame_of_dropped admitted result
            rw [recorded]
            simp [streamFrames, streamFaults, droppedLines, split, admitted]
            omega
      | none =>
          have split := splitPair_of_none found
          cases fault : pendingFault rest with
          | none =>
              rw [feedLoop_pending result found fault]
              simp [streamFramer, streamFrames, streamFaults, droppedLines, split, fault]
          | some error =>
              have stillOpen : findCrlf (retainedCarriageReturn rest) = none :=
                findPair_retained 13 10 rest
              have again : retainedCarriageReturn (retainedCarriageReturn rest) =
                  retainedCarriageReturn rest := by
                simpa [retainedCarriageReturn] using retained_append_retained 13 rest []
              rw [feedLoop_giveUp result found fault, feedLoop_discardMore _ stillOpen, again]
              simp [streamFramer, streamFrames, streamFaults, droppedLines, split, fault]

/-- Stream functions of a longer stream continue from the remainder of the shorter. -/
theorem stream_append (front more : Bytes) :
    streamFramer (front ++ more) = streamFramer ((splitPair 13 10 front).2 ++ more) ∧
      streamFrames (front ++ more) =
        streamFrames front ++ streamFrames ((splitPair 13 10 front).2 ++ more) ∧
      streamFaults (front ++ more) =
        (droppedLines front).length + streamFaults ((splitPair 13 10 front).2 ++ more) := by
  have split := splitPair_append (13 : UInt8) 10 front more
  refine ⟨by simp [streamFramer, split], by simp [streamFrames, split], ?_⟩
  simp [streamFaults, droppedLines, split]
  omega

/-- One feed moves from the state of a stream to the state of the longer stream,
emits the frames by which they differ, and as many faults as they differ by. -/
theorem feed_stream (front more : Bytes) :
    ((streamFramer front).feed more).1 = streamFramer (front ++ more) ∧
      streamFrames (front ++ more) =
        streamFrames front ++ ((streamFramer front).feed more).2.frames ∧
      streamFaults (front ++ more) =
        streamFaults front + ((streamFramer front).feed more).2.faults.length := by
  obtain ⟨sameFramer, sameFrames, sameFaults⟩ := stream_append front more
  rw [sameFramer, sameFrames, sameFaults]
  have unfinished := findPair_remainder (13 : UInt8) 10 front
  generalize remainderIs : (splitPair 13 10 front).2 = remainder at unfinished ⊢
  cases fault : pendingFault remainder with
  | none =>
      have carried : streamFramer front = ⟨remainder, false⟩ := by
        simp [streamFramer, remainderIs, fault]
      obtain ⟨loopFramer, loopFrames, loopFaults⟩ := feedLoop_stream (remainder ++ more) {}
      rw [carried]
      unfold IrcFramer.feed
      have carriedFaults : streamFaults front = (droppedLines front).length := by
        simp [streamFaults, remainderIs, fault]
      refine ⟨loopFramer, by simpa using loopFrames.symm, ?_⟩
      rw [loopFaults, carriedFaults]
      simp
  | some error =>
      have carried : streamFramer front = ⟨retainedCarriageReturn remainder, true⟩ := by
        simp [streamFramer, remainderIs, fault]
      have carriedFaults : streamFaults front = (droppedLines front).length + 1 := by
        simp [streamFaults, remainderIs, fault]
      have longerFault := pendingFault_append more (by rw [fault]; rfl : (pendingFault remainder).isSome)
      have located := findPair_append_retained more unfinished
      rw [carried, carriedFaults]
      unfold IrcFramer.feed
      cases found : findCrlf (retainedCarriageReturn remainder ++ more) with
      | none =>
          have stillNone : findPair 13 10 (remainder ++ more) = none := by
            rw [located]
            exact Option.map_eq_none_iff.mpr found
          have split := splitPair_of_none stillNone
          obtain ⟨laterError, laterFault⟩ := Option.isSome_iff_exists.mp longerFault
          rw [feedLoop_discardMore _ found]
          refine ⟨?_, by simp [streamFrames, split], ?_⟩
          · simp [streamFramer, split, laterFault, retainedCarriageReturn,
              retained_append_retained]
          · simp [streamFaults, droppedLines, split, laterFault]
      | some delimiter =>
          have short := retained_length_le_one (13 : UInt8) remainder
          rw [show findPair 13 10 (retained 13 remainder ++ more) = some delimiter from found,
            Option.map_some] at located
          have split := splitPair_of_some located
          have sameRest : (remainder ++ more).drop
                (delimiter + (remainder.length - (retained 13 remainder).length) + 2) =
              (retained 13 remainder ++ more).drop (delimiter + 2) := by
            rw [show delimiter + (remainder.length - (retained 13 remainder).length) + 2 =
                (remainder.length - (retained 13 remainder).length) + (delimiter + 2) by omega,
              ← List.drop_drop, List.drop_append_of_le_length (by omega), drop_retained]
          have dropped : ¬ AdmittedLine ((remainder ++ more).take
              (delimiter + (remainder.length - (retained 13 remainder).length))) := by
            apply not_admitted_of_pendingFault
            rw [← take_succ_findPair located, List.take_append,
              List.take_of_length_le (by omega)]
            exact pendingFault_append _ (by rw [fault]; rfl)
          obtain ⟨loopFramer, loopFrames, loopFaults⟩ :=
            feedLoop_stream ((retained 13 remainder ++ more).drop (delimiter + 2)) {}
          rw [feedLoop_discardEnd _ found]
          refine ⟨?_, ?_, ?_⟩
          · rw [show retainedCarriageReturn remainder = retained 13 remainder from rfl, loopFramer]
            simp [streamFramer, split, sameRest]
          · rw [show retainedCarriageReturn remainder = retained 13 remainder from rfl, loopFrames]
            simp [streamFrames, split, sameRest, dropped]
          · rw [show retainedCarriageReturn remainder = retained 13 remainder from rfl, loopFaults]
            simp [streamFaults, droppedLines, split, sameRest, dropped]
            omega

/-! ### Every partition -/

/-- Feeding the chunks of a stream in order, from the state of an earlier stream. -/
theorem feedAll_stream (front : Bytes) (chunks : List Bytes) :
    ((streamFramer front).feedAll chunks).1 = streamFramer (front ++ chunks.flatten) ∧
      streamFrames (front ++ chunks.flatten) =
        streamFrames front ++ ((streamFramer front).feedAll chunks).2.frames ∧
      streamFaults (front ++ chunks.flatten) =
        streamFaults front + ((streamFramer front).feedAll chunks).2.faults.length := by
  induction chunks generalizing front with
  | nil => simp [IrcFramer.feedAll]
  | cons chunk chunks ih =>
      obtain ⟨headFramer, headFrames, headFaults⟩ := feed_stream front chunk
      obtain ⟨tailFramer, tailFrames, tailFaults⟩ := ih (front ++ chunk)
      simp only [IrcFramer.feedAll, List.flatten_cons, ← List.append_assoc]
      rw [headFramer, tailFramer, tailFrames, tailFaults, headFrames, headFaults]
      refine ⟨rfl, ?_, ?_⟩
      · simp
      · simp
        omega

/-- The carried bytes are bounded by a tag section with its two delimiters and a
classic part short of its limit. -/
theorem streamFramer_pending_length (stream : Bytes) :
    (streamFramer stream).pending.length ≤
      maxTagSectionBytes + maxInboundClassicFrameBytes + 1 := by
  unfold streamFramer
  split
  case h_2 =>
    have short := retained_length_le_one (13 : UInt8) (splitPair 13 10 stream).2
    simp only [retainedCarriageReturn]
    omega
  case h_1 hopeful =>
    generalize (splitPair 13 10 stream).2 = remainder at hopeful ⊢
    have fits : pendingFrameIsOverlong remainder = false := by
      by_contra overlong
      rw [Bool.not_eq_false] at overlong
      simp only [pendingFault, overlong, if_true] at hopeful
      split at hopeful <;> cases hopeful
    unfold pendingFrameIsOverlong at fits
    split at fits
    · simp at fits
      simp only
      omega
    · split at fits
      · simp at fits
        simp only
        omega
      · split at fits
        · cases fits
        · simp at fits
          simp only
          omega

/-- Any partition of a stream into chunks gives the frames and the number of faults
of the whole stream. The frames are the lines of the stream less exactly those that
hold NUL or exceed a limit; the faults are one for each dropped line and one for an
unfinished line already given up; the carried bytes are bounded. -/
theorem feedAll_refines_split (chunks : List Bytes) :
    (IrcFramer.feedAll {} chunks).2.frames = (IrcFramer.feed {} chunks.flatten).2.frames ∧
      (IrcFramer.feedAll {} chunks).2.faults.length =
        (IrcFramer.feed {} chunks.flatten).2.faults.length ∧
      (IrcFramer.feedAll {} chunks).2.frames =
        (splitPair 13 10 chunks.flatten).1.filter (fun line => decide (AdmittedLine line)) ∧
      (IrcFramer.feedAll {} chunks).2.faults.length = streamFaults chunks.flatten ∧
      (IrcFramer.feedAll {} chunks).1.pending.length ≤
        maxTagSectionBytes + maxInboundClassicFrameBytes + 1 := by
  have start : streamFramer [] = {} := by decide
  obtain ⟨partFramer, partFrames, partFaults⟩ := feedAll_stream [] chunks
  obtain ⟨_, wholeFrames, wholeFaults⟩ := feed_stream [] chunks.flatten
  rw [start] at partFramer partFrames partFaults wholeFrames wholeFaults
  have noFrames : streamFrames [] = [] := by decide
  have noFaults : streamFaults [] = 0 := by decide
  simp only [List.nil_append, noFrames, noFaults, Nat.zero_add] at *
  refine ⟨?_, ?_, partFrames.symm, partFaults.symm, ?_⟩
  · rw [← partFrames, wholeFrames]
  · rw [← partFaults, wholeFaults]
  · rw [partFramer]
    exact streamFramer_pending_length chunks.flatten

/-- An unfinished tagged line within its limits is carried whole. -/
theorem feed_unfinished_tagged {tags classic : Bytes}
    (clean : ∀ byte ∈ tags ++ classic, byte ≠ 0 ∧ byte ≠ 13) (oneWord : 32 ∉ tags)
    (tagFits : tags.length ≤ maxTagSectionBytes)
    (classicFits : classic.length < maxInboundClassicFrameBytes) :
    (IrcFramer.feed {} (64 :: (tags ++ 32 :: classic))).1 =
      ⟨64 :: (tags ++ 32 :: classic), false⟩ := by
  have noReturn : (13 : UInt8) ∉ 64 :: (tags ++ 32 :: classic) := by
    have absent : 13 ∉ tags ++ classic := fun present => (clean 13 present).2 rfl
    simpa using absent
  have noNul : (0 : UInt8) ∉ 64 :: (tags ++ 32 :: classic) := by
    have absent : 0 ∉ tags ++ classic := fun present => (clean 0 present).1 rfl
    simpa using absent
  have space : position 32 (64 :: (tags ++ 32 :: classic)) = some (tags.length + 1) := by
    have absent : (32 : UInt8) ∉ 64 :: tags := by simpa using oneWord
    exact position_append_cons absent classic
  have hopeful : pendingFault (64 :: (tags ++ 32 :: classic)) = none := by
    simp only [pendingFault, List.contains_eq_mem, noNul, decide_false, Bool.false_eq_true,
      if_false, pendingFrameIsOverlong, List.head?_cons, ne_eq, not_true, space]
    simp
    omega
  rw [IrcFramer.feed, List.nil_append, feedLoop_pending {} (findPair_of_notMem noReturn) hopeful]

/-- A tagged line of two given part lengths, unfinished. -/
def unfinishedTagged (tagLength classicLength : Nat) : Bytes :=
  64 :: (List.replicate tagLength 97 ++ 32 :: List.replicate classicLength 98)

private theorem feed_unfinishedTagged_length {tagLength classicLength : Nat}
    (tagFits : tagLength ≤ maxTagSectionBytes)
    (classicFits : classicLength < maxInboundClassicFrameBytes) :
    (IrcFramer.feedAll {} [unfinishedTagged tagLength classicLength]).1.pending.length =
      tagLength + classicLength + 2 := by
  have clean : ∀ byte ∈ List.replicate tagLength (97 : UInt8) ++ List.replicate classicLength 98,
      byte ≠ 0 ∧ byte ≠ 13 := by
    intro byte present
    rw [List.mem_append, List.mem_replicate, List.mem_replicate] at present
    rcases present with ⟨_, rfl⟩ | ⟨_, rfl⟩ <;> decide
  have oneWord : (32 : UInt8) ∉ List.replicate tagLength 97 := by
    simp [List.mem_replicate]
  have carried := feed_unfinished_tagged clean oneWord
    (by rw [List.length_replicate]; exact tagFits)
    (by rw [List.length_replicate]; exact classicFits)
  simp only [IrcFramer.feedAll, unfinishedTagged, carried, List.length_cons, List.length_append,
    List.length_replicate]
  omega

/-- The bound cannot be the sum of the two limits: a tag section at its limit, with
its `@` and its space, and a classic part one byte short of its limit are all kept. -/
theorem pending_exceeds_limit_sum :
    ¬ ∀ chunks : List Bytes, (IrcFramer.feedAll {} chunks).1.pending.length ≤
      maxTagSectionBytes + maxInboundClassicFrameBytes := by
  intro bounded
  have atInput := bounded [unfinishedTagged 8191 4095]
  have tagFits : 8191 ≤ maxTagSectionBytes := by decide
  have classicFits : 4095 < maxInboundClassicFrameBytes := by decide
  rw [feed_unfinishedTagged_length tagFits classicFits] at atInput
  exact absurd atInput (by decide)

end Omairc.Irc
