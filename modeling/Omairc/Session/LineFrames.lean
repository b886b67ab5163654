import Omairc.Irc.ParserRoundTrip
import Omairc.Session.Projections

/-!
# The lines the session builds are frames

The lines of the handshake do not pass the command builder: capability requests,
SASL responses, the PONG and the PING of the link. Each is one frame all the same,
by where its bytes come from.
-/

namespace Omairc.Session

open Omairc.Text Omairc.Irc

/-- The characters of a joined text come from the separator and the pieces. -/
theorem mem_joinTexts {separator : String} {texts : List String} {character : Char}
    (inside : character ∈ (joinTexts separator texts).toList) :
    character ∈ separator.toList ∨ ∃ text ∈ texts, character ∈ text.toList := by
  rw [joinTexts, String.toList_ofList] at inside
  induction texts with
  | nil => simp [List.intercalate] at inside
  | cons text rest inductionHypothesis =>
      cases rest with
      | nil => exact .inr ⟨text, by simp, by simpa [List.intercalate] using inside⟩
      | cons next rest =>
          rw [List.map_cons, List.map_cons, List.intercalate_cons_cons, List.mem_append,
            List.mem_append, ← List.map_cons] at inside
          rcases inside with (first | between) | later
          · exact .inr ⟨text, by simp, first⟩
          · exact .inl between
          · rcases inductionHypothesis later with between | ⟨other, present, within⟩
            · exact .inl between
            · exact .inr ⟨other, List.mem_cons_of_mem _ present, within⟩

/-- A text is clean when each of its characters encodes to clean bytes. -/
theorem containsForbidden_utf8 {text : String} :
    containsForbidden (utf8 text) = false ↔
      ∀ character ∈ text.toList, containsForbidden (String.utf8EncodeChar character) = false := by
  conv_lhs => rw [← String.ofList_toList (s := text), utf8_ofList]
  rw [containsForbidden, List.any_flatMap, List.any_eq_false]
  exact forall₂_congr fun character _ => by rw [Bool.not_eq_true, containsForbidden]

/-- A text joined from clean pieces with a clean separator is clean. -/
theorem containsForbidden_joinTexts {separator : String} {texts : List String}
    (between : containsForbidden (utf8 separator) = false)
    (pieces : ∀ text ∈ texts, containsForbidden (utf8 text) = false) :
    containsForbidden (utf8 (joinTexts separator texts)) = false := by
  rw [containsForbidden_utf8] at between ⊢
  intro character inside
  rcases mem_joinTexts inside with separating | ⟨text, present, within⟩
  · exact between character separating
  · exact containsForbidden_utf8.mp (pieces text present) character within

/-- A clean command with its terminator is one frame. -/
theorem isFrame_append_crlf {command : Bytes} (clean : containsForbidden command = false) :
    IsFrame (command ++ crlf) := ⟨command, clean, rfl⟩

/-- A frame is never empty. -/
theorem ne_nil_of_isFrame {frame : Bytes} (built : IsFrame frame) : frame ≠ [] := by
  obtain ⟨body, -, rfl⟩ := built
  simp [crlf]

/-! ## Capability requests -/

/-- The capability names are clean. -/
theorem wantedText_clean (wanted : WantedToken) :
    containsForbidden (utf8 wanted.text) = false := by
  cases wanted
  all_goals decide

/-- The pass over the wanted table collects names of the table. -/
theorem requestToken_texts (wanted : List WantedToken)
    (scan : IrcCapabilityNegotiation.RequestScan)
    (lines : ∀ text ∈ scan.request.lines, ∃ row, text = WantedToken.text row)
    (presence : ∀ text ∈ scan.presence, ∃ row, text = WantedToken.text row) :
    (∀ text ∈ (wanted.foldl IrcCapabilityNegotiation.requestToken scan).request.lines,
      ∃ row, text = WantedToken.text row) ∧
    ∀ text ∈ (wanted.foldl IrcCapabilityNegotiation.requestToken scan).presence,
      ∃ row, text = WantedToken.text row := by
  induction wanted generalizing scan with
  | nil => exact ⟨lines, presence⟩
  | cons row rest inductionHypothesis =>
      rw [List.foldl_cons]
      refine inductionHypothesis _ ?_ ?_
      all_goals
        unfold IrcCapabilityNegotiation.requestToken
        repeat' split
      any_goals exact lines
      any_goals exact presence
      all_goals
        simp only [List.mem_append, List.mem_singleton]
        rintro text (earlier | rfl)
      any_goals exact ⟨row, rfl⟩
      all_goals first
        | exact lines text earlier
        | exact presence text earlier

/-- Every request line is clean. -/
theorem takeRequest_lines_clean (caps : IrcCapabilityNegotiation) :
    ∀ text ∈ caps.takeRequest.2.lines, containsForbidden (utf8 text) = false := by
  obtain ⟨lines, presence⟩ := requestToken_texts wantedTokens { caps } (by simp) (by simp)
  have clean : ∀ text, (∃ row, text = WantedToken.text row) →
      containsForbidden (utf8 text) = false := by
    rintro text ⟨row, rfl⟩
    exact wantedText_clean row
  intro text present
  simp only [IrcCapabilityNegotiation.takeRequest] at present
  split at present
  · exact clean text (lines text present)
  · rcases List.mem_append.mp present with own | shared
    · exact clean text (lines text own)
    · obtain rfl := List.mem_singleton.mp shared
      exact containsForbidden_joinTexts (by decide) fun piece within =>
        clean piece (presence piece within)

/-- A capability request is one frame. -/
theorem isFrame_capReq {text : String} (clean : containsForbidden (utf8 text) = false) :
    IsFrame (utf8 ("CAP REQ :" ++ text) ++ crlf) := by
  refine isFrame_append_crlf ?_
  have verb : containsForbidden (utf8 "CAP REQ :") = false := by decide
  simp [verb, clean]

/-! ## Registration -/

/-- The NICK line is one frame. -/
theorem isFrame_of_nick {nickname : String} {features : IrcServerFeatures} {built : Bytes}
    (accepted : nick nickname features = .ok built) : IsFrame built := by
  unfold nick at accepted
  split at accepted
  · cases accepted
  · exact isFrame_of_line accepted

/-- The lines of the registration burst are frames. -/
theorem isFrame_of_registrationLines {config : SessionConfig} {sendPass : Bool}
    {features : IrcServerFeatures} {lines : List Bytes}
    (built : registrationLines config sendPass features = some lines) :
    ∀ frame ∈ lines, IsFrame frame := by
  have ofUser {built : Bytes}
      (accepted : user config.username config.realname features = .ok built) : IsFrame built := by
    unfold user at accepted
    split at accepted
    · cases accepted
    · exact isFrame_of_line accepted
  have ofPass {built : Bytes} (accepted : Irc.pass config.password features = .ok built) :
      IsFrame built := by
    unfold Irc.pass at accepted
    split at accepted
    · cases accepted
    · exact isFrame_of_line accepted
  unfold registrationLines at built
  split at built
  · rename_i nickAccepted userAccepted
    split at built
    · split at built
      · rename_i passAccepted
        cases built
        simpa using ⟨ofPass passAccepted, isFrame_of_nick nickAccepted, ofUser userAccepted⟩
      · cases built
    · cases built
      simpa using ⟨isFrame_of_nick nickAccepted, ofUser userAccepted⟩
  · cases built

/-! ## SASL responses -/

/-- The chunks of a text hold nothing else. -/
theorem subset_of_mem_chunksOf {size : Nat} {bytes chunk : Bytes}
    (present : chunk ∈ chunksOf size bytes) : chunk ⊆ bytes := by
  fun_induction chunksOf size bytes with
  | case1 => simp at present
  | case2 bytes more inductionHypothesis =>
      rcases List.mem_cons.mp present with rfl | later
      · exact (List.take_sublist _ _).subset
      · exact fun _ inside => (List.drop_sublist _ _).subset (inductionHypothesis later inside)

variable [Platform]

/-- Base64 text is clean. -/
theorem base64Encode_clean (raw : Bytes) :
    containsForbidden (Platform.base64Encode raw) = false := by
  rw [containsForbidden, List.any_eq_false]
  have clean : ∀ byte, isBase64Byte byte = true → ¬ isForbidden byte = true :=
    byte_forall (by decide +kernel)
  exact fun byte present => clean byte (Platform.base64Encode_alphabet raw byte present)

/-- Every frame of a SASL response is one frame. -/
theorem isFrame_of_encodeSaslFrames {raw frame : Bytes} (present : frame ∈ encodeSaslFrames raw) :
    IsFrame frame := by
  have verb : containsForbidden (utf8 "AUTHENTICATE ") = false := by decide
  have bare : IsFrame (utf8 "AUTHENTICATE +\r\n") :=
    ⟨utf8 "AUTHENTICATE +", by decide, by decide⟩
  have terminator : utf8 "\r\n" = crlf := by decide
  have chunked : ∀ frame ∈ (chunksOf saslAuthenticateChunk (Platform.base64Encode raw)).map
      (fun chunk => utf8 "AUTHENTICATE " ++ chunk ++ utf8 "\r\n"), IsFrame frame := by
    intro frame within
    obtain ⟨chunk, chunkPresent, rfl⟩ := List.mem_map.mp within
    rw [terminator]
    refine isFrame_append_crlf ?_
    have clean := containsForbidden_subset (base64Encode_clean raw)
      (subset_of_mem_chunksOf chunkPresent)
    simp [verb, clean]
  simp only [encodeSaslFrames] at present
  split at present
  · obtain rfl := List.mem_singleton.mp present
    exact bare
  · split at present
    · rcases List.mem_append.mp present with within | last
      · exact chunked frame within
      · obtain rfl := List.mem_singleton.mp last
        exact bare
    · exact chunked frame present

end Omairc.Session
