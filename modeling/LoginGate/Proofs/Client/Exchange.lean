import LoginGate.Proofs.Session.Framing
import LoginGate.Proofs.Wire.RoundTrip
import LoginGate.Session

/-! # Requests and responses arrive

A request or a response is sent as the text of an object and a line feed. The text has no other line
feed and neither begins nor ends with a blank, so whoever takes a line and trims it has the text
again, and reads from it what was sent.
-/

namespace LoginGate.Client

open Session

/-! ## Responses -/

/-- A client takes the first line that the service writes. -/
theorem reply_line {line : List UInt8} (plain : lineFeed ∉ line) (later : List UInt8) :
    reply (line ++ lineFeed :: later) = response (line ++ [lineFeed]) := by
  have whole : wholeLines _ = _ := linesAt_line plain later
  have short : (line ++ [lineFeed]).length ≤ (line ++ lineFeed :: later).length := by
    simp only [List.length_append, List.length_cons, List.length_nil]
    omega
  rw [reply, (cut_of_wholeLines whole short).1]

/-- A line of text is read as JSON without the blanks at its end. -/
theorem response_line (text : List Char) :
    response (encoded text ++ [lineFeed]) =
      (Json.decodeText Response.ofJson (String.ofList (Text.trimRight (text ++ ['\n'])))).mapError
        .undecodable := by
  have some : (encoded text ++ [lineFeed]).isEmpty = false :=
    List.isEmpty_eq_false_iff.mpr (List.append_ne_nil_of_right_ne_nil _ (List.cons_ne_nil _ _))
  rw [response, some, if_neg Bool.false_ne_true, decode?_line]

/-- A response whose code takes sixteen bits and whose rules were stored at plain times is what its
text is decoded to. The text has no line feed, so a client that is sent it as a line has the
response, whatever else it is sent. -/
theorem response_arrives (response : Response) (sendable : response.IsSendable)
    (later : List UInt8) :
    let text := response.toJson.toText
    Session.written response = text.toUTF8.toList ++ [lineFeed] ∧
      lineFeed ∉ text.toUTF8.toList ∧
      Json.decodeText Response.ofJson text = .ok response ∧
      reply (Session.written response ++ later) = .ok response := by
  intro text
  have bytes : text.toUTF8.toList = encoded response.toJson.render := toList_toText _
  have plain : lineFeed ∉ encoded response.toJson.render := lineFeed_not_mem_render _
  have decoded : Json.decodeText Response.ofJson text = .ok response := by
    rw [Json.decodeText_toText, response.ofJson_toJson sendable]
  have trimmed : Text.trimRight (response.toJson.render ++ ['\n']) = response.toJson.render :=
    (Json.trim_line_present _).2
  have received : reply (Session.written response ++ later) = .ok response := by
    rw [written_eq, List.append_assoc, List.singleton_append, reply_line plain, response_line,
      trimmed]
    exact congrArg (Except.mapError Fault.undecodable) decoded
  exact ⟨rfl, bytes ▸ plain, decoded, received⟩

/-- Quotes, control characters, host bits, a mapped range and the last nanosecond of the calendar
arrive, and a second line that is not even UTF-8 does no harm. -/
theorem response_arrives_of_extremes :
    let last : Rule := ⟨.ofNat (1 <<< 128 - 1), .unlisted,
      ⟨⟨.v6, 0xFFFF_0A00_0001, by decide⟩, 100, by decide⟩, ⟨253_402_300_799, 999_999_999⟩⟩
    let first : Rule := ⟨.ofNat 7, .deny,
      ⟨⟨.v4, 0xC0A8_014D, by decide⟩, 24, by decide⟩, ⟨-62_167_219_200, 120_000_000⟩⟩
    let response : Response :=
      { ok := false, admitted := some false, reason := some (.limit .password), found := some true
        rule := some last, rules := some [first, last], kind := some "", code := some 65535
        message := some "\"\\\n\u0000\u2028" }
    response.IsSendable ∧ toString first.updatedAt = "0000-01-01T00:00:00.120Z" ∧
      toString last.network = "::ffff:10.0.0.1/100" ∧
      reply (Session.written response ++ [0xFF, lineFeed]) = .ok response := by
  intro last first response
  have sendable : response.IsSendable := by
    refine ⟨?_, ?_, ?_⟩
    · decide
    · decide +kernel
    · decide +kernel
  obtain ⟨-, -, -, received⟩ := response_arrives response sendable [0xFF, lineFeed]
  exact ⟨sendable, by decide +kernel, by decide +kernel, received⟩

/-! ## Requests -/

section

variable {σ β : Type} [RuleStore σ] [Limiter β]

/-- Whatever texts a request holds, the service decodes it from the line that the client writes and
does what the request asks. The line has no line feed but the one that ends it and is not blank. -/
theorem request_arrives (gate : Gate σ β) (request : Request) :
    let text := request.toJson.toText
    written request = text.toUTF8.toList ++ [lineFeed] ∧
      lineFeed ∉ text.toUTF8.toList ∧
      text.toList.all Text.isBlank = false ∧
      (∃ line, decode? (written request) = some line ∧ String.ofList (Text.trim line) = text) ∧
      Service.decode text = .ok request ∧
      Service.handleLine gate text = Service.handle gate request := by
  intro text
  have bytes : text.toUTF8.toList = encoded request.toJson.render := toList_toText _
  have plain : lineFeed ∉ encoded request.toJson.render := lineFeed_not_mem_render _
  have decoded : Service.decode text = .ok request := Service.decode_toText request
  have trimmed : String.ofList (Text.trim (request.toJson.render ++ ['\n'])) = text :=
    congrArg String.ofList (Json.trim_line_present _).1
  have handled : Service.handleLine gate text = Service.handle gate request := by
    rw [Service.handleLine, decoded]
  have visible : text.toList.all Text.isBlank = false := by
    obtain ⟨inner, braces⟩ : ∃ inner, request.toJson.render = '\x7b' :: (inner ++ ['\x7d']) :=
      Json.exists_render_present _
    change (String.ofList request.toJson.render).toList.all Text.isBlank = false
    rw [String.toList_ofList, braces]
    rfl
  have line : decode? (written request) = some (request.toJson.render ++ ['\n']) := by
    rw [written, bytes, decode?_line]
  exact ⟨rfl, bytes ▸ plain, visible, ⟨_, line, trimmed⟩, decoded, handled⟩

end

end LoginGate.Client
