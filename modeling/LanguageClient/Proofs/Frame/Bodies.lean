import LanguageClient.Proofs.Frame.Stream
import LanguageClient.Proofs.Message

/-! Frames with bodies of any bytes. A body that is no text, no JSON or no message is used up as a good one
is, so what is read of a frame depends on its own body and on nothing before or behind it. -/
namespace LanguageClient.Frame

/-- What is read of a body. -/
def bodyMessage (body : Bytes) : Except ReadError Message := messageOf (bodyText body)

private theorem bodyMessage_bytesOf (text : String) :
    bodyMessage (bytesOf text) = (Message.parse text).mapError .message := by
  rw [bodyMessage, bodyText_bytesOf, messageOf]

private theorem bodyMessage_of_none {body : Bytes} (noText : textOf? body = none) :
    bodyMessage body = .error (.frame .bodyNotText) := by
  rw [bodyMessage, bodyText, noText]
  rfl

private theorem bodyMessage_cases (body : Bytes) :
    bodyMessage body = .error (.frame .bodyNotText) ∨ ∃ text, body = bytesOf text := by
  cases found : textOf? body with
  | none => exact .inl (bodyMessage_of_none found)
  | some text => exact .inr ⟨text, textOf?_eq_some.1 found⟩

private theorem bodyMessage_eq_ok {body : Bytes} {message : Message} :
    bodyMessage body = .ok message ↔ ∃ text, body = bytesOf text ∧ Message.parse text = .ok message := by
  constructor
  · intro read
    obtain noText | ⟨text, rfl⟩ := bodyMessage_cases body
    · rw [noText] at read
      contradiction
    · rw [bodyMessage_bytesOf] at read
      cases parsed : Message.parse text with
      | error e =>
        rw [parsed] at read
        contradiction
      | ok value =>
        rw [parsed] at read
        cases read
        exact ⟨text, rfl, parsed⟩
  · rintro ⟨text, rfl, parsed⟩
    rw [bodyMessage_bytesOf, parsed]
    rfl

private theorem bodyMessage_error {body : Bytes} {e : ReadError} (failed : bodyMessage body = .error e) :
    e.kind = .invalidData := by
  obtain noText | ⟨text, rfl⟩ := bodyMessage_cases body
  · rw [noText] at failed
    cases failed
    rfl
  · rw [bodyMessage_bytesOf] at failed
    cases parsed : Message.parse text with
    | error cause =>
      rw [parsed] at failed
      cases failed
      rfl
    | ok message =>
      rw [parsed] at failed
      contradiction

namespace Reader

/-- Every frame gives one result, which is the message of its body or says that the data are invalid; the end
of the stream comes after all of them. -/
theorem readAll_enframe (bodies pieces : List Bytes) (capacity : Nat)
    (fits : ∀ body ∈ bodies, body.length ≤ bufferLimit) (cut : pieces.flatten = bodies.flatMap enframe) :
    (readAll (pieces.flatMap (throughPipe capacity))).map messageOf =
        bodies.map bodyMessage ++ [.error (.frame .closed)] ∧
      (ReadError.frame .closed).kind = .unexpectedEnd ∧
      ∀ body, (∀ message, bodyMessage body = .ok message ↔
          ∃ text, body = bytesOf text ∧ Message.parse text = .ok message) ∧
        ∀ e, bodyMessage body = .error e → e.kind = .invalidData := by
  refine ⟨?_, rfl, fun body => ⟨fun message => bodyMessage_eq_ok, fun e => bodyMessage_error⟩⟩
  rw [readAll_frames bodies pieces capacity fits cut, List.map_append, List.map_map]
  rfl

/-- Bytes that are no text, text that looks like a header, an object that is no message, and a message. -/
def oddBodies : List Bytes :=
  [[0xc3, 0x28], bytesOf "Content-Length: 1\r\n\r\n", bytesOf (Json.object []).compact,
    bytesOf (Message.notification (.new "exit" none)).text]

theorem readAll_enframe_odd :
    (∀ body ∈ oddBodies, body.length ≤ bufferLimit) ∧
    [(oddBodies.flatMap enframe).take 40, (oddBodies.flatMap enframe).drop 40].flatten =
      oddBodies.flatMap enframe ∧
    (readAll ([(oddBodies.flatMap enframe).take 40, (oddBodies.flatMap enframe).drop 40].flatMap
        (throughPipe 3))).map messageOf =
      [.error (.frame .bodyNotText), .error (.message .malformed), .error (.message (.shape .notAMessage)),
        .ok (.notification (.new "exit" none)), .error (.frame .closed)] := by
  have fits : ∀ body ∈ oddBodies, body.length ≤ bufferLimit := by
    simp only [oddBodies, List.forall_mem_cons, length_bytesOf]
    decide
  have cut : [(oddBodies.flatMap enframe).take 40, (oddBodies.flatMap enframe).drop 40].flatten =
      oddBodies.flatMap enframe := by
    simp only [List.flatten_cons, List.flatten_nil, List.append_nil, List.take_append_drop]
  obtain ⟨results, -, -⟩ := readAll_enframe oddBodies _ 3 fits cut
  have noText : bodyMessage [0xc3, 0x28] = .error (.frame .bodyNotText) := bodyMessage_of_none (by decide)
  have noJson : Message.parse "Content-Length: 1\r\n\r\n" = .error .malformed := by rfl
  have noMessage : Message.parse (Json.object []).compact = .error (.shape .notAMessage) := by
    rw [Message.parse, Json.parse?_compact rfl (by decide)]
    rfl
  have message : Message.parse (Message.notification (.new "exit" none)).text =
      .ok (.notification (.new "exit" none)) :=
    Message.parse_text_eq (by simp [Message.payloads, Notification.new])
      (by simp [Message.payloads, Notification.new]) (by decide)
  refine ⟨fits, cut, ?_⟩
  rw [results]
  simp only [oddBodies, List.map_cons, List.map_nil, noText, bodyMessage_bytesOf, noJson, noMessage, message]
  rfl

end Reader

end LanguageClient.Frame
