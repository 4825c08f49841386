import LanguageClient.Proofs.Frame.Messages
import LanguageClient.Proofs.Connection.Entries

/-! Replies to the requests of the server. The reader takes in one message after the other and has at
most one reply in hand; it puts that into the queue before it takes in the next message. So the replies
stand in the order of the requests, one for each, until somebody closes the way out, and what else the
server sends, and what the calls do in between, adds none. -/
namespace LanguageClient

def itemCount : Option Json → Nat
  | some (.object members) =>
    match Table.get? members "items" with
    | some (.array items) => items.length
    | _ => 0
  | _ => 0

def acknowledgedMethods : List String :=
  ["client/registerCapability", "client/unregisterCapability", "window/workDoneProgress/create"]

structure Answers (q : Request) (r : Response) : Prop where
  version : r.jsonrpc = "2.0"
  id : r.id = some q.id
  configuration : q.method = "workspace/configuration" →
    r.error = none ∧ r.result = some (.array (List.replicate (itemCount q.params) (.object [])))
  acknowledged : q.method ∈ acknowledgedMethods → r.error = none ∧ r.result = some .null
  unknown : q.method ≠ "workspace/configuration" → q.method ∉ acknowledgedMethods →
    r.result = none ∧ r.error = some ⟨-32601, "Method not found: " ++ q.method, none⟩

def Message.request? : Message → Option Request
  | .request q => some q
  | _ => none

def requestsOf (messages : List Message) : List Request := messages.filterMap Message.request?

def responseText (r : Response) : String := (Message.response r).text

def Move.isReading : Move → Bool
  | .turn .reader => true
  | _ => false

theorem Move.isReading_iff {m : Move} : m.isReading = true ↔ m = .turn .reader := by
  constructor
  · intro own
    unfold isReading at own
    split at own
    · rfl
    · contradiction
  · rintro rfl
    rfl

namespace ReaderPhase

/-- The reader goes on to take in messages. -/
def serves : ReaderPhase → Bool
  | .reading => true
  | .replyProbing _ _ => true
  | .replySending _ _ => true
  | _ => false

def inHand? : ReaderPhase → Option String
  | .replyProbing _ text => some text
  | .replySending _ text => some text
  | _ => none

def due : ReaderPhase → Nat
  | .replyProbing _ _ => 2
  | .replySending _ _ => 1
  | _ => 0

theorem due_of_free {reader : ReaderPhase} (free : reader.inHand? = none) : reader.due = 0 := by
  cases reader <;> first | rfl | contradiction

theorem inHand?_of_not_due {reader : ReaderPhase} (none : reader.due = 0) : reader.inHand? = .none := by
  cases reader <;> first | rfl | contradiction

theorem due_of_inHand {reader : ReaderPhase} {text : String} (hand : reader.inHand? = some text) :
    0 < reader.due ∧ reader.serves = true := by
  cases reader with
  | replyProbing | replySending => exact ⟨Nat.succ_pos _, rfl⟩
  | _ => contradiction

theorem inHand?_of_gone {reader : ReaderPhase} (gone : reader.serves = false) : reader.inHand? = none := by
  cases reader <;> first | rfl | contradiction

end ReaderPhase

namespace Connection

private theorem replyTo_answers (q : Request) : Answers q (replyTo q) := by
  have items : configuration q.params = .array (List.replicate (itemCount q.params) (.object [])) := by
    unfold configuration itemCount
    cases q.params with
    | none => rfl
    | some params =>
      cases params with
      | object members =>
        change Json.array (List.map _ (((Table.get? members "items").bind Json.asArray?).getD [])) = _
        dsimp only
        cases Table.get? members "items" with
        | none => rfl
        | some value =>
          cases value with
          | array items => exact congrArg Json.array List.map_const'
          | _ => rfl
      | _ => rfl
  unfold replyTo answerRequest
  by_cases asked : q.method = "workspace/configuration"
  · rw [if_pos asked]
    refine ⟨rfl, rfl, fun _ => ⟨rfl, congrArg some items⟩, fun known => ?_, fun other => absurd asked other⟩
    rw [asked] at known
    simp [acknowledgedMethods] at known
  · rw [if_neg asked]
    by_cases known : q.method ∈ acknowledgedMethods
    · have simple : (q.method = "client/registerCapability" || q.method = "client/unregisterCapability" ||
          q.method = "window/workDoneProgress/create") = true := by
        simpa [acknowledgedMethods, or_assoc] using known
      rw [if_pos simple]
      exact ⟨rfl, rfl, fun now => absurd now asked, fun _ => ⟨rfl, rfl⟩, fun _ other => absurd known other⟩
    · have simple : ¬ (q.method = "client/registerCapability" || q.method = "client/unregisterCapability" ||
          q.method = "window/workDoneProgress/create") = true := by
        simpa [acknowledgedMethods, or_assoc] using known
      rw [if_neg simple]
      exact ⟨rfl, rfl, fun now => absurd now asked, fun now => absurd now known, fun _ _ => ⟨rfl, rfl⟩⟩

def arrival (c : Connection) : Move → Frame.Bytes
  | .receive bytes => if c.inboxEnded then [] else bytes
  | _ => []

/-- The bytes that arrive in a run. -/
def arrived (c : Connection) (moves : List Move) : Frame.Bytes := c.gather arrival moves

def message? (c : Connection) : Move → Option Message
  | .turn .reader =>
    if c.reader = .reading then
      match Frame.nextMessage c.inboxEnded c.inbox with
      | .done (.ok message) _ => some message
      | _ => none
    else none
  | _ => none

def messages (c : Connection) (moves : List Move) : List Message :=
  c.gather (fun c m => (c.message? m).toList) moves

def reply? (c : Connection) : Move → Option String
  | .turn .reader => (c.put? (.turn .reader)).bind Outbound.text?
  | _ => none

def replies (c : Connection) (moves : List Move) : List String :=
  c.gather (fun c m => (c.reply? m).toList) moves

def repliesTo (messages : List Message) : List String :=
  (requestsOf messages).map fun q => responseText (replyTo q)

theorem repliesTo_append (first second : List Message) :
    repliesTo (first ++ second) = repliesTo first ++ repliesTo second := by
  simp [repliesTo, requestsOf]

theorem forall₂_repliesTo (messages : List Message) :
    ∃ responses, List.Forall₂ Answers (requestsOf messages) responses ∧
      responses.map responseText = repliesTo messages := by
  refine ⟨(requestsOf messages).map replyTo, ?_, by rw [List.map_map]; rfl⟩
  generalize requestsOf messages = requests
  induction requests with
  | nil => exact .nil
  | cons q rest ih => exact .cons (replyTo_answers q) ih

/-- A reply finds no way out any more: a shutdown has closed the queue, or the writer has ended because
the server does not read. -/
def CutOff (c : Connection) : Prop :=
  (∃ (i : Nat) (k : Call), c.calls[i]? = some k ∧ k.IsShut) ∨ c.writer = .ended ∧ c.peerReads = false

private theorem CutOff.move {c : Connection} (cut : CutOff c) (shutdowns : Shutdowns c) (m : Move) :
    CutOff (c.move m) := by
  rcases cut with ⟨i, k, found, shut⟩ | ⟨ended, deaf⟩
  · obtain ⟨k', found', shut'⟩ := (c.move_change m).1.shut_stays shutdowns found shut
    exact .inl ⟨i, k', found', shut'⟩
  · refine .inr ⟨(c.move_flow m).ended ended, ?_⟩
    cases reads : (c.move m).peerReads with
    | false => rfl
    | true =>
      rw [(c.move_flow m).reads reads] at deaf
      contradiction

/-- While the reader serves, only this keeps a reply from the queue. -/
theorem CutOff.of_closed {c : Connection} (shutting : Shutting c) (serves : c.reader.serves = true)
    (closed : c.closed = true) : CutOff c := by
  rcases shutting.closer closed with ending | shut
  · cases reader : c.reader <;> rw [reader] at serves ending <;> contradiction
  · exact .inl shut

private theorem CutOff.of_ended {c : Connection} (shutting : Shutting c) (serves : c.reader.serves = true)
    (ended : c.writer = .ended) : CutOff c := by
  rcases shutting.writer (by rw [ended]; nofun) with closed | deaf
  · exact .of_closed shutting serves closed
  · exact .inr ⟨ended, deaf⟩

theorem message?_of_reading {c : Connection} {message : Message} {rest : Frame.Bytes}
    (reading : c.reader = .reading) (next : Frame.nextMessage c.inboxEnded c.inbox = .done (.ok message) rest) :
    c.message? (.turn .reader) = some message := by
  rw [message?, if_pos reading, next]

private theorem message?_of_nothing {c : Connection} (reading : c.reader = .reading)
    (nothing : ∀ message rest, Frame.nextMessage c.inboxEnded c.inbox ≠ .done (.ok message) rest) :
    c.message? (.turn .reader) = none := by
  rw [message?, if_pos reading]
  split
  · next message rest next => exact absurd next (nothing message rest)
  · rfl

private theorem message?_of_busy {c : Connection} (busy : c.reader ≠ .reading) :
    c.message? (.turn .reader) = none :=
  if_neg busy

private theorem reply?_of_free {c : Connection} (free : c.reader.outbound?.bind Outbound.text? = none) :
    c.reply? (.turn .reader) = none := by
  rw [reply?, put?]
  split
  · rfl
  · exact free

private theorem reply?_of_sending {c : Connection} {method text : String}
    (sending : c.reader = .replySending method text) :
    c.reply? (.turn .reader) = if c.writer = .ended then none else some text := by
  rw [reply?, put?, outbound?, sending]
  split <;> rfl

/-- What the reader does in its turn, with the message that it takes in and the reply that it puts into
the queue. -/
inductive ReaderTurn (c c' : Connection) : Option Message → Option String → Prop
  | idle (lost : c.step? .reader = none) (same : c' = c) : ReaderTurn c c' none none
  | took (message : Message) (rest : Frame.Bytes) (reading : c.reader = .reading)
      (next : Frame.nextMessage c.inboxEnded c.inbox = .done (.ok message) rest) (inbox : c'.inbox = rest)
      (hand : c'.reader.inHand? = message.request?.map fun q => responseText (replyTo q))
      (due : c'.reader.due ≤ 2) (serves : c'.reader.serves = true) : ReaderTurn c c' (some message) none
  | failed (reading : c.reader = .reading)
      (decided : Frame.nextMessage c.inboxEnded c.inbox ≠ .waiting)
      (nothing : ∀ message rest, Frame.nextMessage c.inboxEnded c.inbox ≠ .done (.ok message) rest)
      (gone : c'.reader.serves = false) : ReaderTurn c c' none none
  | refused (text : String) (hand : c.reader.inHand? = some text) (noWay : c.closed = true ∨ c.writer = .ended)
      (reading : c'.reader = .reading) (inbox : c'.inbox = c.inbox) : ReaderTurn c c' none none
  | admitted (method text : String) (probing : c.reader = .replyProbing method text)
      (sending : c'.reader = .replySending method text) (inbox : c'.inbox = c.inbox) : ReaderTurn c c' none none
  | replied (method text : String) (sending : c.reader = .replySending method text)
      (reading : c'.reader = .reading) (inbox : c'.inbox = c.inbox) : ReaderTurn c c' none (some text)
  | ending (gone : c.reader.serves = false) (gone' : c'.reader.serves = false) : ReaderTurn c c' none none

theorem handleMessage_reader (c : Connection) (reading : c.reader = .reading) (message : Message) :
    (c.handleMessage message).reader.inHand? = (message.request?.map fun q => responseText (replyTo q)) ∧
      (c.handleMessage message).reader.due ≤ 2 ∧ (c.handleMessage message).reader.serves = true := by
  cases message with
  | response r =>
    obtain ⟨pending, log, noted | ⟨i, answered⟩⟩ := c.handleResponse_eq r
    · rw [handleMessage, noted, reading]
      exact ⟨rfl, Nat.zero_le _, rfl⟩
    · rw [handleMessage, answered, reading]
      exact ⟨rfl, Nat.zero_le _, rfl⟩
  | notification n =>
    obtain ⟨diagnostics, intercepted, log, told⟩ := c.handleNotification_eq n
    rw [handleMessage, told, reading]
    exact ⟨rfl, Nat.zero_le _, rfl⟩
  | request q =>
    unfold handleMessage
    dsimp only
    cases answerRequest q <;> exact ⟨rfl, Nat.le_refl _, rfl⟩

private theorem stepReader?_turn {c c' : Connection} (step : c.stepReader? = some c') :
    ReaderTurn c c' (c.message? (.turn .reader)) (c.reply? (.turn .reader)) ∧ c'.inboxEnded = c.inboxEnded := by
  unfold stepReader? at step
  cases reader : c.reader with
  | reading =>
    have unput : c.reply? (.turn .reader) = none := reply?_of_free (by rw [reader]; rfl)
    rw [unput]
    rw [reader] at step
    dsimp only at step
    split at step
    · contradiction
    · next message rest next =>
      cases step
      have handled := handleMessage_handled { c with inbox := rest, reader := .reading } message
      obtain ⟨hand, due, serves⟩ := handleMessage_reader { c with inbox := rest, reader := .reading } rfl message
      rw [message?_of_reading reader next]
      exact ⟨.took message rest reader next handled.inbox hand due serves, handled.inboxEnded⟩
    all_goals
      next next =>
        cases step
        rw [message?_of_nothing reader (by rw [next]; nofun)]
        exact ⟨.failed reader (by rw [next]; nofun) (by rw [next]; nofun) rfl, rfl⟩
  | replyProbing method text =>
    have hand : c.reader.inHand? = some text := by rw [reader]; rfl
    rw [message?_of_busy (by rw [reader]; nofun), reply?_of_free (by rw [reader]; rfl)]
    rw [reader] at step
    dsimp only at step
    split at step
    · next closed =>
      cases step
      exact ⟨.refused text hand (.inl closed) rfl rfl, rfl⟩
    · cases step
      exact ⟨.admitted method text reader rfl rfl, rfl⟩
  | replySending method text =>
    have hand : c.reader.inHand? = some text := by rw [reader]; rfl
    rw [message?_of_busy (by rw [reader]; nofun), reply?_of_sending reader]
    rw [reader] at step
    dsimp only [enqueue?] at step
    by_cases ended : c.writer = .ended
    · rw [if_pos ended] at step ⊢
      cases step
      exact ⟨.refused text hand (.inr ended) rfl rfl, rfl⟩
    · rw [if_neg ended] at step ⊢
      cases step
      exact ⟨.replied method text reader rfl rfl, rfl⟩
  | failing =>
    rw [message?_of_busy (by rw [reader]; nofun), reply?_of_free (by rw [reader]; rfl)]
    rw [reader] at step
    cases step
    exact ⟨.ending (by rw [reader]; rfl) rfl, by dsimp only; split <;> rfl⟩
  | terminating =>
    rw [message?_of_busy (by rw [reader]; nofun), reply?_of_free (by rw [reader]; rfl)]
    rw [reader] at step
    cases step
    exact ⟨.ending (by rw [reader]; rfl) rfl, rfl⟩
  | closing =>
    rw [message?_of_busy (by rw [reader]; nofun), reply?_of_free (by rw [reader]; rfl)]
    rw [reader] at step
    dsimp only at step
    split at step <;> cases step <;> exact ⟨.ending (by rw [reader]; rfl) rfl, rfl⟩
  | marking =>
    rw [message?_of_busy (by rw [reader]; nofun), reply?_of_free (by rw [reader]; rfl)]
    rw [reader] at step
    dsimp only [enqueue?] at step
    by_cases ended : c.writer = .ended
    · rw [if_pos ended] at step
      cases step
      exact ⟨.ending (by rw [reader]; rfl) rfl, rfl⟩
    · rw [if_neg ended] at step
      cases step
      exact ⟨.ending (by rw [reader]; rfl) rfl, rfl⟩
  | cancelling =>
    rw [message?_of_busy (by rw [reader]; nofun), reply?_of_free (by rw [reader]; rfl)]
    rw [reader] at step
    dsimp only at step
    obtain ⟨log, drained⟩ := c.cancelPending_eq ErrorCode.serverTerminated
      (c.options.name ++ " language server terminated")
    rw [drained] at step
    cases step
    exact ⟨.ending (by rw [reader]; rfl) rfl, rfl⟩
  | ended =>
    rw [reader] at step
    contradiction
  | dead =>
    rw [reader] at step
    contradiction

private theorem message?_of_idle {c : Connection} (lost : c.stepReader? = none) :
    c.message? (.turn .reader) = none := by
  by_cases reading : c.reader = .reading
  · refine message?_of_nothing reading fun message rest next => ?_
    rw [stepReader?, reading] at lost
    dsimp only at lost
    rw [next] at lost
    contradiction
  · exact message?_of_busy reading

theorem reader_turn (c : Connection) :
    ReaderTurn c (c.move (.turn .reader)) (c.message? (.turn .reader)) (c.reply? (.turn .reader)) ∧
      (c.move (.turn .reader)).inboxEnded = c.inboxEnded := by
  have moved : c.move (.turn .reader) = c.stepReader?.getD c := rfl
  cases step : c.stepReader? with
  | none =>
    have free : c.reader.outbound? = none := outbound?_of_step (p := .reader) step
    rw [moved, step, message?_of_idle step, reply?_of_free (by rw [free]; rfl)]
    exact ⟨.idle step rfl, rfl⟩
  | some c' =>
    rw [moved, step]
    exact stepReader?_turn step

/-- Only its own turns take the reader on. -/
theorem move_reader {c : Connection} {m : Move} (other : m ≠ .turn .reader) :
    (c.move m).reader = c.reader ∧ (c.move m).inbox = c.inbox ++ c.arrival m ∧
      (c.inboxEnded = true → (c.move m).inboxEnded = true) := by
  have apart {c' : Connection} (apart : Apart c c') (none : c.arrival m = []) : c'.reader = c.reader ∧
      c'.inbox = c.inbox ++ c.arrival m ∧ (c.inboxEnded = true → c'.inboxEnded = true) := by
    rw [none, List.append_nil]
    exact ⟨apart.reader, apart.inbox, apart.inboxEnded.trans⟩
  cases m with
  | turn party =>
    have elsewhere : party ≠ .reader := fun own => other (congrArg Move.turn own)
    have nothing : c.arrival (.turn party) = [] := rfl
    exact apart (turn_apart elsewhere) nothing
  | receive bytes =>
    change (c.receive bytes).reader = _ ∧ (c.receive bytes).inbox = _ ∧ (_ → (c.receive bytes).inboxEnded = true)
    rw [arrival, receive]
    split
    · exact ⟨rfl, (List.append_nil _).symm, id⟩
    · exact ⟨rfl, rfl, id⟩
  | endInbox => exact ⟨rfl, (List.append_nil _).symm, fun _ => rfl⟩
  | begun | dropPeer | advance | process => exact ⟨rfl, (List.append_nil _).symm, id⟩

theorem silent_of_other {c : Connection} {m : Move} (other : m ≠ .turn .reader) :
    c.message? m = none ∧ c.reply? m = none := by
  cases m with
  | turn party =>
    cases party with
    | reader => exact absurd rfl other
    | writer | call | timer => exact ⟨rfl, rfl⟩
  | _ => exact ⟨rfl, rfl⟩

/-- All messages taken in have been replied to, but for a request whose reply the reader has in hand. -/
inductive Served (handled : List Message) (replies : List String) (c : Connection) : Prop
  | free (hand : c.reader.inHand? = none) (some : replies.Sublist (repliesTo handled))
      (all : ¬ CutOff c → replies = repliesTo handled) : Served handled replies c
  | holding (earlier : List Message) (q : Request) (last : handled = earlier ++ [.request q])
      (hand : c.reader.inHand? = .some (responseText (replyTo q))) (some : replies.Sublist (repliesTo earlier))
      (all : ¬ CutOff c → replies = repliesTo earlier) : Served handled replies c

namespace Served

variable {handled : List Message} {replies : List String} {c c' : Connection}

private theorem connect (options : ClientOptions) (grace : Nat) : Served [] [] (connect options grace) :=
  .free rfl (.refl _) fun _ => rfl

/-- A move that takes in no message and puts no reply into the queue. -/
theorem quiet (served : Served handled replies c) (cut : CutOff c → CutOff c')
    (hand : c'.reader.inHand? = c.reader.inHand?) :
    Served (handled ++ none.toList) (replies ++ none.toList) c' := by
  rw [Option.toList_none, List.append_nil, Option.toList_none, List.append_nil]
  cases served with
  | free none some all => exact .free (hand.trans none) some fun going => all (going ∘ cut)
  | holding earlier q last held some all =>
    exact .holding earlier q last (hand.trans held) some fun going => all (going ∘ cut)

private theorem took (served : Served handled replies c) (cut : CutOff c → CutOff c') {message : Message}
    (reading : c.reader = .reading)
    (hand : c'.reader.inHand? = message.request?.map fun q => responseText (replyTo q)) :
    Served (handled ++ (some message).toList) (replies ++ none.toList) c' := by
  rw [Option.toList_some, Option.toList_none, List.append_nil]
  cases served with
  | holding earlier q last held =>
    rw [reading] at held
    contradiction
  | free none some all =>
    cases isRequest : message.request? with
    | some q =>
      cases message with
      | request q' => exact .holding handled q' rfl hand some fun going => all (going ∘ cut)
      | response | notification => contradiction
    | none =>
      have same : repliesTo (handled ++ [message]) = repliesTo handled := by
        rw [repliesTo_append]
        simp [repliesTo, requestsOf, isRequest]
      rw [isRequest] at hand
      refine .free hand ?_ fun going => ?_
      · rw [same]
        exact some
      · rw [same]
        exact all (going ∘ cut)

private theorem refused (served : Served handled replies c) (lost : CutOff c') {text : String}
    (hand : c.reader.inHand? = some text) (reading : c'.reader = .reading) :
    Served (handled ++ none.toList) (replies ++ none.toList) c' := by
  rw [Option.toList_none, List.append_nil, Option.toList_none, List.append_nil]
  cases served with
  | free none =>
    rw [none] at hand
    contradiction
  | holding earlier q last held some all =>
    refine .free (by rw [reading]; rfl) ?_ fun going => absurd lost going
    rw [last, repliesTo_append]
    exact some.trans (List.sublist_append_left _ _)

private theorem replied (served : Served handled replies c) (cut : CutOff c → CutOff c') {method text : String}
    (sending : c.reader = .replySending method text) (reading : c'.reader = .reading) :
    Served (handled ++ none.toList) (replies ++ (some text).toList) c' := by
  rw [Option.toList_none, List.append_nil, Option.toList_some]
  cases served with
  | free none =>
    rw [sending] at none
    contradiction
  | holding earlier q last held some all =>
    rw [sending] at held
    cases held
    have one : repliesTo [.request q] = [responseText (replyTo q)] := rfl
    refine .free (by rw [reading]; rfl) ?_ fun going => ?_
    · rw [last, repliesTo_append, one]
      exact some.append (.refl _)
    · rw [last, repliesTo_append, one, all (going ∘ cut)]

private theorem move (served : Served handled replies c) (shutting : Shutting c) (m : Move) :
    Served (handled ++ (c.message? m).toList) (replies ++ (c.reply? m).toList) (c.move m) := by
  have cut : CutOff c → CutOff (c.move m) := fun cut => cut.move shutting.shutdowns m
  by_cases own : m = .turn .reader
  · subst own
    generalize c.message? (.turn .reader) = taken, c.reply? (.turn .reader) = put, c.reader_turn.1 = turn
    cases turn with
    | idle lost same => exact served.quiet cut (by rw [same])
    | took message rest reading next inbox hand => exact served.took cut reading hand
    | failed reading decided nothing gone =>
      refine served.quiet cut ?_
      rw [ReaderPhase.inHand?_of_gone gone, reading]
      rfl
    | refused text hand noWay reading inbox =>
      have serves := (ReaderPhase.due_of_inHand hand).2
      have lost : CutOff c := noWay.elim (.of_closed shutting serves) (.of_ended shutting serves)
      exact served.refused (cut lost) hand reading
    | admitted method text probing sending inbox => exact served.quiet cut (by rw [sending, probing]; rfl)
    | replied method text sending reading inbox => exact served.replied cut sending reading
    | ending gone gone' =>
      refine served.quiet cut ?_
      rw [ReaderPhase.inHand?_of_gone gone', ReaderPhase.inHand?_of_gone gone]
  · rw [(silent_of_other own).1, (silent_of_other own).2]
    exact served.quiet cut (congrArg ReaderPhase.inHand? (move_reader own).1)

end Served

theorem served_run (options : ClientOptions) (grace : Nat) (moves : List Move) :
    Served ((connect options grace).messages moves) ((connect options grace).replies moves)
      ((connect options grace).run moves) := by
  induction moves using List.reverseRecOn with
  | nil => exact .connect options grace
  | append_singleton moves m ih =>
    rw [messages, replies, gather_concat, gather_concat, run_concat]
    exact ih.move (shutting_run options grace moves) m

end Connection

end LanguageClient
