import LanguageClient.Proofs.Connection.Replies

/-! A server that asks. Of a stream of frames the reader takes in the messages one by one, as far as they
have arrived, whatever the pieces in which they come and whatever the calls do meanwhile; with three turns
for each message it has taken in all of them and replied to every request. -/
namespace LanguageClient

/-- Pieces of a stream, each with the message that it carries. -/
abbrev Frames := List (Frame.Bytes × Message)

namespace Frames

def bytes (frames : Frames) : Frame.Bytes := frames.flatMap Prod.fst

def messages (frames : Frames) : List Message := frames.map Prod.snd

private theorem bytes_append (first second : Frames) : bytes (first ++ second) = bytes first ++ bytes second :=
  List.flatMap_append

end Frames

namespace Connection

inductive Intake (frames : Frames) (arrived : Frame.Bytes) (handled : List Message) (c : Connection) : Prop
  | within (taken left : Frames) (split : frames = taken ++ left) (order : handled = taken.messages)
      (serves : c.reader.serves = true) (bytes : arrived = taken.bytes ++ c.inbox) : Intake frames arrived handled c
  | beyond (more : List Message) (order : handled = frames.messages ++ more) (whole : frames.bytes <+: arrived)
      (exact : arrived = frames.bytes → more = [] ∧ c.reader.serves = false) : Intake frames arrived handled c
  | short (order : handled <+: frames.messages) (gone : c.reader.serves = false)
      (incomplete : ¬ frames.bytes <+: arrived) (ended : c.inboxEnded = true) : Intake frames arrived handled c

/-- The next frame has arrived and its message is read, or it has not, and nothing is. -/
theorem nextMessage_of_left {piece inbox later stream : Frame.Bytes} {message : Message} (ended : Bool)
    (carries : Frame.Carries piece message) (begins : piece ++ later <+: stream) (sent : inbox <+: stream) :
    (∃ rest, inbox = piece ++ rest ∧ Frame.nextMessage ended inbox = .done (.ok message) rest) ∨
      (¬ piece <+: inbox ∧ Frame.nextMessage false inbox = .waiting) := by
  have start : piece <+: stream := (List.prefix_append _ _).trans begins
  by_cases whole : piece <+: inbox
  · obtain ⟨rest, rfl⟩ := whole
    exact .inl ⟨rest, rfl, carries.read ended rest⟩
  · obtain ⟨rest, rfl⟩ := (List.prefix_or_prefix_of_prefix start sent).resolve_left whole
    refine .inr ⟨whole, carries.waits ?_⟩
    rintro rfl
    rw [List.append_nil] at whole
    exact whole (List.prefix_refl _)

namespace Intake

variable {frames : Frames} {arrived stream : Frame.Bytes} {handled : List Message} {c : Connection}

private theorem connect (options : ClientOptions) (grace : Nat) (frames : Frames) :
    Intake frames [] [] (connect options grace) :=
  .within [] frames rfl rfl rfl rfl

/-- What the next message of the reader is while frames are left. -/
theorem next_of_left {taken rest : Frames} {piece : Frame.Bytes} {message : Message} {inbox : Frame.Bytes}
    (ended : Bool) (carries : Frame.Carries piece message)
    (begins : Frames.bytes (taken ++ (piece, message) :: rest) <+: stream)
    (sent : Frames.bytes taken ++ inbox <+: stream) :
    (∃ left, inbox = piece ++ left ∧ Frame.nextMessage ended inbox = .done (.ok message) left) ∨
      (¬ Frames.bytes (taken ++ (piece, message) :: rest) <+: Frames.bytes taken ++ inbox ∧
        Frame.nextMessage false inbox = .waiting) := by
  rw [Frames.bytes_append] at begins ⊢
  obtain ⟨later, rfl⟩ : ∃ later, stream = Frames.bytes taken ++ later := by
    obtain ⟨later, rfl⟩ := (List.prefix_append _ _).trans begins
    exact ⟨later, rfl⟩
  have begins' : piece ++ Frames.bytes rest <+: later := (List.prefix_append_right_inj _).1 begins
  have sent' := (List.prefix_append_right_inj _).1 sent
  rcases nextMessage_of_left ended carries begins' sent' with read | ⟨part, waits⟩
  · exact .inl read
  · refine .inr ⟨fun whole => part ?_, waits⟩
    exact (List.prefix_append _ _).trans ((List.prefix_append_right_inj _).1 whole)

/-- A move that takes in no message and leaves the reader at what it does. -/
theorem quiet {c' : Connection} (intake : Intake frames arrived handled c) (bytes : Frame.Bytes)
    (serves : c'.reader.serves = c.reader.serves) (inbox : c.reader.serves = true → c'.inbox = c.inbox ++ bytes)
    (ended : c.inboxEnded = true → bytes = [] ∧ c'.inboxEnded = true) :
    Intake frames (arrived ++ bytes) (handled ++ none.toList) c' := by
  rw [Option.toList_none, List.append_nil]
  cases intake with
  | within taken left split order serving arrived =>
    refine .within taken left split order (serves.trans serving) ?_
    rw [arrived, inbox serving, List.append_assoc]
  | beyond more order whole exact =>
    refine .beyond more order (whole.trans (List.prefix_append _ _)) fun same => ?_
    have all : arrived = frames.bytes := by
      have back : arrived <+: frames.bytes := by
        rw [← same]
        exact List.prefix_append _ _
      exact back.eq_of_length (Nat.le_antisymm back.length_le whole.length_le)
    rw [serves]
    exact exact all
  | short order gone incomplete past =>
    obtain ⟨rfl, past'⟩ := ended past
    rw [List.append_nil]
    exact .short order (serves.trans gone) incomplete past'

private theorem took {c' : Connection} (intake : Intake frames arrived handled c)
    (formed : ∀ frame ∈ frames, Frame.Carries frame.1 frame.2) (begins : frames.bytes <+: stream)
    (sent : arrived <+: stream) {message : Message} {rest : Frame.Bytes} (reading : c.reader = .reading)
    (next : Frame.nextMessage c.inboxEnded c.inbox = .done (.ok message) rest) (inbox : c'.inbox = rest)
    (serves : c'.reader.serves = true) : Intake frames arrived (handled ++ (some message).toList) c' := by
  cases intake with
  | within taken left split order _ bytes =>
    cases left with
    | nil =>
      -- Nothing is left of the frames, so the message comes from bytes behind them.
      rw [List.append_nil] at split
      subst split
      refine .beyond [message] (by rw [order]; rfl) (by rw [bytes]; exact List.prefix_append _ _) fun same => ?_
      have empty : c.inbox = [] := by
        rw [bytes] at same
        exact List.append_right_eq_self.1 same
      rw [empty] at next
      cases ended : c.inboxEnded <;> rw [ended] at next <;> cases next
    | cons frame left =>
      obtain ⟨piece, expected⟩ := frame
      have carries := formed (piece, expected) (by rw [split]; simp)
      rw [split] at begins
      rw [bytes] at sent
      rcases next_of_left c.inboxEnded carries begins sent with ⟨later, start, read⟩ | ⟨_, waits⟩
      · cases read.symm.trans next
        refine .within (taken ++ [(piece, expected)]) left (by simp [split]) ?_ serves ?_
        · rw [order]
          simp [Frames.messages]
        · rw [bytes, start, inbox]
          simp [Frames.bytes]
      · cases ended : c.inboxEnded with
        | false =>
          rw [ended, waits] at next
          contradiction
        | true =>
          rw [ended] at next
          exact absurd next (Frame.nextMessage_ended waits message rest)
  | beyond more order whole exact =>
    refine .beyond (more ++ [message]) (by rw [order, List.append_assoc]; rfl) whole fun same => ?_
    have gone := (exact same).2
    rw [reading] at gone
    contradiction
  | short order gone =>
    rw [reading] at gone
    contradiction

private theorem failed {c' : Connection} (intake : Intake frames arrived handled c)
    (formed : ∀ frame ∈ frames, Frame.Carries frame.1 frame.2) (begins : frames.bytes <+: stream)
    (sent : arrived <+: stream) (reading : c.reader = .reading)
    (decided : Frame.nextMessage c.inboxEnded c.inbox ≠ .waiting)
    (nothing : ∀ message rest, Frame.nextMessage c.inboxEnded c.inbox ≠ .done (.ok message) rest)
    (gone : c'.reader.serves = false) (ended : c'.inboxEnded = c.inboxEnded) :
    Intake frames arrived (handled ++ none.toList) c' := by
  rw [Option.toList_none, List.append_nil]
  cases intake with
  | within taken left split order _ bytes =>
    cases left with
    | nil =>
      rw [List.append_nil] at split
      subst split
      exact .beyond [] (by rw [order, List.append_nil]) (by rw [bytes]; exact List.prefix_append _ _)
        fun _ => ⟨rfl, gone⟩
    | cons frame left =>
      obtain ⟨piece, expected⟩ := frame
      have carries := formed (piece, expected) (by rw [split]; simp)
      rw [split] at begins
      rw [bytes] at sent
      rcases next_of_left c.inboxEnded carries begins sent with ⟨later, _, read⟩ | ⟨incomplete, waits⟩
      · exact absurd read (nothing expected later)
      · -- A frame that has begun is only given up when the stream has ended inside it.
        have past : c.inboxEnded = true := by
          cases ended : c.inboxEnded with
          | true => rfl
          | false =>
            rw [ended] at decided
            exact absurd waits decided
        refine .short ?_ gone (by rw [split, bytes]; exact incomplete) (ended.trans past)
        rw [order, split, Frames.messages, Frames.messages, List.map_append]
        exact List.prefix_append _ _
  | beyond more order whole exact =>
    refine .beyond more order whole fun same => ?_
    have before := (exact same).2
    rw [reading] at before
    contradiction
  | short order before =>
    rw [reading] at before
    contradiction

private theorem move (intake : Intake frames arrived handled c)
    (formed : ∀ frame ∈ frames, Frame.Carries frame.1 frame.2) (begins : frames.bytes <+: stream) (m : Move)
    (sent : arrived ++ c.arrival m <+: stream) :
    Intake frames (arrived ++ c.arrival m) (handled ++ (c.message? m).toList) (c.move m) := by
  by_cases own : m = .turn .reader
  · subst own
    have none : c.arrival (.turn .reader) = [] := rfl
    obtain ⟨turn, ended⟩ := c.reader_turn
    have still (serves : (c.move (.turn .reader)).reader.serves = c.reader.serves)
        (inbox : c.reader.serves = true → (c.move (.turn .reader)).inbox = c.inbox) :
        Intake frames (arrived ++ c.arrival (.turn .reader)) (handled ++ Option.none.toList)
          (c.move (.turn .reader)) := by
      refine intake.quiet _ serves (fun serving => ?_) fun past => ⟨none, ended.trans past⟩
      rw [inbox serving, none, List.append_nil]
    rw [none, List.append_nil] at sent
    generalize c.message? (.turn .reader) = taken, c.reply? (.turn .reader) = put at turn
    cases turn with
    | idle lost same => exact still (by rw [same]) fun _ => by rw [same]
    | took message rest reading next inbox hand due serves =>
      rw [none, List.append_nil]
      exact intake.took formed begins sent reading next inbox serves
    | failed reading decided nothing gone =>
      rw [none, List.append_nil]
      exact intake.failed formed begins sent reading decided nothing gone ended
    | refused text hand noWay reading inbox =>
      refine still ?_ fun _ => inbox
      rw [(ReaderPhase.due_of_inHand hand).2, reading]
      rfl
    | admitted method text probing sending inbox => exact still (by rw [sending, probing]; rfl) fun _ => inbox
    | replied method text sending reading inbox => exact still (by rw [sending, reading]; rfl) fun _ => inbox
    | ending gone gone' =>
      refine still (gone'.trans gone.symm) fun serves => ?_
      rw [gone] at serves
      contradiction
  · obtain ⟨reader, inbox, ended⟩ := move_reader own
    rw [(silent_of_other own).1]
    refine intake.quiet _ (congrArg ReaderPhase.serves reader) (fun _ => inbox) fun past => ⟨?_, ended past⟩
    cases m with
    | receive bytes => rw [arrival, if_pos past]
    | _ => rfl

/-- Where all frames have arrived, the reader has taken in their messages before it has nothing to read. -/
theorem all_taken (intake : Intake frames arrived handled c)
    (formed : ∀ frame ∈ frames, Frame.Carries frame.1 frame.2) (whole : frames.bytes <+: arrived)
    (past : c.reader.serves = true →
      ∀ message rest, Frame.nextMessage c.inboxEnded c.inbox ≠ .done (.ok message) rest) :
    frames.messages <+: handled := by
  cases intake with
  | within taken left split order serves bytes =>
    cases left with
    | nil =>
      rewrite [order, split, List.append_nil]
      exact List.prefix_refl _
    | cons frame left =>
      obtain ⟨piece, message⟩ := frame
      have carries := formed (piece, message) (by rw [split]; simp)
      rw [split] at whole
      have sent : taken.bytes ++ c.inbox <+: arrived := by
        rewrite [bytes]
        exact List.prefix_refl _
      rcases next_of_left c.inboxEnded carries whole sent with ⟨rest, _, read⟩ | ⟨incomplete, _⟩
      · exact absurd read (past serves message rest)
      · rw [bytes] at whole
        exact absurd whole incomplete
  | beyond more order =>
    rw [order]
    exact List.prefix_append _ _
  | short order gone incomplete => exact absurd whole incomplete

private theorem order (intake : Intake frames arrived handled c) :
    handled <+: frames.messages ∨ frames.messages <+: handled := by
  cases intake with
  | within taken left split order =>
    refine .inl ?_
    rw [order, split, Frames.messages, Frames.messages, List.map_append]
    exact List.prefix_append _ _
  | beyond more order =>
    refine .inr ?_
    rw [order]
    exact List.prefix_append _ _
  | short order => exact .inl order

/-- From the bytes of the frames alone come no other messages. -/
theorem only (intake : Intake frames arrived handled c) (within : arrived <+: frames.bytes) :
    handled <+: frames.messages := by
  cases intake with
  | within taken left split order =>
    rw [order, split, Frames.messages, Frames.messages, List.map_append]
    exact List.prefix_append _ _
  | beyond more order whole exact =>
    have all := within.eq_of_length (Nat.le_antisymm within.length_le whole.length_le)
    rewrite [order, (exact all).1, List.append_nil]
    exact List.prefix_refl _
  | short order => exact order

end Intake

private theorem intake_run (options : ClientOptions) (grace : Nat) (moves : List Move) {frames : Frames}
    {stream : Frame.Bytes} (formed : ∀ frame ∈ frames, Frame.Carries frame.1 frame.2)
    (begins : frames.bytes <+: stream) (sent : (connect options grace).arrived moves <+: stream) :
    Intake frames ((connect options grace).arrived moves) ((connect options grace).messages moves)
      ((connect options grace).run moves) := by
  induction moves using List.reverseRecOn with
  | nil => exact .connect options grace frames
  | append_singleton moves m ih =>
    rw [arrived, gather_concat] at sent ⊢
    rw [messages, gather_concat, run_concat]
    have before := ih ((List.prefix_append _ _).trans sent)
    exact before.move formed begins m sent

private theorem idle_over {c : Connection} (lost : c.stepReader? = none) :
    c.reader.inHand? = none ∧ (c.reader.serves = true →
      ∀ message rest, Frame.nextMessage c.inboxEnded c.inbox ≠ .done (.ok message) rest) := by
  unfold stepReader? at lost
  cases reader : c.reader with
  | reading =>
    refine ⟨rfl, fun _ message rest next => ?_⟩
    rw [reader] at lost
    dsimp only at lost
    rw [next] at lost
    contradiction
  | replyProbing method text =>
    rw [reader] at lost
    dsimp only at lost
    split at lost <;> contradiction
  | replySending method text =>
    rw [reader] at lost
    dsimp only [enqueue?] at lost
    split at lost <;> contradiction
  | _ => exact ⟨rfl, nofun⟩

/-- The turns that the reader needs until it has replied to the requests among the messages of the frames. -/
def behind (frames : Frames) (handled : List Message) (reader : ReaderPhase) : Nat :=
  3 * (frames.length - handled.length) + if handled.length ≤ frames.length then reader.due else 0

private theorem behind_of_all {frames : Frames} {handled : List Message} {reader : ReaderPhase}
    (all : frames.messages <+: handled) (none : reader.due = 0) : behind frames handled reader = 0 := by
  have enough := all.length_le
  rw [Frames.messages, List.length_map] at enough
  unfold behind
  rw [none]
  split <;> omega

private theorem ReaderTurn.behind_lt {c c' : Connection} {taken : Option Message} {put : Option String}
    {frames : Frames}
    {arrived : Frame.Bytes} {handled : List Message} (turn : ReaderTurn c c' taken put)
    (intake : Intake frames arrived handled c) (formed : ∀ frame ∈ frames, Frame.Carries frame.1 frame.2)
    (whole : frames.bytes <+: arrived) :
    behind frames (handled ++ taken.toList) c'.reader ≤ behind frames handled c.reader - 1 := by
  have zero {reader : ReaderPhase} (idle : reader.due = 0)
      (past : c.reader.serves = true →
        ∀ message rest, Frame.nextMessage c.inboxEnded c.inbox ≠ .done (.ok message) rest) :
      behind frames (handled ++ none.toList) reader ≤ behind frames handled c.reader - 1 := by
    rw [Option.toList_none, List.append_nil, behind_of_all (intake.all_taken formed whole past) idle]
    exact Nat.zero_le _
  have not_due {reader : ReaderPhase} (gone : reader.serves = false) : reader.due = 0 :=
    ReaderPhase.due_of_free (ReaderPhase.inHand?_of_gone gone)
  cases turn with
  | idle lost same =>
    obtain ⟨free, past⟩ := idle_over lost
    rw [same]
    exact zero (ReaderPhase.due_of_free free) past
  | took message rest reading next inbox hand due serves =>
    unfold behind
    rw [reading, Option.toList_some, List.length_append, List.length_singleton]
    have idle : ReaderPhase.reading.due = 0 := rfl
    rw [idle]
    split <;> split <;> omega
  | failed reading decided nothing gone => exact zero (not_due gone) fun _ => nothing
  | refused text hand noWay reading inbox =>
    have due := (ReaderPhase.due_of_inHand hand).1
    have idle : c'.reader.due = 0 := by rw [reading]; rfl
    unfold behind
    rw [idle, Option.toList_none, List.append_nil]
    split <;> omega
  | admitted method text probing sending inbox =>
    unfold behind
    rw [probing, sending, Option.toList_none, List.append_nil]
    have before : (ReaderPhase.replyProbing method text).due = 2 := rfl
    have after : (ReaderPhase.replySending method text).due = 1 := rfl
    rw [before, after]
    split <;> omega
  | replied method text sending reading inbox =>
    unfold behind
    rw [sending, reading, Option.toList_none, List.append_nil]
    have before : (ReaderPhase.replySending method text).due = 1 := rfl
    have after : ReaderPhase.reading.due = 0 := rfl
    rw [before, after]
    split <;> omega
  | ending gone gone' =>
    refine zero (not_due gone') fun serves => ?_
    rw [gone] at serves
    contradiction

private theorem Served.behind_le {handled : List Message} {replies : List String} {c : Connection}
    (served : Served handled replies c) (frames : Frames) : behind frames handled c.reader ≤ 3 * frames.length := by
  have due : c.reader.due ≤ 2 := by
    cases c.reader <;> simp [ReaderPhase.due]
  unfold behind
  cases served with
  | free none =>
    rw [ReaderPhase.due_of_free none]
    split <;> omega
  | holding earlier q last =>
    have some : 0 < handled.length := by simp [last]
    split <;> omega

/-- Every turn of the reader brings it nearer to the end of frames that have arrived. -/
theorem behind_run (options : ClientOptions) (grace : Nat) (before after : List Move) {frames : Frames}
    {stream : Frame.Bytes} (formed : ∀ frame ∈ frames, Frame.Carries frame.1 frame.2)
    (begins : frames.bytes <+: stream) (sent : (connect options grace).arrived (before ++ after) <+: stream)
    (whole : frames.bytes <+: (connect options grace).arrived before) :
    behind frames ((connect options grace).messages (before ++ after))
        ((connect options grace).run (before ++ after)).reader ≤
      behind frames ((connect options grace).messages before) ((connect options grace).run before).reader -
        after.countP Move.isReading := by
  induction after using List.reverseRecOn with
  | nil =>
    rw [List.append_nil]
    exact Nat.le_refl _
  | append_singleton after m ih =>
    rw [← List.append_assoc] at sent ⊢
    rw [arrived, gather_concat] at sent
    have sent' := (List.prefix_append _ _).trans sent
    have earlier := ih sent'
    have intake := intake_run options grace (before ++ after) formed begins sent'
    have still : frames.bytes <+: (connect options grace).arrived (before ++ after) := by
      rw [arrived, gather_append]
      exact whole.trans (List.prefix_append _ _)
    rw [messages, gather_concat, run_concat, List.countP_append, List.countP_singleton]
    by_cases own : m = .turn .reader
    · subst own
      have nearer := (reader_turn _).1.behind_lt intake formed still
      have reads : (Move.turn .reader).isReading = true := rfl
      rw [if_pos reads, ← messages]
      omega
    · have silent := (silent_of_other (c := (connect options grace).run (before ++ after)) own).1
      have notReading : ¬ m.isReading = true := fun reading => own (Move.isReading_iff.1 reading)
      rw [silent, Option.toList_none, List.append_nil, (move_reader own).1, if_neg notReading]
      exact earlier

def Replies (messages : List Message) (texts : List String) : Prop :=
  ∃ responses, List.Forall₂ Answers (requestsOf messages) responses ∧ texts = responses.map responseText

private theorem replies_repliesTo (messages : List Message) : Replies messages (repliesTo messages) := by
  obtain ⟨responses, answers, texts⟩ := forall₂_repliesTo messages
  exact ⟨responses, answers, texts.symm⟩

/-- What the reader has taken in of a stream that begins with these frames, and what it has replied, after
a run of these moves. -/
structure Conversed (frames : Frames) (start : Connection) (moves : List Move) : Prop where
  order : start.messages moves <+: frames.messages ∨ frames.messages <+: start.messages moves
  /-- Where the server sends nothing else, nothing else is taken in. -/
  only : start.arrived moves <+: frames.bytes → start.messages moves <+: frames.messages
  /-- There are no other replies than to the requests that were taken in, none comes twice or before its
  turn, and unless the way out is cut off none is missing but the one in the reader's hand. -/
  replies : ∃ handled hand texts, start.messages moves = handled ++ hand ∧ Replies handled texts ∧
    (start.replies moves).Sublist texts ∧ (¬ CutOff (start.run moves) → start.replies moves = texts) ∧
    (hand = [] ∨ ∃ q text, hand = [.request q] ∧ Replies hand [text] ∧
      (start.run moves).reader.inHand? = some text)
  /-- When all frames have arrived and the reader cannot go on, every request among their messages has
  its reply. -/
  complete : frames.bytes <+: start.arrived moves → (start.run moves).step? .reader = none →
    ¬ CutOff (start.run moves) → ∃ texts, Replies frames.messages texts ∧ texts <+: start.replies moves ∧
      (start.arrived moves = frames.bytes → start.replies moves = texts)
  /-- So it has after three turns of the reader for each message. -/
  prompt : ∀ before after, moves = before ++ after → frames.bytes <+: start.arrived before →
    3 * frames.length ≤ after.countP Move.isReading → ¬ CutOff (start.run moves) →
      ∃ texts, Replies frames.messages texts ∧ texts <+: start.replies moves ∧
        (start.arrived moves = frames.bytes → start.replies moves = texts)
  /-- A reply is put into the queue behind all that is there. -/
  placed : ∀ m text, (start.run moves).reply? m = some text →
    ((start.run moves).move m).queue = (start.run moves).queue ++ [.message text]

private theorem reply?_queue {c : Connection} {m : Move} {text : String} (reply : c.reply? m = some text) :
    (c.move m).queue = c.queue ++ [.message text] := by
  by_cases own : m = .turn .reader
  · subst own
    obtain ⟨entry, put, message⟩ := Option.bind_eq_some_iff.1 reply
    cases entry with
    | message other =>
      cases message
      exact put?_queue put
    | close => contradiction
  · rw [(silent_of_other own).2] at reply
    contradiction

/-- Messages that were taken in before the reply in the reader's hand have their replies. -/
theorem Served.covers {handled messages : List Message} {replies : List String} {c : Connection}
    (served : Served handled replies c) (going : ¬ CutOff c) (first : messages <+: handled)
    (free : handled.length ≤ messages.length → c.reader.inHand? = none) :
    repliesTo messages <+: replies ∧ (handled <+: messages → replies = repliesTo messages) := by
  cases served with
  | free none some all =>
    rw [all going]
    refine ⟨?_, fun back => ?_⟩
    · obtain ⟨later, rfl⟩ := first
      rw [repliesTo_append]
      exact List.prefix_append _ _
    · rw [back.eq_of_length (Nat.le_antisymm back.length_le first.length_le)]
  | holding earlier q last held some all =>
    have less : messages.length ≤ earlier.length := by
      have le := first.length_le
      rw [last, List.length_append, List.length_singleton] at le
      by_contra more
      have none := free (by rw [last, List.length_append, List.length_singleton]; omega)
      rw [none] at held
      contradiction
    rw [last] at first
    rw [all going]
    refine ⟨?_, fun back => ?_⟩
    · obtain ⟨later, rfl⟩ := List.prefix_of_prefix_length_le first (List.prefix_append _ _) less
      rw [repliesTo_append]
      exact List.prefix_append _ _
    · have le := back.length_le
      rw [last, List.length_append, List.length_singleton] at le
      omega

/-- Whatever else happens, a server whose messages have arrived is replied to: each request once, in the
order of the requests, with its own id and with the answer that its method asks for. -/
theorem run_conversed (options : ClientOptions) (grace : Nat) (moves : List Move) (frames : Frames)
    (stream : Frame.Bytes) (formed : ∀ frame ∈ frames, Frame.Carries frame.1 frame.2)
    (begins : frames.bytes <+: stream) (sent : (connect options grace).arrived moves <+: stream) :
    Conversed frames (connect options grace) moves := by
  have intake := intake_run options grace moves formed begins sent
  have served := served_run options grace moves
  have conclude (going : ¬ CutOff ((connect options grace).run moves))
      (all : frames.messages <+: (connect options grace).messages moves)
      (free : ((connect options grace).messages moves).length ≤ frames.messages.length →
        ((connect options grace).run moves).reader.inHand? = none) :
      ∃ texts, Replies frames.messages texts ∧ texts <+: (connect options grace).replies moves ∧
        ((connect options grace).arrived moves = frames.bytes → (connect options grace).replies moves = texts) := by
    obtain ⟨covered, exact⟩ := served.covers going all free
    refine ⟨_, replies_repliesTo frames.messages, covered, fun same => exact (intake.only ?_)⟩
    rewrite [same]
    exact List.prefix_refl _
  exact {
    order := intake.order
    only := intake.only
    replies := by
      cases served with
      | free none some all => exact ⟨_, [], _, (List.append_nil _).symm, replies_repliesTo _, some, all, .inl rfl⟩
      | holding earlier q last held some all =>
        exact ⟨earlier, _, _, last, replies_repliesTo _, some, all,
          .inr ⟨q, _, rfl, replies_repliesTo [.request q], held⟩⟩
    complete := by
      intro whole lost going
      obtain ⟨free, past⟩ := idle_over lost
      exact conclude going (intake.all_taken formed whole past) fun _ => free
    prompt := by
      rintro before after rfl whole turns going
      have left := behind_run options grace before after formed begins sent whole
      have start := (served_run options grace before).behind_le frames
      have done : behind frames ((connect options grace).messages (before ++ after))
          ((connect options grace).run (before ++ after)).reader = 0 := by omega
      unfold behind at done
      have enough : frames.messages.length ≤ ((connect options grace).messages (before ++ after)).length := by
        rw [Frames.messages, List.length_map]
        omega
      have all : frames.messages <+: (connect options grace).messages (before ++ after) := by
        rcases intake.order with some | all
        · rewrite [some.eq_of_length (Nat.le_antisymm some.length_le enough)]
          exact List.prefix_refl _
        · exact all
      refine conclude going all fun few => ReaderPhase.inHand?_of_not_due ?_
      rw [Frames.messages, List.length_map] at few
      rw [if_pos few] at done
      omega
    placed := fun m text => reply?_queue }

def inquiry : Frames :=
  [.request ⟨"2.0", .number 7, "workspace/configuration", some (.object [("items", .array [.null, .null])])⟩,
    .notification (.new "idle" none)].map fun message : Message => (Frame.encode message.text, message)

def inquiring : List Move :=
  [.receive (inquiry.bytes.take 30), .turn .reader, .receive (inquiry.bytes.drop 30)]

theorem run_conversed_inquiry :
    inquiry.bytes <+: (connect ⟨"lean4", "Lean 4", [], none⟩ 5000).arrived inquiring ∧
    ∃ texts, Replies inquiry.messages texts ∧ texts.length = 1 ∧
      (connect ⟨"lean4", "Lean 4", [], none⟩ 5000).replies
        (inquiring ++ List.replicate 6 (.turn .reader)) = texts := by
  let start := connect ⟨"lean4", "Lean 4", [], none⟩ 5000
  let moves := inquiring ++ List.replicate 6 (.turn .reader)
  have formed : ∀ frame ∈ inquiry, Frame.nextMessage false frame.1 = .done (.ok frame.2) [] := by decide +kernel
  have bytes : start.arrived inquiring = inquiry.bytes ∧ start.arrived moves = inquiry.bytes := by decide +kernel
  have idle : (start.run moves).calls.length = 0 ∧ (start.run moves).writer = .ready := by decide +kernel
  have going : ¬ CutOff (start.run moves) := by
    rintro (⟨i, k, found, _⟩ | ⟨ended, _⟩)
    · have inRange := (List.getElem?_eq_some_iff.1 found).1
      omega
    · rw [idle.2] at ended
      contradiction
  have conversed := run_conversed ⟨"lean4", "Lean 4", [], none⟩ 5000 moves inquiry inquiry.bytes formed
    (List.prefix_refl _) (by rewrite [bytes.2]; exact List.prefix_refl _)
  obtain ⟨texts, replies, _, exact⟩ := conversed.prompt inquiring _ rfl
    (by rewrite [bytes.1]; exact List.prefix_refl _) (by decide) going
  obtain ⟨responses, answers, rfl⟩ := replies
  have one : (responses.map responseText).length = 1 := by
    rw [List.length_map, ← answers.length_eq]
    rfl
  exact ⟨by rewrite [bytes.1]; exact List.prefix_refl _, _, ⟨responses, answers, rfl⟩, one, exact bytes.2⟩

end Connection

end LanguageClient
