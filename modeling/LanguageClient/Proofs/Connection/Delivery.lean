import LanguageClient.Proofs.Connection.Closed

/-! What is written to the server. Where looking at the queue and putting an entry into it are one step,
the closing mark is the last entry of the queue, so the wire carries all messages that were taken, each
once and in their order, and then the stream ends. -/
namespace LanguageClient.Connection

def stride (c : Connection) : Move → Connection
  | .turn p =>
    if ((c.move (.turn p)).outbound? p).isSome then (c.move (.turn p)).move (.turn p) else c.move (.turn p)
  | m => c.move m

def strides (c : Connection) (moves : List Move) : Connection := moves.foldl stride c

def taken (c : Connection) : Move → List String
  | .turn p =>
    match (c.move (.turn p)).outbound? p with
    | some (.message text) => if ((c.move (.turn p)).enqueue? (.message text)).isSome then [text] else []
    | _ => []
  | _ => []

/-- The messages that are put into the queue on the way, in their order. -/
def accepted (c : Connection) : List Move → List String
  | [] => []
  | m :: rest => c.taken m ++ (c.stride m).accepted rest

private theorem stride_cases (c : Connection) (m : Move) :
    c.stride m = c.move m ∨ c.stride m = (c.move m).move m := by
  unfold stride
  split
  · split
    · exact .inr rfl
    · exact .inl rfl
  · exact .inl rfl

/-- Undivided steps are steps. -/
theorem strides_run (c : Connection) (moves : List Move) : ∃ steps, c.strides moves = c.run steps := by
  induction moves generalizing c with
  | nil => exact ⟨[], rfl⟩
  | cons m rest ih =>
    obtain ⟨more, later⟩ := ih (c.stride m)
    have whole : c.strides (m :: rest) = (c.stride m).run more := later
    rcases c.stride_cases m with once | twice
    · exact ⟨m :: more, by rw [whole, once]; rfl⟩
    · exact ⟨m :: m :: more, by rw [whole, twice]; rfl⟩

private theorem stride_of_free {c : Connection} {m : Move}
    (free : ∀ p, m = .turn p → (c.move m).outbound? p = none) :
    c.stride m = c.move m ∧ c.taken m = [] := by
  cases m with
  | turn p =>
    have none := free p rfl
    unfold stride taken
    simp [none]
  | begun | receive | endInbox | dropPeer | advance | process => exact ⟨rfl, rfl⟩

private theorem stride_of_message {c : Connection} {p : Party} {text : String}
    (own : (c.move (.turn p)).outbound? p = some (.message text)) (going : (c.move (.turn p)).writer ≠ .ended) :
    c.stride (.turn p) = (c.move (.turn p)).move (.turn p) ∧ c.taken (.turn p) = [text] := by
  unfold stride taken
  simp [own, enqueue?, going]

/-- Whoever has an entry puts it into the queue in its next turn. -/
theorem put_turn {c : Connection} {p : Party} {entry : Outbound} (had : c.outbound? p = some entry) :
    (c.move (.turn p)).outlet = c.outlet.put entry ∧ (c.move (.turn p)).outbound? p = none ∧
      ∀ q, q ≠ p → (c.move (.turn p)).outbound? q = c.outbound? q := by
  cases c.move_flow (.turn p) with
  | put _ other had' outlet own others =>
    cases had.symm.trans had'
    exact ⟨outlet, own, others⟩
  | still _ free => simp [free p rfl] at had
  | looked _ text free | shut _ free => simp [free] at had
  | wrote | failed | took | stopped => contradiction

inductive Stage (accepted : List String) : Outlet → Prop
  | running (wire rest : List String) (order : accepted = wire ++ rest) :
      Stage accepted ⟨rest.map .message, wire, .ready, false, true⟩
  | closing (wire rest : List String) (order : accepted = wire ++ rest) :
      Stage accepted ⟨rest.map .message ++ [.close], wire, .ready, true, true⟩
  | complete (wire : List String) (writer : WriterPhase) (done : writer ≠ .ready) (order : accepted = wire) :
      Stage accepted ⟨[], wire, writer, true, true⟩

namespace Stage

variable {accepted : List String} {o : Outlet} {text : String} {rest : List Outbound}

private theorem put (stage : Stage accepted o) (isOpen : o.closed = false) :
    Stage (accepted ++ [text]) (o.put (.message text)) := by
  cases stage with
  | running wire rest order =>
    have more : accepted ++ [text] = wire ++ (rest ++ [text]) := by rw [order, List.append_assoc]
    have put := running wire (rest ++ [text]) more
    rw [List.map_append] at put
    exact put
  | closing | complete => contradiction

private theorem shut (stage : Stage accepted o) (isOpen : o.closed = false) :
    Stage accepted (Outlet.put { o with closed := true } .close) := by
  cases stage with
  | running wire rest order => exact closing wire rest order
  | closing | complete => contradiction

private theorem wrote (stage : Stage accepted o) (ready : o.writer = .ready)
    (queue : o.queue = .message text :: rest) :
    Stage accepted { o with queue := rest, wire := o.wire ++ [text] } := by
  cases stage with
  | running wire texts order =>
    cases texts with
    | nil => cases queue
    | cons first texts =>
      cases queue
      exact running (wire ++ [text]) texts (by rw [order, List.append_assoc]; rfl)
  | closing wire texts order =>
    cases texts with
    | nil => cases queue
    | cons first texts =>
      cases queue
      exact closing (wire ++ [text]) texts (by rw [order, List.append_assoc]; rfl)
  | complete => contradiction

private theorem took (stage : Stage accepted o) (ready : o.writer = .ready) (queue : o.queue = .close :: rest) :
    Stage accepted { o with queue := rest, writer := .finishing } := by
  cases stage with
  | running wire texts order => cases texts <;> cases queue
  | closing wire texts order =>
    cases texts with
    | nil =>
      cases queue
      exact complete wire .finishing nofun (order.trans (List.append_nil wire))
    | cons first texts => cases queue
  | complete => contradiction

private theorem stopped (stage : Stage accepted o) (finishing : o.writer = .finishing) :
    Stage accepted { o with queue := [], writer := .ended } := by
  cases stage with
  | running | closing => contradiction
  | complete wire writer done order => exact complete wire .ended nofun order

private theorem going (stage : Stage accepted o) (isOpen : o.closed = false) : o.writer ≠ .ended := by
  cases stage with
  | running => nofun
  | closing | complete => contradiction

private theorem reads (stage : Stage accepted o) : o.peerReads = true := by
  cases stage <;> rfl

end Stage

structure Paced (accepted : List String) (c : Connection) : Prop where
  free : ∀ p, c.outbound? p = none
  stage : Stage accepted c.outlet

private theorem Paced.connect (options : ClientOptions) (grace : Nat) : Paced [] (connect options grace) where
  free p := by cases p <;> rfl
  stage := .running [] [] rfl

private theorem Paced.stride {accepted : List String} {c : Connection} (paced : Paced accepted c) {m : Move}
    (reads : m ≠ .dropPeer) : Paced (accepted ++ c.taken m) (c.stride m) := by
  have alone (entries : ∀ p, (c.move m).outbound? p = c.outbound? p) (stage : Stage accepted (c.move m).outlet) :
      Paced (accepted ++ c.taken m) (c.stride m) := by
    have free p : (c.move m).outbound? p = none := (entries p).trans (paced.free p)
    obtain ⟨moved, nothing⟩ := stride_of_free fun p _ => free p
    rw [moved, nothing, List.append_nil]
    exact ⟨free, stage⟩
  have stage := paced.stage
  cases c.move_flow m with
  | still _ _ outlet entries => exact alone entries (by rwa [outlet])
  | looked p text _ isOpen outlet own others =>
    -- Nobody else comes between the look and the entry, so the queue is still open when it is put.
    obtain ⟨put, empty, rest⟩ := put_turn own
    have ready : (c.move (.turn p)).writer ≠ .ended := by
      rw [show (c.move (.turn p)).writer = c.outlet.writer from congrArg Outlet.writer outlet]
      exact stage.going isOpen
    obtain ⟨moved, message⟩ := stride_of_message own ready
    rw [moved, message]
    refine ⟨fun q => ?_, by rw [put, outlet]; exact stage.put isOpen⟩
    by_cases same : q = p
    · rw [same, empty]
    · rw [rest q same, others q same, paced.free]
  | shut p _ isOpen outlet own others =>
    obtain ⟨put, empty, rest⟩ := put_turn own
    have moved : c.stride (.turn p) = (c.move (.turn p)).move (.turn p) := by simp [Connection.stride, own]
    have nothing : c.taken (.turn p) = [] := by simp [taken, own]
    rw [moved, nothing, List.append_nil]
    refine ⟨fun q => ?_, by rw [put, outlet]; exact stage.shut isOpen⟩
    by_cases same : q = p
    · rw [same, empty]
    · rw [rest q same, others q same, paced.free]
  | put p entry had =>
    rw [paced.free p] at had
    contradiction
  | wrote text rest ready _ queue outlet entries =>
    exact alone entries (by rw [outlet]; exact stage.wrote ready queue)
  | failed text rest _ deaf =>
    -- Writing fails only where the server does not read.
    have reading : c.peerReads = true := stage.reads
    rw [reading] at deaf
    contradiction
  | took rest ready queue outlet entries => exact alone entries (by rw [outlet]; exact stage.took ready queue)
  | stopped finishing outlet entries => exact alone entries (by rw [outlet]; exact stage.stopped finishing)
  | dropped => contradiction

private theorem Paced.strides {accepted : List String} {c : Connection} (paced : Paced accepted c)
    (moves : List Move)
    (reads : ∀ m ∈ moves, m ≠ .dropPeer) : Paced (accepted ++ c.accepted moves) (c.strides moves) := by
  induction moves generalizing accepted c with
  | nil =>
    rw [Connection.accepted, List.append_nil]
    exact paced
  | cons m rest ih =>
    obtain ⟨now, later⟩ := List.forall_mem_cons.1 reads
    have next := ih (paced.stride now) later
    rw [List.append_assoc] at next
    exact next

/-- Nothing is taken once the queue is closed. -/
theorem Paced.refused {accepted : List String} {c : Connection} (paced : Paced accepted c)
    (closed : c.closed = true) (m : Move) : c.stride m = c.move m ∧ c.taken m = [] := by
  have alone (entries : ∀ p, (c.move m).outbound? p = c.outbound? p) : c.stride m = c.move m ∧ c.taken m = [] :=
    stride_of_free fun p _ => (entries p).trans (paced.free p)
  cases c.move_flow m with
  | looked _ _ _ isOpen | shut _ _ isOpen =>
    rw [closed] at isOpen
    contradiction
  | put p entry had =>
    rw [paced.free p] at had
    contradiction
  | still _ _ _ entries | wrote _ _ _ _ _ _ entries | failed _ _ _ _ _ _ entries | took _ _ _ _ entries
  | stopped _ _ entries | dropped _ entries => exact alone entries

private theorem Paced.refused_all {accepted : List String} {c : Connection} (paced : Paced accepted c)
    (closed : c.closed = true) (more : List Move) (reads : ∀ m ∈ more, m ≠ .dropPeer) :
    c.accepted more = [] ∧ (c.strides more).closed = true := by
  induction more generalizing accepted c with
  | nil => exact ⟨rfl, closed⟩
  | cons m rest ih =>
    obtain ⟨now, later⟩ := List.forall_mem_cons.1 reads
    obtain ⟨moved, nothing⟩ := paced.refused closed m
    have still : (c.stride m).closed = true := by
      rw [moved]
      exact (c.move_change m).2.closed closed
    obtain ⟨empty, after⟩ := ih (paced.stride now) still later
    exact ⟨by rw [Connection.accepted, nothing, empty]; rfl, after⟩

def turnsLeft (c : Connection) : Nat :=
  match c.writer with
  | .ready => c.queue.length + c.closed.toNat
  | .finishing => 1
  | .ended => 0

/-- The writer has written all and ended with the closing of the queue, or its turn brings it nearer to
that. -/
theorem Paced.writer_turn {accepted : List String} {c : Connection} (paced : Paced accepted c) :
    (c.stepWriter? = none ∧ c.turnsLeft = 0 ∧ c.wire = accepted ∧ c.wireEnded = c.closed) ∨
      (c.stepWriter?.isSome = true ∧ (c.move (.turn .writer)).turnsLeft < c.turnsLeft) := by
  have stage := paced.stage
  have moved : c.move (.turn .writer) = c.stepWriter?.getD c := rfl
  rw [moved]
  generalize way : c.outlet = o at stage
  cases stage with
  | running wire rest order =>
    obtain ⟨queue, written, ready, isOpen, reads⟩ := Outlet.mk.inj way
    cases rest with
    | nil => exact .inl (by simp [stepWriter?, turnsLeft, wireEnded, ready, queue, written, order, isOpen])
    | cons text rest => exact .inr (by simp [stepWriter?, turnsLeft, ready, queue, reads])
  | closing wire rest order =>
    obtain ⟨queue, written, ready, closed, reads⟩ := Outlet.mk.inj way
    cases rest with
    | nil => exact .inr (by simp [stepWriter?, turnsLeft, ready, queue, closed])
    | cons text rest => exact .inr (by simp [stepWriter?, turnsLeft, ready, queue, reads])
  | complete wire writer done order =>
    obtain ⟨queue, written, phase, closed, reads⟩ := Outlet.mk.inj way
    cases writer with
    | ready => contradiction
    | finishing => exact .inr (by simp [stepWriter?, turnsLeft, phase])
    | ended => exact .inl (by simp [stepWriter?, turnsLeft, wireEnded, phase, written, order, closed])

private theorem Paced.writer {accepted : List String} {c : Connection} (paced : Paced accepted c) :
    Paced accepted (c.move (.turn .writer)) := by
  have after := paced.stride (m := .turn .writer) nofun
  obtain ⟨moved, nothing⟩ := stride_of_free (c := c) (m := .turn .writer) fun p same => by cases same; rfl
  rwa [moved, nothing, List.append_nil] at after

/-- With enough turns the writer comes to the end of what has been taken. -/
theorem Paced.caught_up {accepted : List String} {c : Connection} (paced : Paced accepted c) {n : Nat}
    (turns : c.turnsLeft ≤ n) : (c.run (List.replicate n (.turn .writer))).wire = accepted ∧
      (c.run (List.replicate n (.turn .writer))).wireEnded = c.closed := by
  have turn : c.move (.turn .writer) = c.stepWriter?.getD c := rfl
  induction n generalizing c with
  | zero =>
    rcases paced.writer_turn with ⟨_, _, done⟩ | ⟨_, less⟩
    · exact done
    · omega
  | succ n ih =>
    have first : c.run (List.replicate (n + 1) (.turn .writer)) =
        (c.move (.turn .writer)).run (List.replicate n (.turn .writer)) := rfl
    rw [first]
    rcases paced.writer_turn with ⟨idle, none, _⟩ | ⟨going, less⟩
    · rw [turn, idle, Option.getD_none]
      exact ih paced (by omega) turn
    · obtain ⟨c', step⟩ := Option.isSome_iff_exists.1 going
      have closed : (c.move (.turn .writer)).closed = c.closed := by
        rw [turn, step]
        exact (stepWriter?_aside step).closed
      rw [← closed]
      exact ih paced.writer (by omega) rfl

section Attempts
variable {c : Connection} {i n : Nat} {k : Call} {method text : String} {params : Json}

private theorem probing_turn (found : c.calls[i]? = some k) (phase : k.phase = .probing n) :
    c.move (.turn (.call i)) = c.setPhase i (if c.closed then .withdrawing n else .sending n) := by
  obtain ⟨purpose, _, answer, deadline⟩ := k
  cases phase
  rw [move_call, stepCall?, found]
  dsimp only [Option.bind_eq_bind, Option.bind_some]
  split <;> rfl

private theorem sending_turn (found : c.calls[i]? = some k) (phase : k.phase = .sending n)
    (going : c.writer ≠ .ended) :
    (c.move (.turn (.call i))).calls[i]? = some { k with phase := .waiting n } := by
  obtain ⟨purpose, _, answer, deadline⟩ := k
  cases phase
  rw [move_call, stepCall?, found]
  dsimp only [Option.bind_eq_bind, Option.bind_some, enqueue?]
  simp only [if_neg going]
  exact setPhase_getElem? (c := { c with queue := _ }) found _

private theorem noticeProbing_turn (found : c.calls[i]? = some k) (phase : k.phase = .noticeProbing method params) :
    c.move (.turn (.call i)) = c.setPhase i
      (if c.closed then afterTelling k.purpose (.error .notConnected) else .noticeSending method params) := by
  obtain ⟨purpose, _, answer, deadline⟩ := k
  cases phase
  rw [move_call, stepCall?, found]
  dsimp only [Option.bind_eq_bind, Option.bind_some]
  split
  · exact c.afterNotice_eq i purpose _
  · rfl

private theorem noticeSending_turn (found : c.calls[i]? = some k) (phase : k.phase = .noticeSending method params)
    (going : c.writer ≠ .ended) : (c.move (.turn (.call i))).calls[i]? =
      some { k with phase := afterTelling k.purpose (.ok .null) } := by
  obtain ⟨purpose, _, answer, deadline⟩ := k
  cases phase
  rw [move_call, stepCall?, found]
  dsimp only [Option.bind_eq_bind, Option.bind_some, enqueue?]
  simp only [if_neg going, afterNotice_eq]
  exact setPhase_getElem? (c := { c with queue := _ }) found _

private theorem replyProbing_turn (reader : c.reader = .replyProbing method text) :
    (c.move (.turn .reader)).reader = (if c.closed then .reading else .replySending method text) := by
  have moved : c.move (.turn .reader) = c.stepReader?.getD c := rfl
  rw [moved, stepReader?, reader]
  dsimp only
  split <;> rfl

private theorem replySending_turn (reader : c.reader = .replySending method text) :
    (c.move (.turn .reader)).reader = .reading := by
  have moved : c.move (.turn .reader) = c.stepReader?.getD c := rfl
  rw [moved, stepReader?, reader]
  dsimp only [enqueue?]
  by_cases ended : c.writer = .ended
  · rw [if_pos ended]
    rfl
  · rw [if_neg ended]
    rfl

private theorem stride_of_entered {phase : CallPhase} (found : c.calls[i]? = some k)
    (turn : c.move (.turn (.call i)) = c.setPhase i phase)
    (entry : phase.outbound? k.purpose = some (.message text)) (going : c.writer ≠ .ended) :
    c.stride (.turn (.call i)) = (c.setPhase i phase).move (.turn (.call i)) ∧
      c.taken (.turn (.call i)) = [text] := by
  have own : (c.move (.turn (.call i))).outbound? (.call i) = some (.message text) := by
    rw [turn]
    exact (outbound?_call (setPhase_getElem? found phase)).trans entry
  rw [← turn]
  exact stride_of_message own (by rw [turn]; exact going)

private theorem stride_of_idle {p : Party} (own : (c.move (.turn p)).outbound? p = none) :
    c.stride (.turn p) = c.move (.turn p) :=
  (stride_of_free fun q same => by cases same; exact own).1

end Attempts

/-- How the attempts to send something come out: while the queue is open the message is taken, and
afterwards it is not, and whoever has a call is told that there is no connection. -/
structure Attempts (c : Connection) : Prop where
  request : ∀ (i : Nat) (k : Call) (n : Nat), c.closed = false → c.calls[i]? = some k → k.phase = .probing n →
    c.taken (.turn (.call i)) = [(Message.request (.new (UInt64.ofNat n) (requestOf k.purpose).1
      (some (requestOf k.purpose).2))).text] ∧
    (c.stride (.turn (.call i))).calls[i]? = some { k with phase := .waiting n }
  notification : ∀ (i : Nat) (k : Call) (method : String) (params : Json), c.closed = false →
    c.calls[i]? = some k → k.phase = .noticeProbing method params →
    c.taken (.turn (.call i)) = [(Message.notification (.new method (some params))).text] ∧
    (c.stride (.turn (.call i))).calls[i]? = some { k with phase := afterTelling k.purpose (.ok .null) }
  reply : ∀ (method text : String), c.closed = false → c.reader = .replyProbing method text →
    c.taken (.turn .reader) = [text] ∧ (c.stride (.turn .reader)).reader = .reading
  refusedRequest : ∀ (i : Nat) (k : Call) (n : Nat), c.closed = true → c.calls[i]? = some k →
    k.phase = .probing n → ((c.stride (.turn (.call i))).stride (.turn (.call i))).calls[i]? =
      some { k with phase := afterResult k.purpose (.error .notConnected) }
  refusedNotification : ∀ (i : Nat) (k : Call) (method : String) (params : Json), c.closed = true →
    c.calls[i]? = some k → k.phase = .noticeProbing method params →
    (c.stride (.turn (.call i))).calls[i]? =
      some { k with phase := afterTelling k.purpose (.error .notConnected) }
  refusedReply : ∀ (method text : String), c.closed = true → c.reader = .replyProbing method text →
    (c.stride (.turn .reader)).reader = .reading

private theorem Paced.attempts {accepted : List String} {c : Connection} (paced : Paced accepted c) :
    Attempts c where
  request i k n isOpen found phase := by
    have going : c.writer ≠ .ended := paced.stage.going isOpen
    have turn := probing_turn found phase
    rw [isOpen, if_neg Bool.false_ne_true] at turn
    obtain ⟨moved, message⟩ := stride_of_entered found turn rfl going
    refine ⟨message, ?_⟩
    rw [moved]
    exact sending_turn (k := { k with phase := .sending n }) (setPhase_getElem? found _) rfl going
  notification i k method params isOpen found phase := by
    have going : c.writer ≠ .ended := paced.stage.going isOpen
    have turn := noticeProbing_turn found phase
    rw [isOpen, if_neg Bool.false_ne_true] at turn
    obtain ⟨moved, message⟩ := stride_of_entered found turn rfl going
    refine ⟨message, ?_⟩
    rw [moved]
    exact noticeSending_turn (k := { k with phase := .noticeSending method params })
      (setPhase_getElem? found _) rfl going
  reply method text isOpen reader := by
    have turn := replyProbing_turn reader
    rw [isOpen, if_neg Bool.false_ne_true] at turn
    have own : (c.move (.turn .reader)).outbound? .reader = some (.message text) := by rw [outbound?, turn]; rfl
    have same : (c.move (.turn .reader)).writer = c.writer := by
      cases c.move_flow (.turn .reader) with
      | still _ _ outlet | looked _ _ _ _ outlet | shut _ _ _ outlet => exact congrArg Outlet.writer outlet
      | put _ entry had => rw [paced.free] at had; contradiction
    obtain ⟨moved, message⟩ := stride_of_message own (by rw [same]; exact paced.stage.going isOpen)
    rw [moved]
    exact ⟨message, replySending_turn turn⟩
  refusedRequest i k n closed found phase := by
    have turn := probing_turn found phase
    rw [closed, if_pos rfl] at turn
    have there := setPhase_getElem? found (.withdrawing n)
    have once : c.stride (.turn (.call i)) = c.setPhase i (.withdrawing n) :=
      (stride_of_idle (by rw [turn]; exact outbound?_call there)).trans turn
    obtain ⟨_, back⟩ := withdrawing_turn there rfl
    rw [once, stride_of_idle ((outbound?_call back).trans (outbound?_afterResult _ _ _))]
    exact back
  refusedNotification i k method params closed found phase := by
    have turn := noticeProbing_turn found phase
    rw [closed, if_pos rfl] at turn
    have there := setPhase_getElem? found (afterTelling k.purpose (.error .notConnected))
    have own : (c.move (.turn (.call i))).outbound? (.call i) = none := by
      rw [turn]
      exact (outbound?_call there).trans (outbound?_afterTelling _ _ _)
    rw [stride_of_idle own, turn]
    exact there
  refusedReply method text closed reader := by
    have turn := replyProbing_turn reader
    rw [closed, if_pos rfl] at turn
    rw [stride_of_idle (by rw [outbound?, turn]; rfl), turn]

/-- What is written to the server, when these messages have been put into the queue on the way to `c`. -/
structure Delivered (accepted : List String) (c : Connection) : Prop where
  /-- Each message that was taken has been written or waits in the queue, once and in its place; only
  the closing mark may stand behind them. -/
  order : ∃ waiting, accepted = c.wire ++ waiting ∧
    (c.queue = waiting.map .message ∨ c.queue = waiting.map .message ++ [.close])
  /-- When the writer has nothing left to do, all is written, and the stream has ended if the queue is
  closed, and only then. -/
  written : c.step? .writer = none →
    c.wireBytes = accepted.flatMap Frame.encode ∧ c.wireEnded = c.closed
  /-- It comes to that with turns of its own. -/
  caughtUp : ∀ n, c.queue.length < n →
    (c.run (List.replicate n (.turn .writer))).wireBytes = accepted.flatMap Frame.encode ∧
      (c.run (List.replicate n (.turn .writer))).wireEnded = c.closed
  /-- The queue is closed by the reader at its end, and by a shutdown, and by nobody else. -/
  closed : c.reader = .ended ∨ (∃ (i : Nat) (k : Call), c.calls[i]? = some k ∧ k.IsShut) → c.closed = true
  closer : c.closed = true → HasCloser c
  /-- Nothing is taken after the closing, and nothing else is written. -/
  refused : c.closed = true → ∀ more : List Move, (∀ m ∈ more, m ≠ .dropPeer) →
    c.accepted more = [] ∧ ∃ waiting, accepted = (c.strides more).wire ++ waiting
  /-- The stream ends behind the last message, and once. -/
  ended : c.wireEnded = true → c.closed = true ∧ c.wireBytes = accepted.flatMap Frame.encode ∧
    ∀ more : List Move, (∀ m ∈ more, m ≠ .dropPeer) →
      (c.strides more).wire = c.wire ∧ (c.strides more).wireEnded = true
  attempts : Attempts c

private theorem Paced.order {accepted : List String} {c : Connection} (paced : Paced accepted c) :
    ∃ waiting, accepted = c.wire ++ waiting ∧
      (c.queue = waiting.map .message ∨ c.queue = waiting.map .message ++ [.close]) := by
  have stage := paced.stage
  generalize way : c.outlet = o at stage
  cases stage with
  | running wire rest order =>
    obtain ⟨queue, written, -⟩ := Outlet.mk.inj way
    exact ⟨rest, by rw [written, order], .inl queue⟩
  | closing wire rest order =>
    obtain ⟨queue, written, -⟩ := Outlet.mk.inj way
    exact ⟨rest, by rw [written, order], .inr queue⟩
  | complete wire writer done order =>
    obtain ⟨queue, written, -⟩ := Outlet.mk.inj way
    exact ⟨[], by rw [written, order, List.append_nil], .inl queue⟩

private theorem turnsLeft_le (c : Connection) : c.turnsLeft ≤ c.queue.length + 1 := by
  unfold turnsLeft
  split
  · have := Bool.toNat_le c.closed
    omega
  · omega
  · omega

private theorem Paced.over {accepted : List String} {c : Connection} (paced : Paced accepted c)
    (ended : c.writer = .ended) : c.closed = true ∧ c.wire = accepted := by
  rcases paced.writer_turn with ⟨_, _, all, closed⟩ | ⟨going, _⟩
  · exact ⟨by rw [← closed, wireEnded, decide_eq_true ended], all⟩
  · rw [stepWriter?, ended] at going
    contradiction

private theorem Paced.over_strides {accepted : List String} {c : Connection} (paced : Paced accepted c)
    (ended : c.writer = .ended) (more : List Move) (reads : ∀ m ∈ more, m ≠ .dropPeer) :
    (c.strides more).writer = .ended := by
  induction more generalizing accepted c with
  | nil => exact ended
  | cons m rest ih =>
    obtain ⟨now, later⟩ := List.forall_mem_cons.1 reads
    obtain ⟨moved, _⟩ := paced.refused (paced.over ended).1 m
    have still : (c.stride m).writer = .ended := by
      rw [moved]
      exact (c.move_flow m).ended ended
    exact ih (paced.stride now) still later

private theorem Paced.delivered {accepted : List String} {c : Connection} (paced : Paced accepted c)
    (closing : Closing c) (shutting : Shutting c) : Delivered accepted c where
  order := paced.order
  written idle := by
    rcases paced.writer_turn with ⟨_, _, all, ended⟩ | ⟨going, _⟩
    · exact ⟨congrArg (List.flatMap Frame.encode) all, ended⟩
    · rw [show c.stepWriter? = none from idle] at going
      contradiction
  caughtUp n turns := by
    obtain ⟨all, ended⟩ := paced.caught_up (Nat.le_trans c.turnsLeft_le turns)
    exact ⟨congrArg (List.flatMap Frame.encode) all, ended⟩
  closed by_ := by
    rcases by_ with gone | ⟨i, k, found, shut⟩
    · exact closing.reader (by rw [gone]; rfl)
    · exact closing.shut i k found shut
  closer := shutting.closer
  refused closed more reads := by
    obtain ⟨nothing, _⟩ := paced.refused_all closed more reads
    have later := paced.strides more reads
    rw [nothing, List.append_nil] at later
    obtain ⟨waiting, order, _⟩ := later.order
    exact ⟨nothing, waiting, order⟩
  ended stopped := by
    have ended : c.writer = .ended := of_decide_eq_true stopped
    obtain ⟨closed, all⟩ := paced.over ended
    refine ⟨closed, congrArg (List.flatMap Frame.encode) all, fun more reads => ?_⟩
    obtain ⟨nothing, _⟩ := paced.refused_all closed more reads
    have later := paced.strides more reads
    rw [nothing, List.append_nil] at later
    have still := paced.over_strides ended more reads
    exact ⟨(later.over still).2.trans all.symm, decide_eq_true still⟩
  attempts := paced.attempts

/-- In every run in which the server reads what is written, the messages that were taken are written,
each once and in their order, and then the stream ends. -/
theorem strides_delivered (options : ClientOptions) (grace : Nat) (moves : List Move)
    (reads : ∀ m ∈ moves, m ≠ .dropPeer) :
    Delivered ((connect options grace).accepted moves) ((connect options grace).strides moves) := by
  have paced := (Paced.connect options grace).strides moves reads
  obtain ⟨steps, run⟩ := strides_run (connect options grace) moves
  rw [run] at paced ⊢
  exact paced.delivered (closing_run options grace steps) (shutting_run options grace steps)

/-- The moves of a run in which two notifications are taken before the server ends its stream, and a
third one comes too late. -/
def errands : List Move :=
  [.begun (.notify "textDocument/didClose" .null), .begun (.notify "textDocument/didOpen" .null),
    .turn (.call 0), .turn (.call 1), .turn .writer, .endInbox, .turn .reader, .turn .reader,
    .turn .reader, .turn .reader, .turn .reader, .begun (.notify "exit" .null), .turn (.call 2),
    .turn .writer, .turn .writer, .turn .writer]

theorem strides_delivered_errands :
    let start := connect ⟨"lean4", "Lean 4", [], none⟩ 5000
    let sent := ["textDocument/didClose", "textDocument/didOpen"].map fun method =>
      (Message.notification (.new method (some .null))).text
    (∀ m ∈ errands, m ≠ .dropPeer) ∧ (start.strides errands).wireBytes = sent.flatMap Frame.encode ∧
      (start.strides errands).wireEnded = true ∧
      (start.strides errands).result? 2 = some (.error .notConnected) := by
  intro start sent
  have reads : ∀ m ∈ errands, m ≠ .dropPeer := by simp [errands]
  have all := strides_delivered ⟨"lean4", "Lean 4", [], none⟩ 5000 errands reads
  have taken : start.accepted errands = sent := by decide +kernel
  have ended : (start.strides errands).wireEnded = true := by decide +kernel
  exact ⟨reads, taken ▸ (all.ended ended).2.1, ended, by decide +kernel⟩

end LanguageClient.Connection
