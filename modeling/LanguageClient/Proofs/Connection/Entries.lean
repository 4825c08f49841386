import LanguageClient.Proofs.Connection.Delivery

/-! What is put into the queue, and what becomes of it. While the server reads, the wire and the queue
hold the entries in the order in which they were put in; with the first closing mark the writer ends the
stream, so that the wire carries the messages before the mark and nothing else. -/
namespace LanguageClient

def Outbound.text? : Outbound → Option String
  | .message text => some text
  | .close => none

def Move.isWriting : Move → Bool
  | .turn .writer => true
  | _ => false

def beforeMark : List Outbound → List String
  | .message text :: rest => text :: beforeMark rest
  | _ => []

private theorem beforeMark_messages (texts : List String) (rest : List Outbound) :
    beforeMark (texts.map .message ++ rest) = texts ++ beforeMark rest := by
  induction texts with
  | nil => rfl
  | cons text texts ih =>
    have first : beforeMark ((text :: texts).map .message ++ rest) =
        text :: beforeMark (texts.map .message ++ rest) := rfl
    rw [first, ih, List.cons_append]

theorem beforeMark_marked {entries : List Outbound} (marked : .close ∈ entries) (more : List Outbound) :
    beforeMark (entries ++ more) = beforeMark entries := by
  induction entries with
  | nil => contradiction
  | cons entry rest ih =>
    cases entry with
    | close => rfl
    | message text =>
      have later : Outbound.close ∈ rest := (List.mem_cons.1 marked).resolve_left nofun
      have same := ih later
      rw [List.cons_append, beforeMark, beforeMark, same]

namespace Connection

def put? (c : Connection) : Move → Option Outbound
  | .turn p => if c.writer = .ended then none else c.outbound? p
  | _ => none

def entries (c : Connection) (moves : List Move) : List Outbound :=
  c.gather (fun c m => (c.put? m).toList) moves

theorem put?_eq_some {c : Connection} {m : Move} {entry : Outbound} (put : c.put? m = some entry) :
    ∃ p, m = .turn p ∧ c.writer ≠ .ended ∧ c.outbound? p = some entry := by
  cases m with
  | turn p =>
    rw [put?] at put
    split at put
    · contradiction
    · next going => exact ⟨p, rfl, going, put⟩
  | _ => contradiction

theorem put?_queue {c : Connection} {m : Move} {entry : Outbound} (put : c.put? m = some entry) :
    (c.move m).queue = c.queue ++ [entry] := by
  obtain ⟨p, rfl, going, had⟩ := put?_eq_some put
  have outlet := (put_turn had).1
  rw [Outlet.put_of_going (o := c.outlet) going] at outlet
  exact congrArg Outlet.queue outlet

private theorem put?_of_free {c : Connection} {m : Move} (free : ∀ p, m = .turn p → c.outbound? p = none) :
    c.put? m = none := by
  cases m with
  | turn p =>
    rw [put?, free p rfl]
    split <;> rfl
  | _ => rfl

/-- What has been put into the queue is on the wire or still in the queue, and the writer ends with a mark.
Who has closed the queue has put the mark into it or is about to do so. -/
structure Written (put : List Outbound) (c : Connection) : Prop where
  ready : c.writer = .ready → put = c.wire.map .message ++ c.queue
  stopped : c.writer ≠ .ready → ∃ after, put = c.wire.map .message ++ .close :: after
  mark : c.closed = true → .close ∈ put ∨ ∃ p, c.outbound? p = some .close

namespace Written

variable {put : List Outbound} {c c' : Connection}

private theorem connect (options : ClientOptions) (grace : Nat) : Written [] (connect options grace) where
  ready _ := rfl
  stopped ended := absurd rfl ended
  mark closed := absurd closed Bool.false_ne_true

/-- A step over the same wire that puts nothing into the queue. -/
theorem same (written : Written put c) (queue : c'.queue = c.queue) (wire : c'.wire = c.wire)
    (writer : c'.writer = c.writer)
    (mark : c'.closed = true → c.closed = true ∨ ∃ p, c'.outbound? p = some .close)
    (kept : ∀ p, c.outbound? p = some .close → c'.outbound? p = some .close) : Written put c' where
  ready now := by
    rw [wire, queue]
    exact written.ready (writer.symm.trans now)
  stopped now := by
    rw [wire]
    exact written.stopped fun ready => now (writer.trans ready)
  mark closed := by
    rcases mark closed with before | new
    · rcases written.mark before with inside | ⟨p, had⟩
      · exact .inl inside
      · exact .inr ⟨p, kept p had⟩
    · exact .inr new

private theorem put_turn (written : Written put c) {p : Party} {entry : Outbound} (had : c.outbound? p = some entry)
    (outlet : c'.outlet = c.outlet.put entry) (others : ∀ q, q ≠ p → c'.outbound? q = c.outbound? q) :
    Written (put ++ (c.put? (.turn p)).toList) c' := by
  have kept (now : c.closed = true) : .close ∈ put ++ (c.put? (.turn p)).toList ∨
      (∃ q, c'.outbound? q = some .close) ∨ c.writer = .ended ∧ entry = .close := by
    rcases written.mark now with inside | ⟨q, owed⟩
    · exact .inl (List.mem_append_left _ inside)
    · by_cases own : q = p
      · subst own
        cases had.symm.trans owed
        by_cases ended : c.writer = .ended
        · exact .inr (.inr ⟨ended, rfl⟩)
        · refine .inl (List.mem_append_right _ ?_)
          rw [put?, if_neg ended, had]
          exact List.mem_singleton_self _
      · exact .inr (.inl ⟨q, (others q own).trans owed⟩)
  by_cases ended : c.writer = .ended
  · -- The entry is lost, and the mark with which the writer has ended is among the earlier ones.
    have nothing : c.put? (.turn p) = none := if_pos ended
    rw [Outlet.put_of_ended (o := c.outlet) ended] at outlet
    obtain ⟨queue, wire, writer, closed, _⟩ := Outlet.mk.inj outlet
    obtain ⟨after, all⟩ := written.stopped (by rw [ended]; nofun)
    rw [nothing, Option.toList_none, List.append_nil]
    refine ⟨fun now => ?_, fun _ => ⟨after, by rw [wire]; exact all⟩, fun _ => .inl ?_⟩
    · rw [writer, ended] at now
      contradiction
    · rw [all]
      exact List.mem_append_right _ List.mem_cons_self
  · have new : c.put? (.turn p) = some entry := (if_neg ended).trans had
    rw [new] at kept ⊢
    rw [Outlet.put_of_going (o := c.outlet) ended] at outlet
    obtain ⟨queue, wire, writer, closed, _⟩ := Outlet.mk.inj outlet
    refine ⟨fun now => ?_, fun now => ?_, fun now => ?_⟩
    · rw [written.ready (writer.symm.trans now), wire, queue, List.append_assoc]
      rfl
    · obtain ⟨after, all⟩ := written.stopped fun ready => now (writer.trans ready)
      exact ⟨after ++ [entry], by rw [all, wire, List.append_assoc]; rfl⟩
    · rcases kept (closed.symm.trans now) with inside | owed | ⟨gone, _⟩
      · exact .inl inside
      · exact .inr owed
      · exact absurd gone ended

private theorem move (written : Written put c) (reads : c.peerReads = true) (m : Move) :
    Written (put ++ (c.put? m).toList) (c.move m) := by
  have idle (free : c.put? m = none) (step : Written put (c.move m)) :
      Written (put ++ (c.put? m).toList) (c.move m) := by
    rw [free, Option.toList_none, List.append_nil]
    exact step
  cases c.move_flow m with
  | still _ free outlet entries =>
    obtain ⟨queue, wire, writer, closed, _⟩ := Outlet.mk.inj outlet
    refine idle (put?_of_free free) (written.same queue wire writer (fun now => .inl ?_) fun p had => ?_)
    · exact closed.symm.trans now
    · exact (entries p).trans had
  | looked p text free _ outlet own others =>
    obtain ⟨queue, wire, writer, closed, _⟩ := Outlet.mk.inj outlet
    have unput := put?_of_free (c := c) (m := .turn p) fun q same => by cases same; exact free
    refine idle unput (written.same queue wire writer (fun now => .inl ?_) fun q had => ?_)
    · exact closed.symm.trans now
    · have other : q ≠ p := by
        rintro rfl
        rw [free] at had
        contradiction
      exact (others q other).trans had
  | shut p free _ outlet own others =>
    obtain ⟨queue, wire, writer, closed, _⟩ := Outlet.mk.inj outlet
    have unput := put?_of_free (c := c) (m := .turn p) fun q same => by cases same; exact free
    refine idle unput (written.same queue wire writer (fun _ => .inr ⟨p, own⟩) fun q had => ?_)
    have other : q ≠ p := by
      rintro rfl
      rw [free] at had
      contradiction
    exact (others q other).trans had
  | put p entry had outlet own others => exact written.put_turn had outlet others
  | wrote text rest ready _ full outlet entries =>
    obtain ⟨queue, wire, writer, closed, _⟩ := Outlet.mk.inj outlet
    refine idle (put?_of_free fun p same => by cases same; rfl) ⟨fun _ => ?_, fun now => ?_, fun now => ?_⟩
    · rw [written.ready ready, full, wire, queue, List.map_append, List.append_assoc]
      rfl
    · exact absurd (writer.trans ready) now
    · rcases written.mark (closed.symm.trans now) with inside | ⟨p, owed⟩
      · exact .inl inside
      · exact .inr ⟨p, (entries p).trans owed⟩
  | failed text rest ready deaf =>
    rw [reads] at deaf
    contradiction
  | took rest ready full outlet entries =>
    obtain ⟨queue, wire, writer, closed, _⟩ := Outlet.mk.inj outlet
    have all := written.ready ready
    rw [full] at all
    refine idle (put?_of_free fun p same => by cases same; rfl) ⟨fun now => ?_, fun _ => ⟨rest, ?_⟩, fun _ => .inl ?_⟩
    · rw [writer] at now
      contradiction
    · rw [wire]
      exact all
    · rw [all]
      exact List.mem_append_right _ List.mem_cons_self
  | stopped finishing outlet entries =>
    obtain ⟨queue, wire, writer, closed, _⟩ := Outlet.mk.inj outlet
    obtain ⟨after, all⟩ := written.stopped (by rw [finishing]; nofun)
    refine idle (put?_of_free fun p same => by cases same; rfl) ⟨fun now => ?_, fun _ => ⟨after, ?_⟩, fun _ => .inl ?_⟩
    · rw [writer] at now
      contradiction
    · rw [wire]
      exact all
    · rw [all]
      exact List.mem_append_right _ List.mem_cons_self
  | dropped outlet entries =>
    obtain ⟨queue, wire, writer, closed, _⟩ := Outlet.mk.inj outlet
    refine idle rfl (written.same queue wire writer (fun now => .inl ?_) fun p had => ?_)
    · exact closed.symm.trans now
    · exact (entries p).trans had

theorem wire_stopped (written : Written put c) (stopped : c.writer ≠ .ready) : c.wire = beforeMark put := by
  obtain ⟨after, all⟩ := written.stopped stopped
  rw [all, beforeMark_messages]
  exact (List.append_nil _).symm

end Written

theorem Flow.reads {c c' : Connection} {m : Move} (flow : Flow c c' m) (reads : c'.peerReads = true) :
    c.peerReads = true := by
  cases flow with
  | still _ _ outlet | looked _ _ _ _ outlet | shut _ _ _ outlet | wrote _ _ _ _ _ outlet
  | failed _ _ _ _ _ outlet | took _ _ _ outlet | stopped _ outlet =>
    exact (congrArg Outlet.peerReads outlet).symm.trans reads
  | put _ _ _ outlet =>
    have kept := congrArg Outlet.peerReads outlet
    rw [Outlet.put] at kept
    split at kept <;> exact kept.symm.trans reads
  | dropped outlet =>
    have deaf : c'.peerReads = false := congrArg Outlet.peerReads outlet
    rw [deaf] at reads
    contradiction

theorem written_run (options : ClientOptions) (grace : Nat) {moves : List Move}
    (reads : ((connect options grace).run moves).peerReads = true) :
    Written ((connect options grace).entries moves) ((connect options grace).run moves) := by
  induction moves using List.reverseRecOn with
  | nil => exact .connect options grace
  | append_singleton moves m ih =>
    rw [run_concat] at reads ⊢
    rw [entries, gather_concat]
    have before := (move_flow _ m).reads reads
    exact (ih before).move before m

theorem reads_of_run {c : Connection} {moves : List Move} (reads : (c.run moves).peerReads = true) :
    c.peerReads = true := by
  induction moves generalizing c with
  | nil => exact reads
  | cons m rest ih => exact (c.move_flow m).reads (ih reads)

/-- The turns that a writer may need until it has ended the stream, with the closing mark in the queue. -/
def turnsToEnd : WriterPhase → List Outbound → Nat
  | .ready, queue => queue.idxOf .close + 2
  | .finishing, _ => 1
  | .ended, _ => 0

def toEnd (c : Connection) : Nat := turnsToEnd c.writer c.queue

def IsMarked (c : Connection) : Prop := c.writer = .ready → .close ∈ c.queue

private theorem writer_turn {c : Connection} (marked : IsMarked c) (reads : c.peerReads = true) :
    IsMarked (c.move (.turn .writer)) ∧
      ((c.move (.turn .writer)).toEnd < c.toEnd ∨ (c.move (.turn .writer)).toEnd = 0) := by
  have moved : c.move (.turn .writer) = c.stepWriter?.getD c := rfl
  rw [moved, stepWriter?]
  cases writer : c.writer with
  | ready =>
    have inside := marked writer
    cases queue : c.queue with
    | nil =>
      rw [queue] at inside
      contradiction
    | cons entry rest =>
      have left : c.toEnd = (entry :: rest).idxOf .close + 2 := by rw [toEnd, writer, queue]; rfl
      rw [left]
      cases entry with
      | close => exact ⟨fun ready => WriterPhase.noConfusion ready, .inl (Nat.lt_of_sub_eq_succ rfl)⟩
      | message text =>
        rw [queue] at inside
        have differs : Outbound.message text ≠ .close := Outbound.noConfusion
        have later : Outbound.close ∈ rest := (List.mem_cons.1 inside).resolve_left differs.symm
        dsimp only
        rw [if_pos reads, Option.getD_some, List.idxOf_cons_ne _ differs]
        exact ⟨fun _ => later, .inl (Nat.lt_succ_self _)⟩
  | finishing =>
    exact ⟨fun ready => WriterPhase.noConfusion ready, .inr rfl⟩
  | ended =>
    rw [Option.getD_none]
    exact ⟨marked, .inr (by rw [toEnd, writer]; rfl)⟩

private theorem toEnd_other {c : Connection} (marked : IsMarked c) {m : Move} (other : m ≠ .turn .writer) :
    IsMarked (c.move m) ∧ (c.move m).toEnd = c.toEnd := by
  have same (outlet : (c.move m).queue = c.queue ∧ (c.move m).writer = c.writer) :
      IsMarked (c.move m) ∧ (c.move m).toEnd = c.toEnd := by
    rw [IsMarked, toEnd, toEnd, outlet.1, outlet.2]
    exact ⟨marked, rfl⟩
  cases c.move_flow m with
  | still _ _ outlet | looked _ _ _ _ outlet | shut _ _ _ outlet | dropped outlet =>
    exact same ⟨congrArg Outlet.queue outlet, congrArg Outlet.writer outlet⟩
  | put _ entry _ outlet =>
    by_cases ended : c.writer = .ended
    · rw [Outlet.put_of_ended (o := c.outlet) ended] at outlet
      exact same ⟨congrArg Outlet.queue outlet, congrArg Outlet.writer outlet⟩
    · rw [Outlet.put_of_going (o := c.outlet) ended] at outlet
      have queue : (c.move _).queue = c.queue ++ [entry] := congrArg Outlet.queue outlet
      have writer : (c.move _).writer = c.writer := congrArg Outlet.writer outlet
      rw [IsMarked, toEnd, toEnd, queue, writer]
      refine ⟨fun ready => List.mem_append_left _ (marked ready), ?_⟩
      cases ready : c.writer with
      | ready => rw [turnsToEnd, turnsToEnd, List.idxOf_append_of_mem (marked ready)]
      | finishing | ended => rfl
  | wrote | failed | took | stopped => exact absurd rfl other

/-- With these turns of the writer the stream has ended. -/
theorem stream_ended {c : Connection} (marked : IsMarked c) (more : List Move)
    (reads : (c.run more).peerReads = true) (turns : c.toEnd ≤ more.countP Move.isWriting) :
    (c.run more).writer = .ended := by
  induction more generalizing c with
  | nil =>
    rw [List.countP_nil, toEnd] at turns
    cases writer : c.writer with
    | ended => exact writer
    | ready | finishing =>
      rw [writer] at turns
      contradiction
  | cons m rest ih =>
    by_cases writes : m = .turn .writer
    · subst writes
      obtain ⟨marked', less⟩ := writer_turn marked (reads_of_run reads)
      have own : (Move.turn .writer).isWriting = true := rfl
      rw [List.countP_cons_of_pos own] at turns
      refine ih marked' reads ?_
      omega
    · obtain ⟨marked', same⟩ := toEnd_other marked writes
      have notOwn : ¬ m.isWriting = true := by
        intro own
        unfold Move.isWriting at own
        split at own
        · exact writes rfl
        · contradiction
      rw [List.countP_cons_of_neg notOwn] at turns
      refine ih marked' reads ?_
      rw [same]
      exact turns

end Connection

end LanguageClient
