import LanguageClient.Proofs.Connection.Filing
import LanguageClient.Proofs.Connection.Replies

/-! What becomes of the notifications of a server. Each publication that can be decoded goes through the
middleware, which may remember what it was given before and hand on what it likes; what it hands on is
filed under its document, and nothing else is ever filed, changed or dropped. So the diagnostics of a
document are told by the notifications that were handled, whatever else the connection did meanwhile. -/
namespace LanguageClient

/-- A middleware that may remember: what it hands on depends on all that it was given before. -/
abbrev Interceptor := List DiagnosticEvent → Middleware

namespace Interceptor

def handedOn (handle : Option Interceptor) (given : List DiagnosticEvent) (event : DiagnosticEvent) :
    List DiagnosticEvent :=
  match handle with
  | some handle => handle given event
  | none => [event]

/-- What reaches the default path for publications one after the other, after others were given. -/
def reached (handle : Option Interceptor) : (given publications : List DiagnosticEvent) → List DiagnosticEvent
  | _, [] => []
  | given, event :: rest => handedOn handle given event ++ reached handle (given ++ [event]) rest

private theorem reached_concat (handle : Option Interceptor) (given publications : List DiagnosticEvent)
    (event : DiagnosticEvent) : reached handle given (publications ++ [event]) =
      reached handle given publications ++ handedOn handle (given ++ publications) event := by
  induction publications generalizing given with
  | nil => simp [reached]
  | cons first rest ih => simp [reached, ih]

/-- Without a middleware every publication reaches the default path as it is. -/
theorem reached_none (given publications : List DiagnosticEvent) :
    reached none given publications = publications := by
  induction publications generalizing given with
  | nil => rfl
  | cons first rest ih => simp [reached, handedOn, ih]

end Interceptor

open Interceptor (handedOn reached reached_concat reached_none)

def Message.notification? : Message → Option Notification
  | .notification n => some n
  | _ => none

namespace Connection

/-- A publication changes what is on file for the documents of which the middleware hands something on. -/
theorem latestDiagnostics_publish (c : Connection) (event : DiagnosticEvent) {uri : String}
    (others : ∀ handed ∈ c.options.deliver event, handed.uri ≠ uri) :
    (c.publish event).latestDiagnostics uri = c.latestDiagnostics uri := by
  have stored (events : List DiagnosticEvent) (others : ∀ handed ∈ events, handed.uri ≠ uri) (d : Connection) :
      (events.foldl store d).latestDiagnostics uri = d.latestDiagnostics uri := by
    induction events generalizing d with
    | nil => rfl
    | cons handed rest ih =>
      obtain ⟨other, others⟩ := List.forall_mem_cons.1 others
      rw [List.foldl_cons, ih others]
      change ((d.diagnostics.insert handed.uri handed.diagnostics).get? uri).getD [] = _
      rw [Table.get?_insert_of_ne _ _ (Ne.symm other)]
      rfl
  unfold publish
  dsimp only
  split
  · exact stored _ others _
  · exact stored _ others c

private theorem SameFiles.latestDiagnostics {c c' : Connection} (same : SameFiles c c') (uri : String) :
    c'.latestDiagnostics uri = c.latestDiagnostics uri := by
  rw [Connection.latestDiagnostics, same.diagnostics]
  rfl

def under (handle : Option Interceptor) (c : Connection) : Connection :=
  { c with options := { c.options with middleware := handle.map fun handle => handle c.intercepted } }

def runUnder (handle : Option Interceptor) (c : Connection) (moves : List Move) : Connection :=
  moves.foldl (fun c m => (c.under handle).move m) c

def notification? (c : Connection) (m : Move) : Option Notification := (c.message? m).bind Message.notification?

/-- The notifications that are handled in such a run, in their order. -/
def noticesUnder (handle : Option Interceptor) (c : Connection) : List Move → List Notification
  | [] => []
  | m :: rest => (c.notification? m).toList ++ noticesUnder handle ((c.under handle).move m) rest

private theorem runUnder_concat (handle : Option Interceptor) (c : Connection) (moves : List Move) (m : Move) :
    c.runUnder handle (moves ++ [m]) = ((c.runUnder handle moves).under handle).move m := by
  simp [runUnder]

private theorem noticesUnder_concat (handle : Option Interceptor) (c : Connection) (moves : List Move) (m : Move) :
    c.noticesUnder handle (moves ++ [m]) =
      c.noticesUnder handle moves ++ ((c.runUnder handle moves).notification? m).toList := by
  induction moves generalizing c with
  | nil => simp [noticesUnder, runUnder]
  | cons first rest ih =>
    rw [List.cons_append, noticesUnder, noticesUnder, ih, List.append_assoc]
    rfl

private theorem under_forgetful (c : Connection) :
    c.under (c.options.middleware.map fun handle _ => handle) = c := by
  rw [under, Option.map_map]
  simp [Function.comp_def]

/-- A middleware that remembers nothing is the one of the options: its runs are the runs of the connection. -/
theorem runUnder_forgetful (c : Connection) (moves : List Move) :
    c.runUnder (c.options.middleware.map fun handle _ => handle) moves = c.run moves ∧
      c.noticesUnder (c.options.middleware.map fun handle _ => handle) moves =
        (c.messages moves).filterMap Message.notification? := by
  induction moves generalizing c with
  | nil => exact ⟨rfl, rfl⟩
  | cons m rest ih =>
    obtain ⟨runs, notices⟩ := ih (c.move m)
    rw [(move_filing c m).options] at runs notices
    constructor
    · change ((c.under _).move m).runUnder _ rest = _
      rw [under_forgetful, runs]
      rfl
    · have first : (c.notification? m).toList = (c.message? m).toList.filterMap Message.notification? := by
        rw [notification?]
        cases c.message? m with
        | none => rfl
        | some message => cases message <;> rfl
      rw [noticesUnder, under_forgetful, notices, first, ← List.filterMap_append]
      rfl

private theorem move_of_message? {c : Connection} {m : Move} {message : Message}
    (took : c.message? m = some message) :
    ∃ rest, c.move m = { c with inbox := rest }.handleMessage message := by
  by_cases reads : m = .turn .reader
  · subst reads
    rw [message?] at took
    split at took
    · next reading =>
      split at took
      · next rest next =>
        cases took
        refine ⟨rest, ?_⟩
        change c.stepReader?.getD c = _
        rw [stepReader?_of_next reading next]
        rfl
      · contradiction
    · contradiction
  · rw [(silent_of_other reads).1] at took
    contradiction

private theorem move_of_silence {c : Connection} {m : Move} (silent : c.message? m = none) :
    SameFiles c (c.move m) := by
  by_cases reads : m = .turn .reader
  · subst reads
    change SameFiles c (c.stepReader?.getD c)
    cases step : c.stepReader? with
    | none => exact .refl c
    | some c' =>
      refine stepReader?_unfiled step fun message rest reading next => ?_
      rw [message?_of_reading reading next] at silent
      contradiction
  · exact move_files reads

/-- A move that handles no publication files nothing. -/
theorem move_unfiled {c : Connection} {m : Move}
    (nothing : (c.notification? m).bind Notification.publication? = none) : SameFiles c (c.move m) := by
  cases took : c.message? m with
  | none => exact move_of_silence took
  | some message =>
    obtain ⟨rest, moved⟩ := move_of_message? took
    have taken : SameFiles c { c with inbox := rest } := ⟨rfl, rfl, rfl⟩
    rw [moved]
    cases message with
    | response | request => exact taken.trans (handleMessage_unfiled _ nofun)
    | notification n =>
      rw [notification?, took] at nothing
      exact taken.trans (handleNotification_unfiled _ nothing)

private theorem move_published {c : Connection} {m : Move} {event : DiagnosticEvent}
    (told : (c.notification? m).bind Notification.publication? = some event) :
    ∃ d, SameFiles c d ∧ c.move m = d.publish event := by
  obtain ⟨n, handled, published⟩ := Option.bind_eq_some_iff.1 told
  obtain ⟨message, took, notice⟩ := Option.bind_eq_some_iff.1 handled
  cases message with
  | response | request => contradiction
  | notification n' =>
    cases notice
    obtain ⟨rest, moved⟩ := move_of_message? took
    obtain ⟨d, same, whole⟩ := handleNotification_published { c with inbox := rest } published
    have taken : SameFiles c { c with inbox := rest } := ⟨rfl, rfl, rfl⟩
    exact ⟨d, taken.trans same, moved.trans whole⟩

structure Retains (handle : Option Interceptor) (publications : List DiagnosticEvent) (c : Connection) : Prop where
  holds : Holds c (reached handle [] publications)
  given : handle.isSome → c.intercepted = publications

namespace Retains

variable {handle : Option Interceptor} {publications : List DiagnosticEvent} {c d : Connection}

private theorem same (retains : Retains handle publications c) (same : SameFiles c d) :
    Retains handle publications d where
  holds uri := by rw [same.diagnostics, retains.holds]
  given some := same.intercepted.trans (retains.given some)

private theorem under (retains : Retains handle publications c) : Retains handle publications (c.under handle) :=
  ⟨retains.holds, retains.given⟩

private theorem published (retains : Retains handle publications c) (same : SameFiles (c.under handle) d)
    (event : DiagnosticEvent) : Retains handle (publications ++ [event]) (d.publish event) := by
  have before := retains.under.same same
  have behaves : d.options.middleware = handle.map fun handle => handle c.intercepted := by
    rw [same.options]
    rfl
  have handed : d.options.deliver event = handedOn handle publications event := by
    rw [ClientOptions.deliver, behaves]
    cases handle with
    | none => rfl
    | some handle => rw [retains.given rfl]; rfl
  constructor
  · rw [reached_concat, List.nil_append, ← handed]
    exact before.holds.published event
  · intro some
    rw [publish_intercepted (by rw [behaves, Option.isSome_map, some]), before.given some]

private theorem move (retains : Retains handle publications c) (m : Move) :
    Retains handle (publications ++ ((c.notification? m).bind Notification.publication?).toList)
      ((c.under handle).move m) := by
  cases told : (c.notification? m).bind Notification.publication? with
  | none =>
    rw [Option.toList_none, List.append_nil]
    exact retains.under.same (move_unfiled told)
  | some event =>
    obtain ⟨d, same, whole⟩ := move_published (c := c.under handle) told
    rw [whole]
    exact retains.published same event

private theorem run (options : ClientOptions) (grace : Nat) (handle : Option Interceptor) (moves : List Move) :
    Retains handle (((connect options grace).noticesUnder handle moves).filterMap Notification.publication?)
      ((connect options grace).runUnder handle moves) := by
  induction moves using List.reverseRecOn with
  | nil => exact ⟨fun _ => rfl, fun _ => rfl⟩
  | append_singleton moves m ih =>
    rw [noticesUnder_concat, runUnder_concat, List.filterMap_append]
    have last : ((((connect options grace).runUnder handle moves).notification? m).toList).filterMap
        Notification.publication? =
          ((((connect options grace).runUnder handle moves).notification? m).bind Notification.publication?).toList := by
      cases ((connect options grace).runUnder handle moves).notification? m with
      | none => rfl
      | some n => cases told : n.publication? <;> simp [told]
    rw [last]
    exact ih.move m

end Retains

/-- However a connection runs and whatever its middleware does, it has on file for a document what reached
the default path last for it, and nothing if nothing did. Other notifications, publications that cannot be
decoded, and those of which nothing is handed on for the document, leave that as it is; without a middleware
all publications that can be decoded reach the default path. -/
theorem latestDiagnostics_retained (options : ClientOptions) (grace : Nat) (handle : Option Interceptor)
    (moves : List Move) :
    let c := (connect options grace).runUnder handle moves
    let publications := ((connect options grace).noticesUnder handle moves).filterMap Notification.publication?
    (∀ uri, c.latestDiagnostics uri = (lastFiled uri (reached handle [] publications)).getD []) ∧
      (handle = none → reached handle [] publications = publications) ∧
      ∀ (d : Connection) (n : Notification) (uri : String),
        (n.method ≠ "textDocument/publishDiagnostics" →
          (d.handleNotification n).latestDiagnostics uri = d.latestDiagnostics uri) ∧
        (∀ e, Publication.decode (n.params.getD .null) = .error e →
          (d.handleNotification n).latestDiagnostics uri = d.latestDiagnostics uri) ∧
        ∀ publication, Publication.decode (n.params.getD .null) = .ok publication →
          (∀ handed ∈ d.options.deliver publication.event, handed.uri ≠ uri) →
            (d.handleNotification n).latestDiagnostics uri = d.latestDiagnostics uri := by
  intro c publications
  have retains := Retains.run options grace handle moves
  refine ⟨fun uri => ?_, ?_, fun d n uri => ?_⟩
  · rw [latestDiagnostics, retains.holds]
  · rintro rfl
    exact reached_none _ _
  · have unfiled (nothing : n.publication? = none) :=
      (handleNotification_unfiled d nothing).latestDiagnostics uri
    refine ⟨fun other => unfiled (if_neg other), fun e malformed => ?_, fun publication read others => ?_⟩
    · refine unfiled (Option.eq_none_iff_forall_ne_some.2 fun event published => ?_)
      obtain ⟨-, _, read, -⟩ := Notification.publication?_eq_some_iff.1 published
      cases malformed.symm.trans read
    · by_cases publishes : n.method = "textDocument/publishDiagnostics"
      · have published := Notification.publication?_of_decoded publishes read
        obtain ⟨d', same, whole⟩ := handleNotification_published d published
        rw [whole, latestDiagnostics_publish, same.latestDiagnostics]
        rw [same.options]
        exact others
      · exact unfiled (if_neg publishes)

end Connection

end LanguageClient
