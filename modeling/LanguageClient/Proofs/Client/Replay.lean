import Mathlib.Data.List.Induction
import LanguageClient.Client.Basic

/-! What a server knows of the documents. `replay` gives the documents that a server has open after
the notices it has received; `Orderly` says that each notice fits what the server had open before
it. What a connection has received is read off the history of the client. -/
namespace LanguageClient

namespace Notice

def apply (view : Table OpenDocument) : Notice → Table OpenDocument
  | .opened d => view.insert d.uri ⟨d.languageId, d.version, d.text⟩
  | .changed uri version text =>
    match view.get? uri with
    | some known => view.insert uri { known with version := version, text := text }
    | none => view
  | .closed uri => view.erase uri

/-- The notice fits what the server has open: a document is opened in its first version, unless it
is open, and an open document is changed to the version after the one it has. -/
def Fits (view : Table OpenDocument) : Notice → Prop
  | .opened d => d.version = 1 ∧ view.get? d.uri = none
  | .changed uri version _ =>
    ∃ known, view.get? uri = some known ∧ version.toInt = known.version.toInt + 1
  | .closed _ => True

def countChange (uri : String) (count : Nat) : Notice → Nat
  | .opened d => if d.uri = uri then 0 else count
  | .changed other _ _ => if other = uri then count + 1 else count
  | .closed other => if other = uri then 0 else count

end Notice

/-- The documents that a server has open after it has received the notices. -/
def replay (notices : List Notice) : Table OpenDocument := notices.foldl Notice.apply []

/-- Each notice fits what was open before it. -/
def Orderly (notices : List Notice) : Prop :=
  ∀ before notice after, notices = before ++ notice :: after → notice.Fits (replay before)

def changesSinceOpened (uri : String) (notices : List Notice) : Nat :=
  notices.foldl (Notice.countChange uri) 0

/-- No document is changed so often between two openings that its versions run out. -/
def ShortSessions (notices : List Notice) : Prop :=
  ∀ before, before <+: notices → ∀ uri, changesSinceOpened uri before < 0x7FFFFFFF

variable {P : Type} [DecidableEq P]

namespace Happening

def addReceived (peer : P) (seen : List Notice) : Happening P → List Notice
  | .launched other _ _ => if other = peer then [] else seen
  | .delivered other notice => if other = peer then seen ++ [notice] else seen
  | _ => seen

def nowLive (peer : P) (live : Bool) : Happening P → Bool
  | .launched other _ _ => if other = peer then true else live
  | .stopped _ other _ => if other = peer then false else live
  | _ => live

def isRefused : Happening P → Bool
  | .refused .. => true
  | _ => false

end Happening

/-- The notices that a connection has received since it was launched. -/
def received (peer : P) (history : List (Happening P)) : List Notice :=
  history.foldl (Happening.addReceived peer) []

/-- A connection was launched and not yet stopped. -/
def isLive (peer : P) (history : List (Happening P)) : Bool :=
  history.foldl (Happening.nowLive peer) false

/-- No notice to a live connection was refused. -/
def Reliable (history : List (Happening P)) : Prop :=
  ∀ before peer notice error after,
    history = before ++ .refused peer notice error :: after → isLive peer before = false

@[simp] theorem replay_concat (notices : List Notice) (notice : Notice) :
    replay (notices ++ [notice]) = notice.apply (replay notices) := by
  simp [replay]

@[simp] theorem changesSinceOpened_concat (uri : String) (notices : List Notice) (notice : Notice) :
    changesSinceOpened uri (notices ++ [notice]) = notice.countChange uri (changesSinceOpened uri notices) := by
  simp [changesSinceOpened]

@[simp] theorem received_concat (peer : P) (history : List (Happening P)) (h : Happening P) :
    received peer (history ++ [h]) = h.addReceived peer (received peer history) := by
  simp [received]

@[simp] theorem isLive_concat (peer : P) (history : List (Happening P)) (h : Happening P) :
    isLive peer (history ++ [h]) = h.nowLive peer (isLive peer history) := by
  simp [isLive]

theorem Orderly.nil : Orderly [] := by
  intro before notice after split
  simp at split

theorem ShortSessions.of_prefix {notices longer : List Notice} (short : ShortSessions longer)
    (start : notices <+: longer) : ShortSessions notices :=
  fun before inside => short before (inside.trans start)

theorem Reliable.of_prefix {history longer : List (Happening P)} (reliable : Reliable longer)
    (start : history <+: longer) : Reliable history := by
  obtain ⟨more, rfl⟩ := start
  intro before peer notice error after split
  apply reliable before peer notice error (after ++ more)
  rw [split, List.append_assoc, List.cons_append]

theorem Reliable.of_accepted {history : List (Happening P)}
    (accepted : history.all (fun h => !h.isRefused) = true) : Reliable history := by
  intro before peer notice error after split
  have inside : .refused peer notice error ∈ history := by simp [split]
  have taken := List.all_eq_true.1 accepted _ inside
  simp [Happening.isRefused] at taken

private theorem changesSinceOpened_le (uri : String) (notices : List Notice) :
    changesSinceOpened uri notices ≤ notices.length := by
  induction notices using List.reverseRecOn with
  | nil => exact Nat.le_refl 0
  | append_singleton notices notice ih =>
    rw [changesSinceOpened_concat, List.length_append, List.length_singleton]
    cases notice <;> simp only [Notice.countChange] <;> split <;> omega

theorem ShortSessions.of_length {notices : List Notice} (few : notices.length < 0x7FFFFFFF) :
    ShortSessions notices := by
  intro before start uri
  have bound := changesSinceOpened_le uri before
  have length := start.length_le
  omega

end LanguageClient
