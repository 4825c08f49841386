import LanguageClient.Client.Rehearsal
import LanguageClient.Proofs.Client.Course
import LanguageClient.Proofs.Table

/-! What becomes of a change to a document that is open. A document is selected by its URI and its
language before the table is looked at, so a change reaches the server just if the selector still lets
the document pass. Whatever was opened or changed has passed it; only a document that was refreshed has
not. -/
namespace LanguageClient

/-- How a document was last handed in: as it was given, and whether it was to be refreshed. -/
structure Handing where
  document : TextDocument
  refreshed : Bool
  deriving DecidableEq, Repr

namespace Client

variable {W P : Type} {c c' : Client W P}

/-- How each document was last handed in, with one more call. A call that the server hears nothing of
hands nothing in. -/
def handIn (host : Host W P) (c : Client W P) (last : String → Option Handing) :
    ClientCall P → String → Option Handing
  | .openDocument d | .changeDocument d =>
    match (c.syncDocument host d).1 with
    | .ok true => Function.update last d.uri (some ⟨d, false⟩)
    | _ => last
  | .refreshDependencies d =>
    match (c.refreshDependencies host d).1 with
    | .ok () => Function.update last d.uri (some ⟨d, true⟩)
    | .error _ => last
  | _ => last

/-- How each document was last handed in, after calls that are made one after another. -/
def handedIn (host : Host W P) : Client W P → (String → Option Handing) → List (ClientCall P) →
    String → Option Handing
  | _, last, [] => last
  | c, last, call :: rest => handedIn host (c.perform host call).2 (c.handIn host last call) rest

def Handed (c : Client W P) (last : String → Option Handing) : Prop :=
  ∀ uri, (c.documents.get? uri).isSome = true → ∃ handing, last uri = some handing ∧
    handing.document.uri = uri ∧ (handing.refreshed = false → c.selects handing.document = true)

structure NothingNew (c c' : Client W P) : Prop where
  selector : c'.selector = c.selector
  tracked : ∀ uri, (c'.documents.get? uri).isSome = true → (c.documents.get? uri).isSome = true

namespace NothingNew

theorem refl (c : Client W P) : NothingNew c c := ⟨rfl, fun _ => id⟩

private theorem of_eq (selector : c'.selector = c.selector) (documents : c'.documents = c.documents) :
    NothingNew c c' :=
  ⟨selector, fun _ inside => by rwa [documents] at inside⟩

theorem trans {c'' : Client W P} (first : NothingNew c c') (second : NothingNew c' c'') :
    NothingNew c c'' :=
  ⟨second.selector.trans first.selector, fun uri inside => first.tracked uri (second.tracked uri inside)⟩

private theorem launchNew (host : Host W P) (c : Client W P) : NothingNew c (c.launchNew host).2 := by
  have outcome := c.launchNew_outcome host
  generalize c.launchNew host = result at outcome ⊢
  cases outcome with
  | failed e w => exact of_eq rfl rfl
  | started peer w =>
    obtain ⟨w', more, opened, -⟩ := (c.launchedOn peer w).reopen_eq host peer
    rw [opened, announce_eq]
    refine ⟨rfl, fun uri inside => ?_⟩
    change ((renewed c.documents).get? uri).isSome = true at inside
    rwa [renewed, Table.get?_mapValues, Option.isSome_map] at inside

private theorem restart (host : Host W P) (connected : c.isStarted = c.active.isSome) :
    NothingNew c (c.restart host).2 := by
  have outcome := c.restart_outcome host connected
  generalize c.restart host = result at outcome ⊢
  cases outcome with
  | idle vacant => exact launchNew host c
  | stopFailed id peer e w inUse => exact of_eq rfl rfl
  | replaced id peer w inUse =>
    have stopped : NothingNew c (c.stoppedOn id peer (.ok ()) w) := of_eq rfl rfl
    exact stopped.trans (launchNew host _)

private theorem stop (host : Host W P) (connected : c.isStarted = c.active.isSome) :
    NothingNew c (c.stop host).2 := by
  have outcome := c.stop_outcome host connected
  generalize c.stop host = result at outcome ⊢
  cases outcome <;> exact of_eq rfl rfl

private theorem closeDocument (host : Host W P) (uri : String) : NothingNew c (c.closeDocument host uri).2 := by
  have erased (other : String) (inside : ((c.documents.erase uri).get? other).isSome = true) :
      (c.documents.get? other).isSome = true := by
    rw [Table.get?_erase] at inside
    split at inside
    · contradiction
    · exact inside
  cases inUse : c.active with
  | none => simpa [Client.closeDocument, peer?, inUse] using refl c
  | some connection =>
    have outcome := c.closeDocument_outcome host inUse uri
    generalize c.closeDocument host uri = result at outcome ⊢
    cases outcome with
    | absent isClosed => exact refl c
    | done | refused => exact ⟨rfl, erased⟩

end NothingNew

namespace Handed

variable {last : String → Option Handing}

private theorem keep (handed : Handed c last) (kept : NothingNew c c') : Handed c' last := by
  intro uri inside
  obtain ⟨handing, isLast, about, passed⟩ := handed uri (kept.tracked uri inside)
  refine ⟨handing, isLast, about, fun opened => ?_⟩
  rw [selects, kept.selector]
  exact passed opened

/-- A document goes into the table as it is handed in. -/
theorem insert (handed : Handed c last) (handing : Handing) (entry : OpenDocument)
    (passed : handing.refreshed = false → c.selects handing.document = true)
    (selector : c'.selector = c.selector)
    (documents : c'.documents = c.documents.insert handing.document.uri entry) :
    Handed c' (Function.update last handing.document.uri (some handing)) := by
  intro uri inside
  have same (d : TextDocument) : c'.selects d = c.selects d := by rw [selects, selector, selects]
  by_cases about : uri = handing.document.uri
  · subst about
    exact ⟨handing, Function.update_self .., rfl, by rwa [same]⟩
  · rw [documents, Table.get?_insert, if_neg about] at inside
    rw [Function.update_of_ne about]
    obtain ⟨earlier, isLast, its, opened⟩ := handed uri inside
    exact ⟨earlier, isLast, its, by rwa [same]⟩

private theorem syncDocument (handed : Handed c last) (host : Host W P) (d : TextDocument) :
    Handed (c.syncDocument host d).2 (c.handIn host last (.openDocument d)) := by
  simp only [handIn, Client.syncDocument]
  cases c.peer? with
  | error e => exact handed
  | ok peer =>
    cases passed : c.selects d with
    | false => exact handed
    | true =>
      have outcome := c.syncOn_outcome host peer d
      dsimp only
      rw [if_pos rfl]
      generalize c.syncOn host peer d = result at outcome ⊢
      cases outcome with
      | unchanged => exact handed
      | refused => exact handed.keep (.of_eq rfl rfl)
      | opened | changed => exact handed.insert ⟨d, false⟩ _ (fun _ => passed) rfl rfl

private theorem refreshDependencies (handed : Handed c last) (host : Host W P) (d : TextDocument) :
    Handed (c.refreshDependencies host d).2 (c.handIn host last (.refreshDependencies d)) := by
  simp only [handIn, Client.refreshDependencies]
  cases c.peer? with
  | error e => exact handed
  | ok peer =>
    have outcome := (c.note (.refreshing d.uri)).refreshOn_outcome host peer d
    dsimp only
    generalize (c.note (.refreshing d.uri)).refreshOn host peer d = result at outcome ⊢
    cases outcome with
    | done => exact handed.insert ⟨d, true⟩ _ (fun opened => nomatch opened) rfl rfl
    | closeRefused | openRefused => exact handed.keep (.of_eq rfl rfl)

/-- Whatever is open after a call was handed in by it or before. -/
theorem perform (handed : Handed c last) (connected : c.isStarted = c.active.isSome) (host : Host W P)
    (call : ClientCall P) : Handed (c.perform host call).2 (c.handIn host last call) := by
  cases call with
  | start | restart => exact handed.keep (.restart host connected)
  | stop => exact handed.keep (.stop host connected)
  | openDocument d | changeDocument d => exact handed.syncDocument host d
  | closeDocument uri => exact handed.keep (.closeDocument host uri)
  | refreshDependencies d => exact handed.refreshDependencies host d
  | goalAt uri position =>
    obtain ⟨w, more, asked⟩ := c.goalAt_eq host uri position
    change Handed (c.goalAt host uri position).2 last
    rw [asked]
    exact handed.keep (.of_eq rfl rfl)
  | publish peer event =>
    obtain ⟨w, heard⟩ := c.publish_eq host peer event
    change Handed (c.publish host peer event) last
    rw [heard]
    exact handed.keep (.of_eq rfl rfl)
  | publishedDiagnostics | onRestarted | removeRestarted | onDiagnostics | removeDiagnostics =>
    exact handed.keep (.of_eq rfl rfl)

private theorem run (handed : Handed c last) (settled : Settled c) (host : Host W P) (calls : List (ClientCall P)) :
    Handed (c.run host calls) (handedIn host c last calls) := by
  induction calls generalizing c last with
  | nil => exact handed
  | cons call rest ih => exact ih (handed.perform settled.connected host call) (settled.perform host call)

end Handed

private theorem selects_congr (c : Client W P) {d e : TextDocument} (uri : d.uri = e.uri)
    (language : d.languageId = e.languageId) : c.selects d = c.selects e := by
  cases d
  cases e
  simp only at uri language
  subst uri language
  rfl

/-- The server is told of one change, to the next version of a document, and the table follows. -/
structure Changes (c : Client W P) (peer : P) (d : TextDocument) (known : OpenDocument)
    (result : Except ClientError Bool × Client W P) : Prop where
  value : result.1 = .ok true
  told : result.2.history = c.history ++ [.delivered peer (.changed d.uri (known.version + 1) d.text),
    .changed d.uri (known.version + 1)]
  next : known.version ≠ Int32.maxValue → (known.version + 1).toInt = known.version.toInt + 1
  tracked : result.2.documents.get? d.uri = some ⟨known.languageId, known.version + 1, d.text⟩
  others : ∀ uri, uri ≠ d.uri → result.2.documents.get? uri = c.documents.get? uri

private theorem toInt_succ {version : Int32} (below : version ≠ Int32.maxValue) :
    (version + 1).toInt = version.toInt + 1 := by
  have bound : version.toInt ≠ 0x7FFFFFFF := fun full => below (Int32.toInt_inj.1 full)
  have lower := version.le_toInt
  have upper := version.toInt_lt
  rw [Int32.toInt_add, Int32.toInt_one, Int.bmod_eq_of_le (by omega) (by omega)]

theorem changeDocument_selected (host : Host W P) {id : Nat} {peer : P} (inUse : c.active = some (id, peer))
    {d : TextDocument} {known : OpenDocument} (isOpen : c.documents.get? d.uri = some known)
    (differs : known.text ≠ d.text) (passes : c.selects d = true)
    (accepted : (host.notify peer (.changed d.uri (known.version + 1) d.text) c.world).1 = .ok ()) :
    Changes c peer d known (c.changeDocument host d) := by
  rw [changeDocument, syncDocument_selected host inUse passes, syncOn, isOpen]
  dsimp only
  rw [if_neg differs]
  obtain ⟨w, sent⟩ := notify_accepted host c peer _ accepted
  rw [sent]
  refine ⟨rfl, by simp [note, after], toInt_succ, Table.get?_insert_self _ _ _, fun uri other => ?_⟩
  exact Table.get?_insert_of_ne _ _ other

/-- A document is changed in the language in which it was last handed in. The server is told of it, unless
the document was handed in to be refreshed and the selector does not let it pass: then nothing happens,
though the document is open. -/
theorem changeDocument_tracked (host : Host W P) (settings : ServerSettings) (root : String) (world : W)
    (calls : List (ClientCall P)) (c : Client W P)
    (reached : c = (Client.new settings root world).run host calls) (started : c.isStarted = true)
    (d : TextDocument) (known : OpenDocument) (isOpen : c.documents.get? d.uri = some known)
    (differs : known.text ≠ d.text) : ∃ id peer handing, c.active = some (id, peer) ∧
      handedIn host (.new settings root world) (fun _ => none) calls d.uri = some handing ∧
      (d.languageId = handing.document.languageId →
        (handing.refreshed = false ∨ c.selects handing.document = true →
          (host.notify peer (.changed d.uri (known.version + 1) d.text) c.world).1 = .ok () →
          Changes c peer d known (c.changeDocument host d)) ∧
        (handing.refreshed = true ∧ c.selects handing.document = false →
          c.changeDocument host d = (.ok false, c))) := by
  subst reached
  have settled := (Settled.new settings root world).run host calls
  have empty : Handed (Client.new settings root world : Client W P) fun _ => none := by
    intro uri inside
    contradiction
  have handed := empty.run (.new settings root world) host calls
  generalize (Client.new settings root world).run host calls = c at *
  have present := settled.connected ▸ started
  obtain ⟨⟨id, peer⟩, inUse⟩ := Option.isSome_iff_exists.1 present
  obtain ⟨handing, last, about, passed⟩ := handed d.uri (by rw [isOpen]; rfl)
  refine ⟨id, peer, handing, inUse, last, fun language => ?_⟩
  have same := c.selects_congr about.symm language
  constructor
  · intro lets accepted
    exact changeDocument_selected host inUse isOpen differs (same ▸ lets.elim passed fun selected => selected) accepted
  · rintro ⟨-, stops⟩
    have connected : c.peer? = .ok peer := by rw [peer?, inUse]
    rw [changeDocument, syncDocument, connected]
    exact if_neg (by rw [same, stops]; simp)

def annotated : List (ClientCall Nat) :=
  [.start, .openDocument ⟨"file:///a.lean", "lean4", 1, "a"⟩,
    .changeDocument ⟨"file:///a.lean", "lean4", 2, "b"⟩,
    .refreshDependencies ⟨"file:///notes.txt", "plaintext", 1, "n"⟩]

def annotating : Client Rehearsal.World Nat :=
  (Client.new .default "/work" .new).run Rehearsal.host annotated

theorem changeDocument_tracked_annotating :
    annotating.isStarted = true ∧
    annotating.documents = [("file:///a.lean", ⟨"lean4", 2, "b"⟩), ("file:///notes.txt", ⟨"lean4", 1, "n"⟩)] ∧
    Changes annotating 0 ⟨"file:///a.lean", "lean4", 3, "c"⟩ ⟨"lean4", 2, "b"⟩
      (annotating.changeDocument Rehearsal.host ⟨"file:///a.lean", "lean4", 3, "c"⟩) ∧
    annotating.changeDocument Rehearsal.host ⟨"file:///notes.txt", "plaintext", 2, "m"⟩ =
      (.ok false, annotating) := by
  have started : annotating.isStarted = true := by decide
  have documents : annotating.documents =
    [("file:///a.lean", ⟨"lean4", 2, "b"⟩), ("file:///notes.txt", ⟨"lean4", 1, "n"⟩)] := by decide
  have lean : handedIn Rehearsal.host (.new .default "/work" .new) (fun _ => none) annotated "file:///a.lean" =
    some ⟨⟨"file:///a.lean", "lean4", 2, "b"⟩, false⟩ := by decide
  have plain : handedIn Rehearsal.host (.new .default "/work" .new) (fun _ => none) annotated "file:///notes.txt" =
    some ⟨⟨"file:///notes.txt", "plaintext", 1, "n"⟩, true⟩ := by decide
  obtain ⟨id, peer, handing, inUse, last, law⟩ := changeDocument_tracked Rehearsal.host .default "/work" .new
    annotated annotating rfl started ⟨"file:///a.lean", "lean4", 3, "c"⟩ ⟨"lean4", 2, "b"⟩ (by decide) (by decide)
  obtain ⟨_, _, other, _, lastPlain, lawPlain⟩ := changeDocument_tracked Rehearsal.host .default "/work" .new
    annotated annotating rfl started ⟨"file:///notes.txt", "plaintext", 2, "m"⟩ ⟨"lean4", 1, "n"⟩ (by decide)
    (by decide)
  obtain rfl : peer = 0 := by
    have number : annotating.active = some (1, 0) := by decide
    simpa using congrArg (Option.map Prod.snd) (inUse.symm.trans number)
  obtain rfl := Option.some.inj (lean.symm.trans last)
  obtain rfl := Option.some.inj (plain.symm.trans lastPlain)
  exact ⟨started, documents, (law rfl).1 (.inl rfl) (by decide), (lawPlain rfl).2 (by decide)⟩

/-- A document that was refreshed and is open stays as it is when it is changed. -/
theorem refreshed_unchanged :
    ¬∀ (calls : List (ClientCall Nat)) (c : Client Rehearsal.World Nat) (id peer : Nat) (d : TextDocument)
      (known : OpenDocument) (handing : Handing), c = (Client.new .default "/work" .new).run Rehearsal.host calls →
      c.active = some (id, peer) → c.documents.get? d.uri = some known → known.text ≠ d.text →
      handedIn Rehearsal.host (.new .default "/work" .new) (fun _ => none) calls d.uri = some handing →
      d.languageId = handing.document.languageId →
      (Rehearsal.host.notify peer (.changed d.uri (known.version + 1) d.text) c.world).1 = .ok () →
      (c.changeDocument Rehearsal.host d).1 = .ok true := by
  intro always
  have changed := always [.start, .refreshDependencies ⟨"file:///notes.txt", "plaintext", 1, "a"⟩] _ 1 0
    ⟨"file:///notes.txt", "plaintext", 2, "b"⟩ ⟨"lean4", 1, "a"⟩
    ⟨⟨"file:///notes.txt", "plaintext", 1, "a"⟩, true⟩ rfl (by decide) (by decide) (by decide) (by decide) rfl
    (by decide)
  have kept : (((Client.new .default "/work" .new).run Rehearsal.host [.start,
      .refreshDependencies ⟨"file:///notes.txt", "plaintext", 1, "a"⟩]).changeDocument Rehearsal.host
        ⟨"file:///notes.txt", "plaintext", 2, "b"⟩).1 = .ok false := by decide
  rw [kept] at changed
  cases changed

end Client
end LanguageClient
