import HttpTemplate.Proofs.Agent
import HttpTemplate.Proofs.Text.Split
import Mathlib.Logic.Relation

/-! The files of a request that is sent. They are opened one by one, up to the first that cannot be
opened; only if there is none is the request handed over, with the contents of all. Whatever comes
of it, the files that are open are closed again, the last one first. The steps of a call know of
each moment which files are open, and an exchange is where they lead. -/

namespace HttpTemplate.Uploads

open Agent Network Relation

def Readable (m : Machine) (a : Attachment) : Prop := ∃ content, m.read a.path = .ok content

/-- The name is what comes after the last slash of the path, or all of a path without any. -/
def IsBaseName (path name : String) : Prop :=
  '/' ∉ name.toList ∧ (path = name ∨ ∃ directory, path = directory ++ "/" ++ name)

structure Carries (m : Machine) (a : Attachment) (u : Upload) : Prop where
  field : u.field = a.field
  name : IsBaseName a.path u.name
  content : m.read a.path = .ok u.content

/-- The files that are open after the events, the last one first, if files are closed in this
order only. -/
def openAfter : List String → List FileEvent → Option (List String)
  | paths, [] => some paths
  | paths, .opened path :: events => openAfter (path :: paths) events
  | path :: paths, .closed p :: events => if p = path then openAfter paths events else none
  | [], .closed _ :: _ => none

def openedPath? : FileEvent → Option String
  | .opened path => some path
  | .closed _ => none

inductive Phase where
  | opening (waiting : List Attachment) (uploads : List Upload)
  | leaving (e : Exchange)

structure Call where
  phase : Phase
  stack : List String := []
  events : List FileEvent := []

/-- One step of a call that hands its uploads over. Once it is settled, by a file that cannot be
opened or by the network, all that it does is to close the last of the open files. -/
inductive Step (m : Machine) (hand : List Upload → Exchange) : Call → Call → Prop
  | opens {a : Attachment} {waiting : List Attachment} {uploads : List Upload}
      {stack : List String} {events : List FileEvent} {content : List UInt8} :
      m.read a.path = .ok content →
      Step m hand ⟨.opening (a :: waiting) uploads, stack, events⟩
        ⟨.opening waiting (uploads ++ [⟨a.field, baseName a.path, content⟩]), a.path :: stack,
          events ++ [.opened a.path]⟩
  | fails {a : Attachment} {waiting : List Attachment} {uploads : List Upload}
      {stack : List String} {events : List FileEvent} {f : FileFault} :
      m.read a.path = .error f →
      Step m hand ⟨.opening (a :: waiting) uploads, stack, events⟩
        ⟨.leaving { result := .error (.file f) }, stack, events⟩
  | hands {uploads : List Upload} {stack : List String} {events : List FileEvent} :
      Step m hand ⟨.opening [] uploads, stack, events⟩ ⟨.leaving (hand uploads), stack, events⟩
  | closes {e : Exchange} {path : String} {stack : List String} {events : List FileEvent} :
      Step m hand ⟨.leaving e, path :: stack, events⟩
        ⟨.leaving e, stack, events ++ [.closed path]⟩

def settled (hand : List Upload → Exchange) : Except FileFault (List Upload) → Exchange
  | .ok uploads => hand uploads
  | .error f => { result := .error (.file f) }

abbrev Runs (m : Machine) (hand : List Upload → Exchange) : Call → Call → Prop :=
  ReflTransGen (Step m hand)

/-- What comes of opening files: the uploads, or the fault of the first that cannot be opened. The
paths are those of the files that have been opened. -/
inductive Opens (m : Machine) :
    List Attachment → List String × Except FileFault (List Upload) → Prop
  | all {files : List Attachment} {uploads : List Upload} :
      List.Forall₂ (Carries m) files uploads → Opens m files (files.map (·.path), .ok uploads)
  | upTo {before after : List Attachment} {a : Attachment} {f : FileFault} :
      (∀ b ∈ before, Readable m b) → m.read a.path = .error f →
      Opens m (before ++ a :: after) (before.map (·.path), .error f)

structure Handles (m : Machine) (r : Outgoing) (e : Exchange) : Prop where
  sent_iff : e.sent.isSome = true ↔ ∀ a ∈ r.files, Readable m a
  sends : ∀ message, e.sent = some message →
    e.files.filterMap openedPath? = r.files.map (·.path) ∧
      ∃ uploads, message.cargo = .form (formFields r) uploads ∧
        List.Forall₂ (Carries m) r.files uploads
  fails : e.sent = none →
    ∃ before a after f, r.files = before ++ a :: after ∧ (∀ b ∈ before, Readable m b) ∧
      m.read a.path = .error f ∧ e.files.filterMap openedPath? = before.map (·.path) ∧
      e.chunksRead = 0 ∧ e.result = .error (.file f)

section Opening

variable {m : Machine}

lemma isBaseName_baseName (path : String) : IsBaseName path (baseName path) := by
  rcases Text.splitLast_cases '/' path.toList with ⟨hnone, hsplit⟩ | ⟨t, p, hpath, hp, hsplit⟩
  · have hname : baseName path = path := by rw [baseName, hsplit, String.ofList_toList]
    rw [hname]
    exact ⟨hnone, .inl rfl⟩
  · have hname : baseName path = String.ofList p := by rw [baseName, hsplit]
    refine ⟨by simpa [hname] using hp, .inr ⟨String.ofList t, ?_⟩⟩
    rw [hname, ← String.toList_inj, hpath]
    simp

lemma opens_openFiles (m : Machine) (files : List Attachment) :
    Opens m files (openFiles m files) := by
  induction files with
  | nil => exact .all .nil
  | cons a files ih =>
    rw [openFiles]
    cases hread : m.read a.path with
    | error f => exact @Opens.upTo _ [] _ _ _ (List.forall_mem_nil _) hread
    | ok content =>
      generalize openFiles m files = result at ih ⊢
      cases ih with
      | all huploads => exact .all (.cons ⟨rfl, isBaseName_baseName a.path, hread⟩ huploads)
      | @upTo before _ _ _ hbefore hfault =>
        exact @Opens.upTo _ (a :: before) _ _ _
          (List.forall_mem_cons.mpr ⟨⟨content, hread⟩, hbefore⟩) hfault

lemma readable_of_carries {files : List Attachment} {uploads : List Upload}
    (h : List.Forall₂ (Carries m) files uploads) : ∀ a ∈ files, Readable m a := by
  induction h with
  | nil => exact List.forall_mem_nil _
  | cons hfirst _ ih => exact List.forall_mem_cons.mpr ⟨⟨_, hfirst.content⟩, ih⟩

lemma not_readable {a : Attachment} {f : FileFault} (h : m.read a.path = .error f) :
    ¬ Readable m a := by
  rintro ⟨content, hread⟩
  cases h.symm.trans hread

end Opening

section Events

lemma openAfter_append (stack : List String) (before after : List FileEvent) :
    openAfter stack (before ++ after) =
      (openAfter stack before).bind fun paths => openAfter paths after := by
  induction before generalizing stack with
  | nil => rfl
  | cons event before ih =>
    cases event with
    | opened path => exact ih (path :: stack)
    | closed p =>
      cases stack with
      | nil => rfl
      | cons path stack =>
        rw [List.cons_append, openAfter, openAfter]
        split
        · exact ih stack
        · rfl

def events (paths : List String) : List FileEvent :=
  paths.map .opened ++ paths.reverse.map .closed

lemma openedPaths_events (paths : List String) : (events paths).filterMap openedPath? = paths := by
  have hopened : paths.filterMap (openedPath? ∘ .opened) = paths := List.filterMap_some
  have hclosed : paths.reverse.filterMap (openedPath? ∘ .closed) = [] := by
    simp [Function.comp_def, openedPath?]
  rw [events, List.filterMap_append, List.filterMap_map, List.filterMap_map, hopened, hclosed,
    List.append_nil]

end Events

section Steps

variable {m : Machine} {hand : List Upload → Exchange} {c d : Call}

lemma step_openAfter (h : Step m hand c d) (hc : openAfter [] c.events = some c.stack) :
    openAfter [] d.events = some d.stack := by
  cases h with
  | opens => rw [openAfter_append, hc]; rfl
  | fails => exact hc
  | hands => exact hc
  | closes =>
    rw [openAfter_append, hc]
    exact if_pos rfl

lemma run_openAfter (h : Runs m hand c d) (hc : openAfter [] c.events = some c.stack) :
    openAfter [] d.events = some d.stack := by
  induction h with
  | refl => exact hc
  | tail _ hstep ih => exact step_openAfter hstep ih

lemma run_opening (files : List Attachment) (uploads : List Upload) (stack : List String)
    (events : List FileEvent) :
    Runs m hand ⟨.opening files uploads, stack, events⟩
      ⟨.leaving (settled hand ((openFiles m files).2.map (uploads ++ ·))),
        (openFiles m files).1.reverse ++ stack,
        events ++ (openFiles m files).1.map .opened⟩ := by
  induction files generalizing uploads stack events with
  | nil => exact .single (by simpa [openFiles, Except.map, settled] using .hands)
  | cons a files ih =>
    cases hread : m.read a.path with
    | error f => exact .single (by simpa [openFiles, hread, Except.map, settled] using .fails hread)
    | ok content =>
      -- the rest runs with one more upload and one more file on the stack
      have hrest := ih (uploads ++ [⟨a.field, baseName a.path, content⟩]) (a.path :: stack)
        (events ++ [.opened a.path])
      rw [openFiles, hread]
      refine .head (.opens hread) ?_
      generalize openFiles m files = result at hrest ⊢
      obtain ⟨paths, new⟩ := result
      cases new <;> simpa [Except.map] using hrest

lemma run_leaving (e : Exchange) (stack : List String) (events : List FileEvent) :
    Runs m hand ⟨.leaving e, stack, events⟩ ⟨.leaving e, [], events ++ stack.map .closed⟩ := by
  induction stack generalizing events with
  | nil => rw [List.map_nil, List.append_nil]
  | cons path stack ih =>
    have hrest := ih (events ++ [.closed path])
    rw [List.append_assoc] at hrest
    exact .head .closes hrest

end Steps

section Calls

variable {r : Outgoing}

def handing (s : Settings) (m : Machine) (peer : Peer) (r : Outgoing) (headers : Table)
    (uploads : List Upload) : Exchange :=
  exchangeWith s m peer r headers (.form (formFields r) uploads)

lemma exchange_eq (s : Settings) (m : Machine) (peer : Peer) (headers : Table)
    (hr : r.isMultipart = true) : exchange s m peer r headers =
      { settled (handing s m peer r headers) (openFiles m r.files).2 with
        files := events (openFiles m r.files).1 } := by
  rw [exchange, if_pos hr]
  obtain ⟨paths, result⟩ := openFiles m r.files
  cases result <;> rfl

lemma exchange_runs (s : Settings) (m : Machine) (peer : Peer) (headers : Table)
    (hr : r.isMultipart = true) :
    Runs m (handing s m peer r headers) ⟨.opening r.files [], [], []⟩
      ⟨.leaving { exchange s m peer r headers with files := [] }, [],
        (exchange s m peer r headers).files⟩ := by
  have hopening := @run_opening m (handing s m peer r headers) r.files [] [] []
  rw [exchange_eq s m peer headers hr]
  generalize openFiles m r.files = result at hopening ⊢
  obtain ⟨paths, uploads⟩ := result
  rw [List.append_nil, List.nil_append] at hopening
  refine ReflTransGen.trans ?_ (run_leaving _ paths.reverse (paths.map .opened))
  cases uploads <;> exact hopening

lemma exchange_handles (s : Settings) (m : Machine) (peer : Peer) (headers : Table)
    (hr : r.isMultipart = true) : Handles m r (exchange s m peer r headers) := by
  rw [exchange_eq s m peer headers hr]
  have hopens := opens_openFiles m r.files
  -- the files are of no fixed form, unless they have a name of their own
  generalize hfiles : r.files = files at hopens
  generalize openFiles m files = result at hopens
  cases hopens with
  | @all _ uploads huploads =>
    subst hfiles
    refine ⟨?_, ?_, ?_⟩
    · exact iff_of_true rfl (readable_of_carries huploads)
    · rintro message ⟨⟩
      exact ⟨openedPaths_events _, uploads, rfl, huploads⟩
    · rintro ⟨⟩
  | @upTo before after a f hbefore hfault =>
    refine ⟨?_, ?_, ?_⟩
    · refine iff_of_false (by simp [settled]) fun hall => not_readable hfault (hall a ?_)
      rw [hfiles]
      exact List.mem_append_right _ List.mem_cons_self
    · rintro message ⟨⟩
    · exact fun _ => ⟨before, a, after, f, hfiles, hbefore, hfault, openedPaths_events _, rfl, rfl⟩

end Calls

theorem request_handles_files (s : Settings) (m : Machine) (peer : Peer) (r : Outgoing)
    (hr : r.isMultipart = true) :
    (∀ own, ownHeaders r = .ok own →
      Handles m r (request s m peer r) ∧
      Runs m (handing s m peer r (withAgent s own)) ⟨.opening r.files [], [], []⟩
        ⟨.leaving { request s m peer r with files := [] }, [], (request s m peer r).files⟩) ∧
    (∀ cause, ownHeaders r = .error cause →
      request s m peer r = { result := .error (.misuse cause) }) ∧
    openAfter [] (request s m peer r).files = some [] := by
  have hrequest : ∀ own, ownHeaders r = .ok own →
      request s m peer r = exchange s m peer r (withAgent s own) := by
    intro own hown
    rw [request, headers_eq, hown]
    rfl
  have hrefused : ∀ cause, ownHeaders r = .error cause →
      request s m peer r = { result := .error (.misuse cause) } := by
    intro cause hcause
    rw [request, headers_eq, hcause]
    rfl
  refine ⟨fun own hown => ?_, hrefused, ?_⟩
  · rw [hrequest own hown]
    exact ⟨exchange_handles s m peer _ hr, exchange_runs s m peer _ hr⟩
  · cases hown : ownHeaders r with
    | ok own =>
      rw [hrequest own hown]
      exact run_openAfter (exchange_runs s m peer _ hr) rfl
    | error cause =>
      rw [hrefused cause hown]
      rfl

def shelf : Machine :=
  FileSystem.machine ⟨[("up/a.txt", some [0x68, 0x69]), ("b", some [])]⟩

def parcel (paths : List String) : Outgoing where
  url := .str "http://a.test/"
  files := paths.map fun path => ⟨path, path⟩

def refusing : Peer := { refusal := some (.foreign ⟨"ConnectError", none⟩), url := "" }

def answering : Peer := { chunks := [[1, 2, 3], [4, 5]], url := "" }

def tight : Settings := { timeout := .int 10, maxBodyBytes := 4 }

theorem request_handles_shelf :
    let twice := parcel ["up/a.txt", "b", "up/a.txt"]
    let torn := parcel ["up/a.txt", "c", "b"]
    let refused := request tight shelf refusing twice
    let exceeded := request tight shelf answering twice
    let failed := request tight shelf answering torn
    twice.isMultipart = true ∧ torn.isMultipart = true ∧
      (Handles shelf twice refused ∧ refused.sent.isSome = true ∧
        openAfter [] refused.files = some []) ∧
      (Handles shelf twice exceeded ∧ exceeded.chunksRead = 2 ∧
        openAfter [] exceeded.files = some []) ∧
      Handles shelf torn failed ∧ failed.sent.isSome = false ∧
        failed.files = [.opened "up/a.txt", .closed "up/a.txt"] := by
  intro twice torn refused exceeded failed
  obtain ⟨hrefused, -, hrefusedClosed⟩ := request_handles_files tight shelf refusing twice rfl
  obtain ⟨hexceeded, -, hexceededClosed⟩ := request_handles_files tight shelf answering twice rfl
  obtain ⟨hfailed, -, -⟩ := request_handles_files tight shelf answering torn rfl
  exact ⟨rfl, rfl, ⟨(hrefused [] rfl).1, by decide +kernel, hrefusedClosed⟩,
    ⟨(hexceeded [] rfl).1, by decide +kernel, hexceededClosed⟩, (hfailed [] rfl).1,
    by decide +kernel, by decide +kernel⟩

end HttpTemplate.Uploads
