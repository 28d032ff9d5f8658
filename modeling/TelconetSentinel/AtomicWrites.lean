import TelconetSentinel.Library.Interaction

namespace TelconetSentinel.AtomicWrites

open Interaction

inductive FileCall
  | isSymlink (path : String)
  | makeParents (path : String)
  | namedTemporaryFile (path : String)
  | write (file text : String)
  | flush (file : String)
  | fsync (file : String)
  | close (file : String)
  | replace (file path : String)
  | unlink (file : String)
  deriving DecidableEq

def FileCall.Answer : FileCall → Type
  | isSymlink _ => Bool
  | namedTemporaryFile _ => String
  | makeParents _ | write _ _ | flush _ | fsync _ | close _ | replace _ _ | unlink _ => Unit

inductive FileError
  | valueError (message : String)
  | osError (message : String)
  deriving DecidableEq

abbrev FileProgram (α : Type) := Program FileCall FileCall.Answer FileError α

abbrev FileEvent := Event FileCall FileCall.Answer FileError

def ask (c : FileCall) : FileProgram c.Answer := .perform c

section Writers

def fill (file : String) (synced : Bool) : List String → FileProgram Unit
  | piece :: pieces => do
    ask (.write file piece)
    fill file synced pieces
  | [] =>
    if synced then do
      ask (.flush file)
      ask (.fsync file)
    else pure ()

/-- A body that raises has not kept the name, so that the file is closed and not unlinked. -/
def writeTemporary (path : String) (synced : Bool) (pieces : List String) : FileProgram Unit := do
  let file : String ← ask (.namedTemporaryFile path)
  (fill file synced pieces).onError (ask (.close file))
  Program.tryFinally (do
    ask (.close file)
    ask (.replace file path)) (ask (.unlink file))

def refuseSymlink (path message : String) : FileProgram Unit := do
  let symlink : Bool ← ask (.isSymlink path)
  if symlink then .raise (.valueError message) else return

variable (path : String)

/-- Of `runtime_resilience`, with the text of the document. -/
def writeJson (content : String) : FileProgram Unit := do
  refuseSymlink path "output must not be a symlink"
  ask (.makeParents path)
  writeTemporary path true [content]

/-- Of `evidence_manifest`, with the text of the manifest. -/
def writeManifest (content : String) : FileProgram Unit := do
  refuseSymlink path "evidence manifest output must not be a symlink"
  ask (.makeParents path)
  writeTemporary path true [content]

/-- Of `runtime_conformance`, with the pieces in which `json.dump` writes the evidence. -/
def writeEvidence (pieces : List String) : FileProgram Unit := do
  ask (.makeParents path)
  refuseSymlink path "output must not be a symbolic link"
  writeTemporary path false (pieces ++ ["\n"])

def writeReport (report : String) : FileProgram Unit := do
  ask (.makeParents path)
  refuseSymlink path "output must not be a symbolic link"
  writeTemporary path false [report]

end Writers

section Disk

structure Disk where
  files : String → Option String
  written : String → String

def Disk.set (disk : Disk) (file : String) (text : Option String) : Disk :=
  { disk with files := Function.update disk.files file text }

theorem Disk.set_files (disk : Disk) (file : String) (text : Option String) :
    (disk.set file text).files = Function.update disk.files file text := rfl

def Buffered (disk : Disk) (file text : String) (disk' : Disk) : Prop :=
  ∃ kept, kept <+: text.toList ∧
    disk' = ⟨Function.update disk.files file (some (String.ofList kept)),
      Function.update disk.written file text⟩

/-- What a call does to the files. One that raises may have written a part. -/
def Effect (disk : Disk) (event : FileEvent) (disk' : Disk) : Prop :=
  match event with
  | ⟨.isSymlink _, _⟩ | ⟨.makeParents _, _⟩ | ⟨.fsync _, _⟩ => disk' = disk
  | ⟨.namedTemporaryFile path, .ok file⟩ =>
    disk.files file = none ∧ file ≠ path ∧
      disk' = ⟨Function.update disk.files file (some ""), Function.update disk.written file ""⟩
  | ⟨.namedTemporaryFile _, .error _⟩ => disk' = disk
  | ⟨.write file text, .ok _⟩ => Buffered disk file (disk.written file ++ text) disk'
  | ⟨.write file text, .error _⟩ =>
    ∃ part, part <+: text.toList ∧ Buffered disk file (disk.written file ++ String.ofList part) disk'
  | ⟨.flush file, .ok _⟩ | ⟨.close file, .ok _⟩ => disk' = disk.set file (some (disk.written file))
  | ⟨.flush file, .error _⟩ | ⟨.close file, .error _⟩ => Buffered disk file (disk.written file) disk'
  | ⟨.replace file path, .ok _⟩ => disk' = (disk.set path (disk.files file)).set file none
  | ⟨.replace _ _, .error _⟩ => disk' = disk
  | ⟨.unlink file, .ok _⟩ => disk' = disk.set file none
  | ⟨.unlink _, .error _⟩ => disk' = disk

def Reaches : Disk → List FileEvent → Disk → Prop
  | disk, [], disk' => disk' = disk
  | disk, event :: history, last => ∃ next, Effect disk event next ∧ Reaches next history last

theorem reaches_concat {disk last : Disk} {history : List FileEvent} {event : FileEvent} :
    Reaches disk (history ++ [event]) last ↔ ∃ next, Reaches disk history next ∧ Effect next event last := by
  induction history generalizing disk with
  | nil => simp [Reaches]
  | cons first history ih =>
    simp only [List.cons_append, Reaches, ih]
    constructor
    · rintro ⟨second, hfirst, next, hrest, hlast⟩
      exact ⟨next, ⟨second, hfirst, hrest⟩, hlast⟩
    · rintro ⟨next, ⟨second, hfirst, hrest⟩, hlast⟩
      exact ⟨second, hfirst, next, hrest, hlast⟩

end Disk

section Phases

variable {start disk disk' : Disk} {history : List FileEvent} {path file content : String} {event : FileEvent}

def Always (start : Disk) (history : List FileEvent) (holds : Disk → Prop) : Prop :=
  ∀ disk, Reaches start history disk → holds disk

theorem Always.step {holds holds' : Disk → Prop} (h : Always start history holds)
    (hstep : ∀ disk disk', holds disk → Effect disk event disk' → holds' disk') :
    Always start (history ++ [event]) holds' := by
  intro disk' hreaches
  obtain ⟨disk, hdisk, heffect⟩ := reaches_concat.mp hreaches
  exact hstep disk disk' (h disk hdisk) heffect

theorem Always.mono {holds holds' : Disk → Prop} (h : Always start history holds)
    (himp : ∀ disk, holds disk → holds' disk) : Always start history holds' :=
  fun disk hreaches => himp disk (h disk hreaches)

/-- The target has its old or its whole new content, and no other file has changed but one that is new. -/
structure Safe (start : Disk) (path content : String) (disk : Disk) : Prop where
  target : disk.files path = start.files path ∨ disk.files path = some content
  existing : ∀ p, p ≠ path → start.files p ≠ none → disk.files p = start.files p
  added : ∃ file, ∀ p, p ≠ path → p ≠ file → disk.files p = start.files p

def Untouched (start disk : Disk) : Prop := disk.files = start.files

structure Aside (start : Disk) (path file : String) (disk : Disk) : Prop where
  fresh : start.files file = none
  ne : file ≠ path
  others : ∀ p, p ≠ file → disk.files p = start.files p

def Writing (start : Disk) (path file text : String) (disk : Disk) : Prop :=
  Aside start path file disk ∧ disk.written file = text

structure Published (start : Disk) (path file content : String) (disk : Disk) : Prop where
  fresh : start.files file = none
  ne : file ≠ path
  target : disk.files path = some content
  others : ∀ p, p ≠ path → disk.files p = start.files p

theorem Untouched.safe (h : Untouched start disk) : Safe start path content disk := by
  unfold Untouched at h
  exact ⟨Or.inl (by rw [h]), fun p _ _ => by rw [h], path, fun p _ _ => by rw [h]⟩

theorem Aside.safe (h : Aside start path file disk) : Safe start path content disk := by
  refine ⟨Or.inl (h.others path h.ne.symm), fun p _ hp => h.others p ?_, file, fun p _ hp => h.others p hp⟩
  rintro rfl
  exact hp h.fresh

theorem Published.safe (h : Published start path file content disk) : Safe start path content disk :=
  ⟨Or.inr h.target, fun p hp _ => h.others p hp, path, fun p hp _ => h.others p hp⟩

def FileCall.On (file : String) : FileCall → Prop
  | write f _ | flush f | fsync f | close f | unlink f => f = file
  | _ => False

theorem effect_on {c : FileCall} (hc : c.On file) {answer : Except FileError c.Answer}
    (h : Effect disk ⟨c, answer⟩ disk') {p : String} (hp : p ≠ file) : disk'.files p = disk.files p := by
  cases c with
  | isSymlink | makeParents | namedTemporaryFile | replace => exact hc.elim
  | fsync => rw [show disk' = disk from h]
  | write =>
    obtain rfl := hc
    cases answer with
    | ok =>
      obtain ⟨kept, -, rfl⟩ := h
      exact Function.update_of_ne hp _ _
    | error =>
      obtain ⟨part, -, kept, -, rfl⟩ := h
      exact Function.update_of_ne hp _ _
  | flush | close =>
    obtain rfl := hc
    cases answer with
    | ok =>
      obtain rfl := h
      exact Function.update_of_ne hp _ _
    | error =>
      obtain ⟨kept, -, rfl⟩ := h
      exact Function.update_of_ne hp _ _
  | unlink =>
    obtain rfl := hc
    cases answer with
    | ok =>
      obtain rfl := h
      exact Function.update_of_ne hp _ _
    | error => rw [show disk' = disk from h]

theorem Aside.on {c : FileCall} (h : Aside start path file disk) (hc : c.On file)
    {answer : Except FileError c.Answer} (heffect : Effect disk ⟨c, answer⟩ disk') :
    Aside start path file disk' :=
  ⟨h.fresh, h.ne, fun p hp => (effect_on hc heffect hp).trans (h.others p hp)⟩

theorem Always.on {c : FileCall} (h : Always start history (Aside start path file)) (hc : c.On file)
    (answer : Except FileError c.Answer) : Always start (history ++ [⟨c, answer⟩]) (Aside start path file) :=
  h.step fun _ _ haside heffect => haside.on hc heffect

end Phases

section Rules

variable {start : Disk} {history : List FileEvent} {path file text content : String}

def FileCall.Fills : FileCall → Prop
  | write _ _ | flush _ | fsync _ => True
  | _ => False

def FillRaised (history : List FileEvent) : Prop :=
  ∃ c : FileCall, c.Fills ∧ ∃ e, (⟨c, .error e⟩ : FileEvent) ∈ history

def UnlinkRaised (history : List FileEvent) : Prop := ∃ file e, (⟨.unlink file, .error e⟩ : FileEvent) ∈
    history

def Ended (start : Disk) (path content : String) (history : List FileEvent) : Except FileError Unit → Prop
  | .ok _ =>
    Always start history fun disk => disk.files path = some content ∧ ∀ p, p ≠ path →
      disk.files p = start.files p
  | .error _ => Always start history (Untouched start) ∨
    Always start history (fun disk => disk.files path = start.files path) ∧ FillRaised history ∨
    UnlinkRaised history

def Filled (start : Disk) (path file text : String) (history : List FileEvent) : Except FileError Unit → Prop
  | .ok _ => Always start history (Writing start path file text)
  | .error _ => Always start history (Aside start path file) ∧ FillRaised history

theorem fillRaised_concat {c : FileCall} (hc : c.Fills) (e : FileError) :
    FillRaised (history ++ [⟨c, .error e⟩]) :=
  ⟨c, hc, e, List.mem_append_right _ (List.mem_singleton_self _)⟩

theorem Always.safe (h : Always start history (Aside start path file)) :
    Always start history (Safe start path content) :=
  h.mono fun _ haside => haside.safe

theorem Always.safe_of_untouched (h : Always start history (Untouched start)) :
    Always start history (Safe start path content) :=
  h.mono fun _ huntouched => huntouched.safe

theorem fill_meets {pieces : List String} (synced : Bool)
    (h : Always start history (Writing start path file text)) :
    Meets history (fill file synced pieces) (fun history => Always start history (Safe start path content))
      (Filled start path file (pieces.foldl (· ++ ·) text)) := by
  have haside : Always start history (Aside start path file) := h.mono fun _ hwriting => hwriting.1
  induction pieces generalizing history text with
  | cons piece pieces ih =>
    have hwritten := fun answer => haside.on (c := .write file piece) rfl answer
    refine meets_ask haside.safe (fun answer => (hwritten answer).safe)
      (fun e => ⟨hwritten _, fillRaised_concat (c := .write file piece) trivial e⟩) fun done => ?_
    have hnext : Always start (history ++ [⟨.write file piece, .ok done⟩])
        (Writing start path file (text ++ piece)) := by
      refine h.step fun disk disk' hwriting heffect =>
        ⟨hwriting.1.on (c := .write file piece) rfl heffect, ?_⟩
      obtain ⟨kept, -, rfl⟩ := heffect
      rw [← hwriting.2]
      exact Function.update_self _ _ _
    exact ih hnext (hwritten _)
  | nil =>
    cases synced with
    | false => exact meets_done haside.safe h
    | true =>
      have hflushed := fun answer => haside.on (c := .flush file) rfl answer
      refine meets_ask haside.safe (fun answer => (hflushed answer).safe)
        (fun e => ⟨hflushed _, fillRaised_concat (c := .flush file) trivial e⟩) fun done => ?_
      have hnext : Always start (history ++ [⟨.flush file, .ok done⟩]) (Writing start path file text) := by
        refine h.step fun disk disk' hwriting heffect => ⟨hwriting.1.on (c := .flush file) rfl heffect, ?_⟩
        obtain rfl := heffect
        exact hwriting.2
      have hsynced := fun answer => (hflushed (.ok done)).on (c := .fsync file) rfl answer
      refine meets_perform (hflushed _).safe fun answer => ⟨(hsynced answer).safe, ?_⟩
      cases answer with
      | ok => exact hnext.step fun disk disk' hwriting heffect => (show disk' = disk from heffect) ▸ hwriting
      | error e => exact ⟨hsynced _, fillRaised_concat (c := .fsync file) trivial e⟩

end Rules

section Writes

variable {start : Disk} {history : List FileEvent} {path content : String}

theorem Published.of_replace {file : String} {disk : Disk} (h : Aside start path file disk)
    (hfile : disk.files file = some content) :
    Published start path file content ((disk.set path (disk.files file)).set file none) := by
  refine ⟨h.fresh, h.ne, ?_, fun p hp => ?_⟩
  · rw [Disk.set_files, Function.update_of_ne h.ne.symm, Disk.set_files, Function.update_self, hfile]
  · by_cases hpf : p = file
    · rw [hpf, Disk.set_files, Function.update_self, h.fresh]
    · rw [Disk.set_files, Function.update_of_ne hpf, Disk.set_files, Function.update_of_ne hp, h.others p hpf]

def Replaced (start : Disk) (path file content : String) (history : List FileEvent) : Except FileError Unit →
    Prop
  | .ok _ => Always start history (Published start path file content)
  | .error _ => Always start history (Aside start path file)

theorem replace_meets {file : String} (h : Always start history (Writing start path file content)) :
    Meets history (ask (.close file) >>= fun _ => ask (.replace file path))
      (fun history => Always start history (Safe start path content)) (Replaced start path file content) := by
  have haside : Always start history (Aside start path file) := h.mono fun _ hwriting => hwriting.1
  have hclosed := fun answer => haside.on (c := .close file) rfl answer
  refine meets_ask haside.safe (fun answer => (hclosed answer).safe) (fun e => hclosed _) fun done => ?_
  have hwhole : Always start (history ++ [⟨.close file, .ok done⟩])
      (fun disk => Aside start path file disk ∧ disk.files file = some content) := by
    refine h.step fun disk disk' hwriting heffect => ⟨hwriting.1.on (c := .close file) rfl heffect, ?_⟩
    obtain rfl := heffect
    rw [← hwriting.2]
    exact Function.update_self _ _ _
  refine meets_perform (hclosed _).safe fun answer => ?_
  cases answer with
  | ok =>
    have hpublished : Always start (history ++ [⟨.close file, .ok done⟩] ++ [⟨.replace file path, .ok ()⟩])
        (Published start path file content) :=
      hwhole.step fun disk disk' hdisk heffect =>
        (show disk' = _ from heffect) ▸ Published.of_replace hdisk.1 hdisk.2
    exact ⟨hpublished.mono fun _ hpublished => hpublished.safe, hpublished⟩
  | error e =>
    have hkept : Always start (history ++ [⟨.close file, .ok done⟩] ++ [⟨.replace file path, .error e⟩])
        (Aside start path file) :=
      hwhole.step fun disk disk' hdisk heffect => (show disk' = disk from heffect) ▸ hdisk.1
    exact ⟨hkept.safe, hkept⟩

theorem Aside.unlinked {file : String} {disk : Disk} (h : Aside start path file disk) :
    Untouched start (disk.set file none) := by
  funext p
  by_cases hp : p = file
  · rw [hp, Disk.set_files, Function.update_self, h.fresh]
  · rw [Disk.set_files, Function.update_of_ne hp, h.others p hp]

theorem Published.unlinked {file : String} {disk : Disk} (h : Published start path file content disk) :
    Published start path file content (disk.set file none) := by
  refine ⟨h.fresh, h.ne, ?_, fun p hp => ?_⟩
  · rw [Disk.set_files, Function.update_of_ne h.ne.symm, h.target]
  · by_cases hpf : p = file
    · rw [hpf, Disk.set_files, Function.update_self, h.fresh]
    · rw [Disk.set_files, Function.update_of_ne hpf, h.others p hp]

theorem unlink_meets {file : String} {result : Except FileError Unit}
    (h : Replaced start path file content history result) :
    Meets history (ask (.unlink file)) (fun history => Always start history (Safe start path content))
      fun history done => Ended start path content history (done.bind fun _ => result) := by
  have hraised : ∀ e, UnlinkRaised (history ++ [⟨.unlink file, .error e⟩]) :=
    fun e => ⟨file, e, List.mem_append_right _ (List.mem_singleton_self _)⟩
  cases result with
  | ok =>
    have hpublished : Always start history (Published start path file content) := h
    refine meets_perform (hpublished.mono fun _ hpublished => hpublished.safe) fun answer => ?_
    cases answer with
    | ok =>
      have hunlinked : Always start (history ++ [⟨.unlink file, .ok ()⟩])
          (Published start path file content) :=
        hpublished.step fun disk disk' hdisk heffect => (show disk' = _ from heffect) ▸ hdisk.unlinked
      exact ⟨hunlinked.mono fun _ hpublished => hpublished.safe,
        hunlinked.mono fun _ hpublished => ⟨hpublished.target, hpublished.others⟩⟩
    | error e =>
      have hkept : Always start (history ++ [⟨.unlink file, .error e⟩]) (Published start path file content) :=
        hpublished.step fun disk disk' hdisk heffect => (show disk' = disk from heffect) ▸ hdisk
      exact ⟨hkept.mono fun _ hpublished => hpublished.safe, Or.inr (Or.inr (hraised e))⟩
  | error error =>
    have haside : Always start history (Aside start path file) := h
    refine meets_perform haside.safe fun answer => ⟨(haside.on (c := .unlink file) rfl answer).safe, ?_⟩
    cases answer with
    | ok =>
      exact Or.inl (haside.step fun disk disk' hdisk heffect => (show disk' = _ from heffect) ▸
        hdisk.unlinked)
    | error e => exact Or.inr (Or.inr (hraised e))

theorem FillRaised.later (h : FillRaised history) (events : List FileEvent) :
    FillRaised (history ++ events) := by
  obtain ⟨c, hc, e, hmem⟩ := h
  exact ⟨c, hc, e, List.mem_append_left _ hmem⟩

theorem writeTemporary_meets {pieces : List String} (synced : Bool)
    (hcontent : pieces.foldl (· ++ ·) "" = content) (h : Always start history (Untouched start)) :
    Meets history (writeTemporary path synced pieces)
      (fun history => Always start history (Safe start path content))
        (Ended start path content) := by
  have hfailed : ∀ e, Always start (history ++ [⟨.namedTemporaryFile path, .error e⟩]) (Untouched start) :=
    fun e => h.step fun disk disk' hdisk heffect => (show disk' = disk from heffect) ▸ hdisk
  have hmade : ∀ file : String, Always start (history ++ [⟨.namedTemporaryFile path, .ok file⟩])
      (Writing start path file "") := by
    refine fun file => h.step fun disk disk' hdisk heffect => ?_
    obtain ⟨hfresh, hne, rfl⟩ := heffect
    refine ⟨⟨(congrFun hdisk file).symm.trans hfresh, hne, fun p hp => ?_⟩, Function.update_self _ _ _⟩
    exact (Function.update_of_ne hp _ _).trans (congrFun hdisk p)
  refine meets_ask h.safe_of_untouched (fun answer => ?_) (fun e => Or.inl (hfailed e)) fun file => ?_
  · cases answer with
    | ok file => exact ((hmade file).mono fun _ hwriting => hwriting.1).safe
    | error e => exact (hfailed e).safe_of_untouched
  have hbody : Meets (history ++ [⟨.namedTemporaryFile path, .ok file⟩]) (fill file synced pieces)
      (fun history => Always start history (Safe start path content)) (Filled start path file content) :=
    hcontent ▸ fill_meets synced (hmade file)
  have hclosed : Meets (history ++ [⟨.namedTemporaryFile path, .ok file⟩])
      ((fill file synced pieces).onError (ask (.close file)))
      (fun history => Always start history (Safe start path content)) (Filled start path file content) := by
    refine meets_onError hbody (fun _ _ _ hfilled => hfilled) fun history e _ hfilled => ?_
    have hclose := fun answer => hfilled.1.on (c := .close file) rfl answer
    refine meets_perform hfilled.1.safe fun answer => ⟨(hclose answer).safe, ?_⟩
    cases answer <;> exact ⟨hclose _, hfilled.2.later _⟩
  refine meets_bind hclosed (fun history e _ hfilled => ?_) fun history done _ hwriting => ?_
  · exact Or.inr (Or.inl ⟨hfilled.1.mono fun _ haside => haside.others path haside.ne.symm, hfilled.2⟩)
  · exact meets_tryFinally (replace_meets hwriting) fun _ _ _ hreplaced => unlink_meets hreplaced

def Prepares (path : String) (program : FileProgram Unit) : Prop :=
  ∀ start content history, Always start history (Untouched start) →
    Meets history program (fun history => Always start history (Safe start path content))
      fun history _ => Always start history (Untouched start)

theorem prepares_makeParents : Prepares path (ask (.makeParents path)) := by
  intro start content history h
  have hstep : ∀ answer, Always start (history ++ [⟨.makeParents path, answer⟩]) (Untouched start) :=
    fun answer => h.step fun disk disk' hdisk heffect => (show disk' = disk from heffect) ▸ hdisk
  exact meets_perform h.safe_of_untouched fun answer => ⟨(hstep answer).safe_of_untouched, hstep answer⟩

theorem prepares_refuseSymlink (message : String) : Prepares path (refuseSymlink path message) := by
  intro start content history h
  have hstep : ∀ answer, Always start (history ++ [⟨.isSymlink path, answer⟩]) (Untouched start) :=
    fun answer => h.step fun disk disk' hdisk heffect => (show disk' = disk from heffect) ▸ hdisk
  refine meets_ask h.safe_of_untouched (fun answer => (hstep answer).safe_of_untouched) (fun e => hstep _)
    fun symlink => ?_
  split_ifs
  · exact meets_raise (hstep _).safe_of_untouched (hstep _)
  · exact meets_done (hstep _).safe_of_untouched (hstep _)

theorem prepared_meets {first next : FileProgram Unit} (hfirst : Prepares path first)
    (hnext : ∀ history, Always start history (Untouched start) → Meets history next
      (fun history => Always start history (Safe start path content)) (Ended start path content))
    (h : Always start history (Untouched start)) :
    Meets history (first >>= fun _ => next) (fun history => Always start history (Safe start path content))
      (Ended start path content) :=
  meets_bind (hfirst start content history h) (fun _ _ _ huntouched => Or.inl huntouched)
    fun history _ _ huntouched => hnext history huntouched

end Writes

section Published

variable {path content : String} {program : FileProgram Unit}

inductive Writes (path : String) : String → FileProgram Unit → Prop
  | json (content : String) : Writes path content (writeJson path content)
  | manifest (content : String) : Writes path content (writeManifest path content)
  | evidence (pieces : List String) : Writes path ((pieces ++ ["\n"]).foldl (· ++ ·) "")
    (writeEvidence path pieces)
  | report (report : String) : Writes path report (writeReport path report)

theorem Writes.meets (h : Writes path content program) (start : Disk) :
    Meets [] program (fun history => Always start history (Safe start path content))
      (Ended start path content) := by
  have huntouched : Always start [] (Untouched start) := fun disk hreaches => congrArg Disk.files hreaches
  have hone : ∀ text : String, [text].foldl (· ++ ·) "" = text := fun text => String.empty_append
  cases h with
  | json | manifest =>
    exact prepared_meets (prepares_refuseSymlink _) (fun _ => prepared_meets prepares_makeParents
      fun _ => writeTemporary_meets true (hone _)) huntouched
  | evidence =>
    exact prepared_meets prepares_makeParents (fun _ => prepared_meets (prepares_refuseSymlink _)
      fun _ => writeTemporary_meets false rfl) huntouched
  | report =>
    exact prepared_meets prepares_makeParents (fun _ => prepared_meets (prepares_refuseSymlink _)
      fun _ => writeTemporary_meets false (hone _)) huntouched

theorem written_whole_or_not (h : Writes path content program) {trace : List FileEvent}
    {outcome : Option (Except FileError Unit)} (hrun : Runs program trace outcome) {start disk : Disk}
    (hreaches : Reaches start trace disk) :
    Safe start path content disk ∧
    (outcome = some (.ok ()) → disk.files path = some content ∧ ∀ p, p ≠ path →
      disk.files p = start.files p) ∧
    ∀ e, outcome = some (.error e) →
      Untouched start disk ∨ disk.files path = start.files path ∧ FillRaised trace ∨ UnlinkRaised trace := by
  obtain ⟨hsafe, hended⟩ := h.meets start trace outcome hrun
  refine ⟨hsafe disk hreaches, ?_, ?_⟩
  · rintro rfl
    exact hended (.ok ()) rfl disk hreaches
  · rintro e rfl
    exact (hended (.error e) rfl).imp (fun huntouched => huntouched disk hreaches)
      (Or.imp_left (And.imp_left fun hkept => hkept disk hreaches))

def labDisk : Disk where
  files p := if p = "evidence/runtime-n1.json" then some "null\n" else none
  written _ := ""

def labAnswer (calls : ℕ) : (c : FileCall) → Except FileError c.Answer × ℕ
  | .isSymlink _ => (.ok false, calls + 1)
  | .namedTemporaryFile _ => (.ok "evidence/tmpk3x8w2_q", calls + 1)
  | .makeParents _ | .write _ _ | .flush _ | .fsync _ | .close _ | .replace _ _ | .unlink _ =>
    (.ok (), calls + 1)

def labTrace : List FileEvent := (execute labAnswer (writeJson "evidence/runtime-n1.json" "[]\n") 0).1

theorem written_whole_or_not_lab : ∃ disk, Reaches labDisk labTrace disk ∧
    disk.files "evidence/runtime-n1.json" = some "[]\n" ∧
    ∀ p, p ≠ "evidence/runtime-n1.json" → disk.files p = labDisk.files p := by
  have hne : "evidence/tmpk3x8w2_q" ≠ "evidence/runtime-n1.json" := by decide
  have hreaches : ∃ disk, Reaches labDisk labTrace disk :=
    ⟨_, _, rfl, _, rfl, _, ⟨rfl, hne, rfl⟩, _, ⟨[], List.nil_prefix, rfl⟩, _, rfl, _, rfl, _, rfl, _, rfl, _,
      rfl, rfl⟩
  obtain ⟨disk, hdisk⟩ := hreaches
  have hwritten := written_whole_or_not (.json "[]\n") (execute_runs labAnswer _ 0) hdisk
  exact ⟨disk, hdisk, hwritten.2.1 rfl⟩

end Published

end TelconetSentinel.AtomicWrites
