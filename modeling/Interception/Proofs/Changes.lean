/-
What others do to the registry during a call.

Whenever a call waits for a reply others may change the registry, and the trace does not tell all
of it.  To know what they did, the same call is run with a journal beside the state of the
environment, in which every reply writes down its changes (`Environment.journaled`).  The journal is
never read, so the call does not change by it.

A session keeps its name as long as others do not erase it: the engine itself erases nothing, and
who registers a session again leaves its name alone.

* `Engine.Journaled.bind` — computations that agree with their journaled form, one after the other;
* `Engine.journaled_call` — a call agrees with its journaled form;
* `Engine.call_journaled` — the journal of a call;
* `Engine.keeps_call` — what is known of a session stays known through a call.
-/
import Interception.Proofs.Course.Scope
import Interception.Proofs.Registry.Records

namespace Interception

variable {σ : Type}

/-- What others do to the registry, in order. -/
abbrev Journal : Type := List RegistryChange

/-- The same environment with a journal of what others do to the registry during its calls. -/
def Environment.journaled (env : Environment σ) : Environment (σ × Journal) where
  lookUp handle s := ((env.lookUp handle s.1).1, (env.lookUp handle s.1).2, s.2)
  release object s := (env.release object s.1, s.2)
  openSession session s := ((env.openSession session s.1).1, (env.openSession session s.1).2, s.2)
  closeHandle handle s := (env.closeHandle handle s.1, s.2)
  send handle w s :=
    ((env.send handle w s.1).1, (env.send handle w s.1).2, s.2 ++ (env.send handle w s.1).1.changes)
  readMemory address n s := env.readMemory address n s.1
  writeMemory address bytes s :=
    ((env.writeMemory address bytes s.1).1, (env.writeMemory address bytes s.1).2, s.2)
  pid s := env.pid s.1
  askLanguage w s := ((env.askLanguage w s.1).1, (env.askLanguage w s.1).2, s.2)
  showThrow w s := ((env.showThrow w s.1).1, (env.showThrow w s.1).2, s.2)
  pluginPhase s := env.pluginPhase s.1
  signalHome s := (env.signalHome s.1, s.2)
  wakeApplication s := (env.wakeApplication s.1, s.2)

/-- The world with a journal beside the state of its environment. -/
def World.journaled (w : World σ) (journal : Journal) : World (σ × Journal) where
  registry := w.registry
  host := w.host
  window := w.window
  outside := (w.outside, journal)
  trace := w.trace

/-! ### Names that are kept -/

namespace Registry

variable {r s t : Registry}

/-- Whatever the first registry knows of sessions that are not erased by the changes, the second
knows too. -/
def Keeps (r : Registry) (changes : Journal) (s : Registry) : Prop :=
  ∀ session name, .erase session ∉ changes → r.nameOf? session = some name →
    s.nameOf? session = some name

theorem Keeps.refl (r : Registry) : r.Keeps [] r :=
  fun _ _ _ known => known

theorem Keeps.trans {changes more : Journal} (first : r.Keeps changes s)
    (second : s.Keeps more t) : r.Keeps (changes ++ more) t := by
  intro session name unerased known
  rw [List.mem_append, not_or] at unerased
  exact second session name unerased.2 (first session name unerased.1 known)

theorem keeps_insert (r : Registry) (session : SessionId) (name : ServiceName) :
    r.Keeps [] (r.insert session name).2 := by
  intro other existing _ known
  rw [nameOf?_insert, if_neg, known]
  -- A session with a name is not added again.
  rintro ⟨rfl, added⟩
  rw [insert_eq_added_iff, known] at added
  cases added.1

/-- Erasing one session does not change what is known of another. -/
theorem nameOf?_erase_of_ne (r : Registry) {session other : SessionId} (apart : other ≠ session) :
    (r.erase session).2.nameOf? other = r.nameOf? other := by
  rw [nameOf?, nameOf?, find?, find?, records_erase]
  congr 1
  generalize r.records = records
  induction records with
  | nil => rfl
  | cons x rest ih =>
    by_cases h : x.session = session
    · simp [h, Ne.symm apart]
    · simp [h, List.find?_cons, ih]

theorem keeps_change (r : Registry) (change : RegistryChange) :
    r.Keeps [change] (r.change change) := by
  intro session name unerased known
  cases change with
  | insert other offered => exact r.keeps_insert other offered session name (by simp) known
  | erase other =>
    have apart : session ≠ other := by
      rintro rfl
      exact unerased (List.mem_singleton_self _)
    exact (r.nameOf?_erase_of_ne apart).trans known

theorem keeps_changed (r : Registry) (changes : Journal) : r.Keeps changes (r.changed changes) := by
  induction changes generalizing r with
  | nil => exact .refl r
  | cons change rest ih => exact (r.keeps_change change).trans (ih (r.change change))

end Registry

namespace Engine

variable {α β : Type}

/-! ### Computations and their journaled form -/

/-- A computation agrees with its journaled form: the journal grows by what others do to the
registry, nothing else differs, and names that others do not erase are kept. -/
def Journaled (m : Engine σ α) (m' : Engine (σ × Journal) α) : Prop :=
  -- What is written down does not depend on what the journal held before.
  ∀ w : World σ, ∃ changes : Journal,
    (∀ journal, m' (w.journaled journal) = ((m w).1, (m w).2.journaled (journal ++ changes))) ∧
    w.registry.Keeps changes (m w).2.registry

theorem Journaled.bind {m : Engine σ α} {m' : Engine (σ × Journal) α} {f : α → Engine σ β}
    {f' : α → Engine (σ × Journal) β} (first : Journaled m m')
    (rest : ∀ a, Journaled (f a) (f' a)) : Journaled (m >>= f) (m' >>= f') := by
  intro w
  obtain ⟨changes, agree, keeps⟩ := first w
  obtain ⟨more, agree', keeps'⟩ := rest (m w).1 (m w).2
  refine ⟨changes ++ more, fun journal => ?_, keeps.trans keeps'⟩
  rw [bind_apply, bind_apply, agree, agree', List.append_assoc]

/-- Steps during which others do nothing. -/
theorem Journaled.of_undisturbed {m : Engine σ α} {m' : Engine (σ × Journal) α}
    (agree : ∀ w journal, m' (w.journaled journal) = ((m w).1, (m w).2.journaled journal))
    (keeps : ∀ w : World σ, w.registry.Keeps [] (m w).2.registry) : Journaled m m' :=
  fun w => ⟨[], fun journal => by rw [agree, List.append_nil], keeps w⟩

theorem Journaled.pure (a : α) : Journaled (pure a : Engine σ α) (pure a) :=
  .of_undisturbed (fun _ _ => rfl) fun _ => .refl _

/-! ### The steps of the engine -/

section Steps

variable (env : Environment σ)

theorem journaled_window : Journaled (window (σ := σ)) window :=
  .of_undisturbed (fun _ _ => rfl) fun _ => .refl _

theorem journaled_modifyWindow (f : Window → Window) :
    Journaled (modifyWindow f : Engine σ Unit) (modifyWindow f) :=
  .of_undisturbed (fun _ _ => rfl) fun _ => .refl _

theorem journaled_registry : Journaled (registry : Engine σ Registry) registry :=
  .of_undisturbed (fun _ _ => rfl) fun _ => .refl _

theorem journaled_host : Journaled (host : Engine σ Host) host :=
  .of_undisturbed (fun _ _ => rfl) fun _ => .refl _

theorem journaled_note (notice : Notice) : Journaled (note notice : Engine σ Unit) (note notice) :=
  .of_undisturbed (fun _ _ => rfl) fun _ => .refl _

theorem journaled_register (session : SessionId) (name : ServiceName) :
    Journaled (register session name : Engine σ Unit) (register session name) :=
  .of_undisturbed (fun _ _ => rfl) fun w => w.registry.keeps_insert session name

theorem journaled_pid : Journaled (pid env) (pid env.journaled) :=
  .of_undisturbed (fun _ _ => rfl) fun _ => .refl _

theorem journaled_lookUp (handle : Handle) :
    Journaled (lookUp env handle) (lookUp env.journaled handle) :=
  .of_undisturbed (fun _ _ => rfl) fun _ => .refl _

theorem journaled_release (object : Object) :
    Journaled (release env object) (release env.journaled object) :=
  .of_undisturbed (fun _ _ => rfl) fun _ => .refl _

theorem journaled_openSession (session : SessionId) :
    Journaled (openSession env session) (openSession env.journaled session) :=
  .of_undisturbed (fun _ _ => rfl) fun _ => .refl _

theorem journaled_closeHandle (handle : Handle) :
    Journaled (closeHandle env handle) (closeHandle env.journaled handle) :=
  .of_undisturbed (fun _ _ => rfl) fun _ => .refl _

theorem journaled_readMemory (address : UInt32) (n : Nat) :
    Journaled (readMemory env address n) (readMemory env.journaled address n) :=
  .of_undisturbed (fun _ _ => rfl) fun _ => .refl _

theorem journaled_writeMemory (address : UInt32) (bytes : List UInt8) :
    Journaled (writeMemory env address bytes) (writeMemory env.journaled address bytes) :=
  .of_undisturbed (fun _ _ => rfl) fun _ => .refl _

theorem journaled_askLanguage : Journaled (askLanguage env) (askLanguage env.journaled) :=
  .of_undisturbed (fun _ _ => rfl) fun _ => .refl _

theorem journaled_showThrow : Journaled (showThrow env) (showThrow env.journaled) :=
  .of_undisturbed (fun _ _ => rfl) fun _ => .refl _

theorem journaled_pluginPhase : Journaled (pluginPhase env) (pluginPhase env.journaled) :=
  .of_undisturbed (fun _ _ => rfl) fun _ => .refl _

theorem journaled_signalHome : Journaled (signalHome env) (signalHome env.journaled) :=
  .of_undisturbed (fun _ _ => rfl) fun _ => .refl _

theorem journaled_wakeApplication :
    Journaled (wakeApplication env) (wakeApplication env.journaled) :=
  .of_undisturbed (fun _ _ => rfl) fun _ => .refl _

/-- Only while a call waits can others do something. -/
theorem journaled_send (route : Route) : Journaled (send env route) (send env.journaled route) := by
  intro w
  rcases sent : env.send route.handle w.window w.outside with ⟨reply, outside⟩
  refine ⟨reply.changes, fun journal => ?_, ?_⟩
  · have sent' : env.journaled.send route.handle (w.journaled journal).window
        (w.journaled journal).outside = (reply, outside, journal ++ reply.changes) := by
      simp [Environment.journaled, World.journaled, sent]
    rw [send_course route w sent, send_course route (w.journaled journal) sent']
    rfl
  · rw [send_course route w sent]
    exact w.registry.keeps_changed reply.changes

/-! ### References and opened handles -/

theorem journaled_borrow (handle : Handle) :
    Journaled (borrow env handle) (borrow env.journaled handle) := by
  unfold borrow
  split
  · exact .pure _
  · refine (journaled_lookUp env handle).bind fun found => ?_
    cases found with
    | none => exact .pure _
    | some object => exact .pure _

theorem journaled_withClient (handle : Handle) {body : Resolution → Engine σ α}
    {body' : Resolution → Engine (σ × Journal) α} (inner : ∀ r, Journaled (body r) (body' r)) :
    Journaled (withClient env handle body) (withClient env.journaled handle body') := by
  refine (journaled_borrow env handle).bind fun found => ?_
  cases found with
  | error error => exact inner _
  | ok object =>
    dsimp only
    split
    · exact (inner _).bind fun answer => (journaled_release env object).bind fun _ => .pure answer
    · exact (journaled_release env object).bind fun _ => inner _

theorem journaled_withOpened (session : SessionId) {body : Except ResultCode Handle → Engine σ α}
    {body' : Except ResultCode Handle → Engine (σ × Journal) α}
    (inner : ∀ r, Journaled (body r) (body' r)) :
    Journaled (withOpened env session body) (withOpened env.journaled session body') := by
  refine (journaled_openSession env session).bind fun opened => ?_
  cases opened with
  | error result => exact inner _
  | ok handle =>
    exact (inner _).bind fun answer => (journaled_closeHandle env handle).bind fun _ => .pure answer

/-! ### Connections and parameters -/

theorem journaled_learnName (name : Option ServiceName) (handle : Handle) :
    Journaled (learnName env name handle) (learnName env.journaled name handle) := by
  refine journaled_withClient env handle fun resolved => ?_
  cases name with
  | none => exact journaled_note _
  | some name =>
    cases resolved with
    | error error => exact journaled_note _
    | ok found => exact journaled_register _ name

theorem journaled_learnConnection (handle : Handle) :
    Journaled (learnConnection env handle) (learnConnection env.journaled handle) := by
  refine journaled_window.bind fun window => (journaled_send env _).bind fun result => ?_
  split
  · exact (journaled_modifyWindow _).bind fun _ => .pure _
  · exact journaled_window.bind fun reply => (journaled_learnName env _ _).bind fun _ => .pure _

theorem journaled_relayParameter (handle : Handle) :
    Journaled (relayParameter env handle) (relayParameter env.journaled handle) := by
  refine (journaled_send env _).bind fun result => ?_
  split
  · refine journaled_window.bind fun reply => (journaled_pluginPhase env).bind fun state => ?_
    split
    · exact (journaled_note _).bind fun _ => (journaled_signalHome env).bind fun _ => .pure _
    · exact .pure _
  · exact .pure _

/-! ### The boot logo -/

theorem journaled_read (range : Span) (n : Nat) :
    Journaled (range.read (readMemory env) n) (range.read (readMemory env.journaled) n) := by
  unfold Span.read
  split
  · exact .pure _
  · exact journaled_readMemory env _ n

theorem journaled_readPath (pointer : UInt32) :
    Journaled (readPath env pointer) (readPath env.journaled pointer) := by
  unfold readPath
  split
  · exact .pure _
  · exact journaled_read env _ _

theorem journaled_undoRedirect (pointer : UInt32) (path : Vector UInt8 Logo.pathLength)
    (saved : Snapshot Logo.requestWords) :
    Journaled (undoRedirect env pointer path saved)
      (undoRedirect env.journaled pointer path saved) := by
  refine (journaled_modifyWindow _).bind fun _ =>
    (journaled_writeMemory env _ _).bind fun wrote => ?_
  cases wrote with
  | ok _ => exact .pure _
  | error fault => exact journaled_note _

theorem journaled_tryStorage (handle : Handle) (pointer : UInt32)
    (path : Vector UInt8 Logo.pathLength) :
    Journaled (tryStorage env handle pointer path)
      (tryStorage env.journaled handle pointer path) := by
  refine journaled_window.bind fun window => (journaled_modifyWindow _).bind fun _ =>
    (journaled_writeMemory env _ _).bind fun wrote => ?_
  cases wrote with
  | error fault =>
    exact (journaled_note _).bind fun _ => (journaled_modifyWindow _).bind fun _ => .pure _
  | ok _ =>
    refine (journaled_send env _).bind fun result => journaled_window.bind fun reply => ?_
    split
    · exact (journaled_note _).bind fun _ => .pure _
    · exact (journaled_undoRedirect env _ _ _).bind fun _ => .pure _

theorem journaled_openLogo (handle : Handle) :
    Journaled (openLogo env handle) (openLogo env.journaled handle) := by
  refine journaled_window.bind fun window => (journaled_readPath env _).bind fun read => ?_
  cases read with
  | error fault => exact (journaled_note _).bind fun _ => .pure _
  | ok path =>
    dsimp only
    split
    · exact journaled_tryStorage env handle _ path
    · exact .pure _

/-! ### The supervisor -/

theorem journaled_encode (operation : Watched) (saved : Snapshot Supervisor.keptWords) :
    Journaled (Supervisor.Request.encode (readMemory env) operation saved)
      (Supervisor.Request.encode (readMemory env.journaled) operation saved) := by
  cases operation with
  | deleteFile => exact .pure _
  | deleteDirectory => exact .pure _
  | cameraCapture => exact .pure _
  | socketConnect =>
    refine Journaled.bind ?_ fun address => .pure _
    unfold Supervisor.Request.address
    split
    · exact .pure _
    · refine Journaled.bind ((journaled_read env _ 4).bind fun bytes => ?_) fun word => .pure _
      cases bytes with
      | ok bytes => exact .pure _
      | error fault => exact .pure _

theorem journaled_askSupervisor (operation : Watched) (request : Supervisor.Request)
    (saved : Snapshot Supervisor.keptWords) (route : Route) :
    Journaled (askSupervisor env operation request saved route)
      (askSupervisor env.journaled operation request saved route) := by
  refine (journaled_pid env).bind fun pid => (journaled_modifyWindow _).bind fun _ =>
    (journaled_send env route).bind fun result => journaled_window.bind fun reply => ?_
  split
  · exact (journaled_note _).bind fun _ => .pure _
  · exact (journaled_note _).bind fun _ => (journaled_modifyWindow _).bind fun _ => .pure _

theorem journaled_consult (operation : Watched) :
    Journaled (consult env operation) (consult env.journaled operation) := by
  refine journaled_registry.bind fun registry => ?_
  split
  · exact (journaled_note _).bind fun _ => .pure _
  · refine journaled_window.bind fun window => (journaled_encode env _ _).bind fun encoded => ?_
    cases encoded with
    | error refusal => exact (journaled_note _).bind fun _ => .pure _
    | ok request =>
      refine journaled_withOpened env _ fun opened => ?_
      cases opened with
      | error result => exact (journaled_note _).bind fun _ => .pure _
      | ok opened => exact journaled_askSupervisor env _ _ _ _

/-! ### Calls -/

theorem journaled_succeed : Journaled (succeed : Engine σ Outcome) succeed :=
  (journaled_modifyWindow _).bind fun _ => .pure _

theorem journaled_act (handle : Handle) (action : Action) :
    Journaled (act env handle action) (act env.journaled handle action) := by
  cases action with
  | succeed => exact journaled_succeed
  | wakeApplication => exact (journaled_wakeApplication env).bind fun _ => journaled_succeed
  | askLanguage =>
    refine (journaled_askLanguage env).bind fun answer => ?_
    cases answer with
    | some result => exact .pure _
    | none => exact .pure _
  | showThrow =>
    refine (journaled_showThrow env).bind fun consumed => ?_
    cases consumed with
    | true => exact .pure _
    | false => exact .pure _
  | learnConnection => exact journaled_learnConnection env handle
  | relayParameter => exact journaled_relayParameter env handle
  | openLogo => exact journaled_openLogo env handle
  | consult operation =>
    refine (journaled_consult env operation).bind fun verdict => ?_
    cases verdict with
    | handled => exact .pure _
    | declined => exact .pure _
    | unavailable => exact .pure _

theorem journaled_dispatch (handle : Handle) (session : SessionId) :
    Journaled (dispatch env handle session) (dispatch env.journaled handle session) := by
  refine journaled_registry.bind fun registry => (journaled_pid env).bind fun pid =>
    journaled_window.bind fun window => journaled_host.bind fun host => ?_
  split
  · exact journaled_window.bind fun _ => (journaled_note _).bind fun _ => journaled_act env handle _
  · exact .pure _

theorem journaled_examine (handle : Handle) :
    Journaled (examine env handle) (examine env.journaled handle) := by
  refine journaled_withClient env handle fun resolved => ?_
  cases resolved with
  | ok found => exact journaled_dispatch env handle found.2
  | error error => exact (journaled_note _).bind fun _ => .pure _

/-- A call agrees with its journaled form. -/
theorem journaled_call (handle : Handle) :
    Journaled (call env handle) (call env.journaled handle) := by
  refine (journaled_examine env handle).bind fun outcome => ?_
  cases outcome with
  | answered result => exact .pure _
  | forward => exact journaled_send env _

end Steps

/-! ### What others do during a call -/

/-- What others do to the registry during a call: the journal of its journaled form. -/
def changes (env : Environment σ) (handle : Handle) (w : World σ) : Journal :=
  (call env.journaled handle (w.journaled [])).2.outside.2

/-- The journal is that of the call itself. -/
theorem call_journaled (env : Environment σ) (handle : Handle) (w : World σ) (journal : Journal) :
    call env.journaled handle (w.journaled journal) =
      ((call env handle w).1,
        (call env handle w).2.journaled (journal ++ changes env handle w)) := by
  obtain ⟨changed, agree, -⟩ := journaled_call env handle w
  rw [changes, agree, agree]
  rfl

/-- A session keeps its name through a call in which others do not erase it. -/
theorem keeps_call (env : Environment σ) (handle : Handle) (w : World σ) :
    w.registry.Keeps (changes env handle w) (call env handle w).2.registry := by
  obtain ⟨changed, agree, keeps⟩ := journaled_call env handle w
  rw [changes, agree]
  exact keeps

end Engine

end Interception
