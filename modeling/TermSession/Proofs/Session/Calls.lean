import TermSession.Proofs.Session.Host

/-!
# Everything a host can do

The calls of a session as data, what may happen to its backend in between, and runs of both.

* `SessionCall`, `Session.perform`: every call of a session;
* `BackendChange`, `Backend.undergo`: what happens to a backend apart from the calls of a session;
* `HostEvent`, `Host.advance`, `Host.advanceAll`: runs;
* `Backend.Stable`, `Session.perform_stable`: what the calls a session makes to its backend keep,
  the session keeps.
-/

namespace TermSession

/-- What may happen to a backend apart from the calls of a session. -/
inductive BackendChange where
  | append (session : Text) (data : List UInt8)
  | appendSilently (session : Text) (data : List UInt8)
  | truncate (session : Text)
  /-- A notification arrives, whatever the log. -/
  | notify (session : Text) (event : LogEvent)
  | storeSnapshot (session kind : Text) (snapshot : Snapshot)
  | registerId (id : Text) (ref : ObjectRef)
  | fail (op : Operation)
  | recover (op : Operation)
  deriving Repr, Inhabited

namespace Backend

/-- What a change makes of a backend. -/
def undergo (b : Backend) : BackendChange → Backend
  | .append session data => b.append session data
  | .appendSilently session data => b.appendSilently session data
  | .truncate session => b.truncate session
  | .notify session event => b.broadcast session event
  | .storeSnapshot session kind snapshot => b.storeSnapshot session kind (Thunk.pure snapshot)
  | .registerId id ref => b.registerId id ref
  | .fail op => b.fail op
  | .recover op => b.recover op

/-- Changes in order. -/
def undergoAll (b : Backend) (changes : List BackendChange) : Backend := changes.foldl undergo b

/-- What every change keeps, all of them keep. -/
theorem undergoAll_induction {P : Backend → Prop} {b : Backend} {changes : List BackendChange}
    (step : ∀ change ∈ changes, ∀ b, P b → P (b.undergo change)) (h : P b) :
    P (b.undergoAll changes) := by
  induction changes generalizing b with
  | nil => exact h
  | cons change changes ih =>
    exact ih (fun c hc => step c (List.mem_cons_of_mem _ hc)) (step change List.mem_cons_self b h)

end Backend

/-- A call of a session. -/
inductive SessionCall where
  /-- Loading, while the backend changes between the taking of the notifications and the reading of
  the history. -/
  | load (now : Nat) (meanwhile : List BackendChange)
  | processEvents
  | flush
  | pollTimers (now : Nat)
  | requestSize (size : Size) (now : Nat)
  | fit (size : Size)
  | write (data : List UInt8)
  | key (e : KeyEvent) (now : Nat)
  | data (t : Text) (now : Nat)
  | paste (t : Text) (now : Nat)
  | compositionStart
  | compositionUpdate (t : Text)
  | compositionEnd (t : Text) (now : Nat)
  | focusLost
  | setFilterEnabled (on : Bool)
  | setMirroring (on : Bool)
  | dispose
  deriving Repr, Inhabited

/-- Does the call bring input for the shell? -/
def SessionCall.isInput : SessionCall → Bool
  | .write _ | .key _ _ | .data _ _ | .paste _ _ | .compositionEnd _ _ => true
  | _ => false

/-- Is the call about output, time or size? -/
def SessionCall.isOutput : SessionCall → Bool
  | .load _ _ | .processEvents | .flush | .pollTimers _ | .requestSize _ _ | .fit _ => true
  | _ => false

/-- Does the call leave the notifications and the history alone? -/
def SessionCall.isAside : SessionCall → Bool
  | .load _ _ | .processEvents | .dispose => false
  | _ => true

/-- What happens to the backend while the session is called. -/
def SessionCall.changes : SessionCall → List BackendChange
  | .load _ meanwhile => meanwhile
  | _ => []

/-- What a call makes of a session and its backend. -/
def Session.perform {σ : Type} [Display σ] (s : Session σ) (b : Backend) :
    SessionCall → Session σ × Backend
  | .load now meanwhile => s.load b now (·.undergoAll meanwhile)
  | .processEvents => (s.processEvents b).2
  | .flush => (s.flush b).2
  | .pollTimers now => s.pollTimers b now
  | .requestSize size now => (s.requestSize size now, b)
  | .fit size => (s.fit size b).2
  | .write data => (s, (s.write b data).2)
  | .key e now => (s.key b e now).2
  | .data t now => (s.data b t now).2
  | .paste t now => (s.paste b t now).2
  | .compositionStart => (s.compositionStart, b)
  | .compositionUpdate t => (s.compositionUpdate t, b)
  | .compositionEnd t now => (s.compositionEnd b t now).2
  | .focusLost => (s.focusLost, b)
  | .setFilterEnabled on => (s.setFilterEnabled on, b)
  | .setMirroring on => (s.setMirroring on, b)
  | .dispose => s.dispose b

/-- One event of a run: the session is called, or its backend changes. -/
inductive HostEvent where
  | call (c : SessionCall)
  | backend (change : BackendChange)
  deriving Repr, Inhabited

/-- What happens to the backend in an event, apart from the calls of the session. -/
def HostEvent.changes : HostEvent → List BackendChange
  | .call c => c.changes
  | .backend change => [change]

namespace Host

variable {σ : Type} [Display σ]

/-- The session is called. -/
def perform (h : Host σ) (c : SessionCall) : Host σ :=
  let (session, backend) := h.session.perform h.backend c
  { session, backend }

/-- One event of a run. -/
def advance (h : Host σ) : HostEvent → Host σ
  | .call c => h.perform c
  | .backend change => { h with backend := h.backend.undergo change }

/-- Events in order. -/
def advanceAll (h : Host σ) (events : List HostEvent) : Host σ := events.foldl advance h

@[simp] theorem advanceAll_nil (h : Host σ) : h.advanceAll [] = h := rfl

@[simp] theorem advanceAll_cons (h : Host σ) (e : HostEvent) (events : List HostEvent) :
    h.advanceAll (e :: events) = (h.advance e).advanceAll events := rfl

theorem advanceAll_append (h : Host σ) (events events' : List HostEvent) :
    h.advanceAll (events ++ events') = (h.advanceAll events).advanceAll events' :=
  List.foldl_append

end Host

/-! ### What sessions leave as it is -/

/-- Kept when a backend stores snapshots and hears of sizes. -/
structure Backend.Settled (P : Backend → Prop) : Prop where
  saveSnapshot : ∀ b session kind s, P b → P (b.saveSnapshot session kind s).2
  setSize : ∀ b session size, P b → P (b.setSize session size)
  resync : ∀ b session size, P b → P (b.resync session size).2

/-- Kept by every call that a session makes to its backend, those that send input apart. -/
structure Backend.Stable (P : Backend → Prop) : Prop extends Backend.Settled P where
  updateSubscriber : ∀ b r f, P b → P (b.updateSubscriber r f)
  updateMeta : ∀ b ref patch, P b → P (b.updateMeta ref patch).2
  fetchLog : ∀ b session offset, P b → P (b.fetchLog session offset).2

section Backend

variable {σ : Type} [Display σ] {P : Backend → Prop} {b : Backend}

namespace Backend.Stable

theorem handleEvents (hP : Stable P) (id : Text) (events : List LogEvent) (r : Rendering σ)
    (h : P b) : P (events.foldl (Session.handleEvent id) (r, b)).2 := by
  induction events generalizing r b with
  | nil => exact h
  | cons e events ih => exact ih _ (dispatch_induction hP.updateMeta h)

theorem load (hP : Stable P) (r : Rendering σ) (session kind : Text) (h : P b) :
    P (r.load b session kind).2.2 := by
  unfold Rendering.load
  split
  · exact h
  · exact hP.fetchLog _ _ _ h

end Backend.Stable

namespace Backend.Settled

theorem flush (hP : Settled P) (t : SnapshotTimer) (r : Rendering σ) (session : Text)
    (force : Bool) (h : P b) : P (t.flush r b session force).2.2 := by
  unfold SnapshotTimer.flush
  split
  · exact hP.saveSnapshot _ _ _ _ h
  · exact h

theorem apply (hP : Settled P) (z : Resizing) (size : Size) (surface : σ) (session : Text)
    (h : P b) : P (z.apply size surface b session).2.2.2 := by
  have hset (notified : Prop) [Decidable notified] (new : Size) :
      P (if notified then b.setSize session new else b) := by
    split
    · exact hP.setSize _ _ _ h
    · exact h
  unfold Resizing.apply
  dsimp only
  by_cases hp : size.isPositive
  · rw [if_pos hp]
    dsimp only
    split
    · exact hset _ _
    · exact hP.resync _ _ _ (hset _ _)
  · rw [if_neg hp]
    exact h

end Backend.Settled

/-- The logs are for backends to write. -/
theorem Backend.stable_logs (P : Table Text OutputLog → Prop) :
    Backend.Stable fun b => P b.logs where
  updateSubscriber _ _ _ h := h
  updateMeta _ _ _ h := by
    unfold Backend.updateMeta
    split <;> exact h
  fetchLog _ _ _ h := h
  saveSnapshot _ _ _ _ h := by
    unfold Backend.saveSnapshot
    dsimp only
    split <;> exact h
  setSize _ _ _ h := h
  resync _ _ _ h := by
    unfold Backend.resync
    dsimp only
    split <;> exact h

end Backend

namespace Session

variable {σ : Type} [Display σ] {P : Backend → Prop} {b : Backend}

theorem processEvents_stable (hP : Backend.Stable P) (s : Session σ) (h : P b) :
    P (s.processEvents b).2.2 := by
  unfold processEvents
  split
  · exact hP.handleEvents _ _ _ (hP.updateSubscriber _ _ _ h)
  · exact h

theorem loadHistory_stable (hP : Backend.Stable P) (s : Session σ) (now : Nat) (h : P b) :
    P (s.loadHistory b now).2 := by
  unfold loadHistory
  split
  · exact h
  · split
    · exact Backend.dispatch_induction hP.updateMeta (hP.load _ _ _ h)
    · exact h

theorem load_stable (hP : Backend.Stable P) (s : Session σ) (now : Nat)
    {meanwhile : Backend → Backend} (hm : ∀ b, P b → P (meanwhile b)) (h : P b) :
    P (s.load b now meanwhile).2 := by
  unfold load
  split
  · exact hm _ h
  · exact loadHistory_stable hP _ now (hm _ (processEvents_stable hP s h))

theorem flush_settled (hP : Backend.Settled P) (s : Session σ) (h : P b) :
    P (s.flush b).2.2 := by
  unfold flush
  split
  · exact hP.flush _ _ _ _ h
  · exact h

theorem fit_settled (hP : Backend.Settled P) (s : Session σ) (size : Size) (h : P b) :
    P (s.fit size b).2.2 := by
  unfold fit
  split
  · exact hP.apply _ _ _ _ h
  · exact h

theorem pollTimers_settled (hP : Backend.Settled P) (s : Session σ) (now : Nat) (h : P b) :
    P (s.pollTimers b now).2 := by
  have hresizing : P ((s.expirePaste now).pollResizing b now).2 := by
    unfold pollResizing
    split
    · unfold Resizing.poll
      dsimp only
      split
      · exact hP.apply _ _ _ _ h
      · exact h
    · exact h
  unfold pollTimers pollSnapshots
  dsimp only
  split
  · unfold SnapshotTimer.poll
    split
    · exact hP.flush _ _ _ _ hresizing
    · exact hresizing
  · exact hresizing

omit [Display σ] in
theorem dispose_stable (hP : Backend.Stable P) (s : Session σ) (h : P b) : P (s.dispose b).2 := by
  unfold dispose
  split
  · exact h
  · dsimp only
    split
    · exact hP.updateSubscriber _ _ _ h
    · exact h

/-- Whatever a call brings that is no input: a stable property is kept. -/
theorem perform_stable (hP : Backend.Stable P) (s : Session σ) {c : SessionCall}
    (hc : c.isInput = false) (hm : ∀ change ∈ c.changes, ∀ b, P b → P (b.undergo change))
    (h : P b) : P (s.perform b c).2 := by
  cases c with
  | load now meanwhile =>
    exact load_stable hP s now (fun _ => Backend.undergoAll_induction hm) h
  | processEvents => exact processEvents_stable hP s h
  | flush => exact flush_settled hP.toSettled s h
  | pollTimers now => exact pollTimers_settled hP.toSettled s now h
  | fit size => exact fit_settled hP.toSettled s size h
  | dispose => exact dispose_stable hP s h
  | write | key | data | paste | compositionEnd => cases hc
  | _ => exact h

section Input

variable (hsend : ∀ b session data, P b → P (b.sendInput session data).2)
include hsend

omit [Display σ] in
theorem submit_sends (s : Session σ) (t : Text) (now : Nat) (h : P b) :
    P (s.submit b t now).2.2 := by
  unfold submit
  split
  · exact h
  · split
    · exact hsend _ _ _ h
    · exact h

omit [Display σ] in
theorem data_sends (s : Session σ) (t : Text) (now : Nat) (h : P b) :
    P (s.data b t now).2.2 := by
  unfold Session.data
  split
  · exact h
  · have hsubmit := submit_sends hsend s t now h
    dsimp only
    split <;> exact hsubmit

theorem typeKey_sends (s : Session σ) (e : KeyEvent) (now : Nat) (h : P b) :
    P (s.typeKey b e now).2.2 := by
  unfold typeKey
  split
  · exact h
  · split
    · exact h
    · split
      · exact submit_sends hsend s _ now h
      · split
        · exact hsend _ _ _ h
        · exact h

theorem key_sends (s : Session σ) (e : KeyEvent) (now : Nat) (h : P b) :
    P (s.key b e now).2.2 := by
  unfold key
  split
  · exact h
  · split
    · exact h
    · split
      · exact h
      · exact hsend _ _ _ h
    · exact typeKey_sends hsend s e now h

/-- A call that brings input has the backend send it, and nothing else. -/
theorem perform_sends (s : Session σ) {c : SessionCall} (hc : c.isInput = true) (h : P b) :
    P (s.perform b c).2 := by
  cases c with
  | write data =>
    simp only [perform, write]
    split
    · exact h
    · exact hsend _ _ _ h
  | key e now => exact key_sends hsend s e now h
  | data t now => exact data_sends hsend s t now h
  | paste t now =>
    simp only [perform, paste]
    split
    · exact h
    · exact data_sends hsend _ t now h
  | compositionEnd t now =>
    simp only [perform, compositionEnd]
    split
    · exact h
    · split
      · exact submit_sends hsend _ _ now h
      · exact h
  | _ => cases hc

/-- A call that leaves notifications and history alone has the backend send input, store snapshots
and hear of sizes, and nothing else. -/
theorem perform_settled (hP : Backend.Settled P) (s : Session σ) {c : SessionCall}
    (hc : c.isAside = true) (h : P b) : P (s.perform b c).2 := by
  cases c with
  | flush => exact flush_settled hP s h
  | pollTimers now => exact pollTimers_settled hP s now h
  | fit size => exact fit_settled hP s size h
  | write | key | data | paste | compositionEnd => exact perform_sends hsend s rfl h
  | load | processEvents | dispose => cases hc
  | _ => exact h

end Input

end Session

/-! ### What calls leave of a session as it is -/

namespace Session

variable {σ : Type}

/-- Nothing that has to do with input has changed. -/
structure SameInput (s s' : Session σ) : Prop where
  id_eq : s'.id = s.id
  receiver_eq : s'.receiver = s.receiver
  composition_eq : s'.composition = s.composition
  filter_eq : s'.filter = s.filter
  platform_eq : s'.platform = s.platform
  mirroring_eq : s'.mirroring = s.mirroring
  mirrored_eq : s'.mirrored = s.mirrored
  disposed_eq : s'.disposed = s.disposed

/-- Nothing that has to do with output, time or size has changed. -/
structure SameOutput (s s' : Session σ) : Prop where
  id_eq : s'.id = s.id
  surface_eq : s'.surface = s.surface
  receiver_eq : s'.receiver = s.receiver
  output_eq : s'.output = s.output
  timer_eq : s'.timer = s.timer
  resizing_eq : s'.resizing = s.resizing
  platform_eq : s'.platform = s.platform
  disposed_eq : s'.disposed = s.disposed

theorem SameInput.refl (s : Session σ) : s.SameInput s := ⟨rfl, rfl, rfl, rfl, rfl, rfl, rfl, rfl⟩

theorem SameInput.trans {s s' s'' : Session σ} (h : s.SameInput s') (h' : s'.SameInput s'') :
    s.SameInput s'' :=
  ⟨h'.id_eq.trans h.id_eq, h'.receiver_eq.trans h.receiver_eq,
    h'.composition_eq.trans h.composition_eq, h'.filter_eq.trans h.filter_eq,
    h'.platform_eq.trans h.platform_eq, h'.mirroring_eq.trans h.mirroring_eq,
    h'.mirrored_eq.trans h.mirrored_eq, h'.disposed_eq.trans h.disposed_eq⟩

theorem SameOutput.refl (s : Session σ) : s.SameOutput s := ⟨rfl, rfl, rfl, rfl, rfl, rfl, rfl, rfl⟩

theorem SameOutput.trans {s s' s'' : Session σ} (h : s.SameOutput s') (h' : s'.SameOutput s'') :
    s.SameOutput s'' :=
  ⟨h'.id_eq.trans h.id_eq, h'.surface_eq.trans h.surface_eq, h'.receiver_eq.trans h.receiver_eq,
    h'.output_eq.trans h.output_eq, h'.timer_eq.trans h.timer_eq,
    h'.resizing_eq.trans h.resizing_eq, h'.platform_eq.trans h.platform_eq,
    h'.disposed_eq.trans h.disposed_eq⟩

theorem sameOutput_submit (s : Session σ) (b : Backend) (t : Text) (now : Nat) :
    s.SameOutput (s.submit b t now).2.1 := by
  unfold submit
  split
  · exact .refl s
  · split <;> exact ⟨rfl, rfl, rfl, rfl, rfl, rfl, rfl, rfl⟩

theorem sameOutput_mirror (s : Session σ) (t : Text) : s.SameOutput (s.mirror t) := by
  unfold mirror
  split <;> exact ⟨rfl, rfl, rfl, rfl, rfl, rfl, rfl, rfl⟩

theorem sameOutput_data (s : Session σ) (b : Backend) (t : Text) (now : Nat) :
    s.SameOutput (s.data b t now).2.1 := by
  unfold Session.data
  split
  · exact .refl s
  · have hsubmit := sameOutput_submit s b t now
    dsimp only
    split
    · have hclear : (s.submit b t now).2.1.SameOutput
          { (s.submit b t now).2.1 with pasteUntil := none } :=
        ⟨rfl, rfl, rfl, rfl, rfl, rfl, rfl, rfl⟩
      exact hsubmit.trans (hclear.trans (sameOutput_mirror _ _))
    · exact hsubmit

theorem sameOutput_paste (s : Session σ) (b : Backend) (t : Text) (now : Nat) :
    s.SameOutput (s.paste b t now).2.1 := by
  unfold paste
  split
  · exact .refl s
  · have hopen : s.SameOutput { s with pasteUntil := some (now + s.pasteWindow) } :=
      ⟨rfl, rfl, rfl, rfl, rfl, rfl, rfl, rfl⟩
    have hdata := hopen.trans (sameOutput_data _ b t now)
    dsimp only
    split
    · exact hdata
    · exact hdata.trans ⟨rfl, rfl, rfl, rfl, rfl, rfl, rfl, rfl⟩

theorem sameOutput_compositionEnd (s : Session σ) (b : Backend) (t : Text) (now : Nat) :
    s.SameOutput (s.compositionEnd b t now).2.1 := by
  unfold compositionEnd
  split
  · exact .refl s
  · have hidle : s.SameOutput { s with composition := .idle } :=
      ⟨rfl, rfl, rfl, rfl, rfl, rfl, rfl, rfl⟩
    dsimp only
    split
    · exact hidle.trans (sameOutput_submit _ _ _ _)
    · exact hidle

variable [Display σ]

theorem sameOutput_typeKey (s : Session σ) (b : Backend) (e : KeyEvent) (now : Nat) :
    s.SameOutput (s.typeKey b e now).2.1 := by
  unfold typeKey
  split
  · exact .refl s
  · split
    · exact .refl s
    · split
      · have hsubmit (t : Text) := sameOutput_submit s b t now
        dsimp only
        split
        · exact (hsubmit _).trans (sameOutput_mirror _ _)
        · exact hsubmit _
      · split <;> exact .refl s

theorem sameOutput_key (s : Session σ) (b : Backend) (e : KeyEvent) (now : Nat) :
    s.SameOutput (s.key b e now).2.1 := by
  unfold key
  split
  · exact .refl s
  · split
    · exact ⟨rfl, rfl, rfl, rfl, rfl, rfl, rfl, rfl⟩
    · split <;> exact .refl s
    · exact sameOutput_typeKey s b e now

/-- Calls about input have nothing to do with output. -/
theorem sameOutput_perform (s : Session σ) (b : Backend) {c : SessionCall}
    (hc : c.isOutput = false) (hd : c ≠ .dispose) : s.SameOutput (s.perform b c).1 := by
  cases c with
  | write data => exact .refl s
  | key e now => exact sameOutput_key s b e now
  | data t now => exact sameOutput_data s b t now
  | paste t now => exact sameOutput_paste s b t now
  | compositionStart | compositionUpdate | focusLost =>
    simp only [perform, compositionStart, compositionUpdate, focusLost, forceIdle]
    split <;> exact ⟨rfl, rfl, rfl, rfl, rfl, rfl, rfl, rfl⟩
  | compositionEnd t now => exact sameOutput_compositionEnd s b t now
  | setFilterEnabled | setMirroring => exact ⟨rfl, rfl, rfl, rfl, rfl, rfl, rfl, rfl⟩
  | dispose => exact absurd rfl hd
  | load | processEvents | flush | pollTimers | requestSize | fit => cases hc

theorem sameInput_processEvents (s : Session σ) (b : Backend) :
    s.SameInput (s.processEvents b).2.1 := by
  unfold processEvents
  split <;> exact ⟨rfl, rfl, rfl, rfl, rfl, rfl, rfl, rfl⟩

theorem sameInput_loadHistory (s : Session σ) (b : Backend) (now : Nat) :
    s.SameInput (s.loadHistory b now).1 := by
  unfold loadHistory
  split
  · exact .refl s
  · split <;> exact ⟨rfl, rfl, rfl, rfl, rfl, rfl, rfl, rfl⟩

theorem sameInput_pollTimers (s : Session σ) (b : Backend) (now : Nat) :
    s.SameInput (s.pollTimers b now).1 := by
  have hexpire : s.SameInput (s.expirePaste now) := by
    unfold expirePaste
    split <;> exact ⟨rfl, rfl, rfl, rfl, rfl, rfl, rfl, rfl⟩
  have hresizing (s : Session σ) : s.SameInput (s.pollResizing b now).1 := by
    unfold pollResizing
    split <;> exact ⟨rfl, rfl, rfl, rfl, rfl, rfl, rfl, rfl⟩
  have hsnapshots (s : Session σ) (b : Backend) : s.SameInput (s.pollSnapshots b now).1 := by
    unfold pollSnapshots
    split <;> exact ⟨rfl, rfl, rfl, rfl, rfl, rfl, rfl, rfl⟩
  exact hexpire.trans ((hresizing _).trans (hsnapshots _ _))

/-- Calls about output, time and size have nothing to do with input. -/
theorem sameInput_perform (s : Session σ) (b : Backend) {c : SessionCall}
    (hc : c.isOutput = true) : s.SameInput (s.perform b c).1 := by
  cases c with
  | load now meanwhile =>
    simp only [perform, load]
    split
    · exact .refl s
    · exact (sameInput_processEvents s b).trans (sameInput_loadHistory _ _ now)
  | processEvents => exact sameInput_processEvents s b
  | flush =>
    simp only [perform, flush]
    split <;> exact ⟨rfl, rfl, rfl, rfl, rfl, rfl, rfl, rfl⟩
  | pollTimers now => exact sameInput_pollTimers s b now
  | requestSize size now =>
    simp only [perform, requestSize]
    split <;> exact ⟨rfl, rfl, rfl, rfl, rfl, rfl, rfl, rfl⟩
  | fit size =>
    simp only [perform, fit]
    split <;> exact ⟨rfl, rfl, rfl, rfl, rfl, rfl, rfl, rfl⟩
  | _ => cases hc

/-- A session has one id and one platform for good. -/
theorem perform_fixed (s : Session σ) (b : Backend) (c : SessionCall) :
    (s.perform b c).1.id = s.id ∧ (s.perform b c).1.platform = s.platform := by
  cases ho : c.isOutput with
  | true => exact ⟨(sameInput_perform s b ho).id_eq, (sameInput_perform s b ho).platform_eq⟩
  | false =>
    by_cases hd : c = .dispose
    · subst hd
      simp only [perform, dispose]
      split <;> exact ⟨rfl, rfl⟩
    · have h := sameOutput_perform s b ho hd
      exact ⟨h.id_eq, h.platform_eq⟩

end Session

namespace Host

variable {σ : Type} [Display σ]

theorem advanceAll_fixed (h : Host σ) (events : List HostEvent) :
    (h.advanceAll events).session.id = h.session.id ∧
      (h.advanceAll events).session.platform = h.session.platform := by
  induction events generalizing h with
  | nil => exact ⟨rfl, rfl⟩
  | cons e events ih =>
    have hstep : (h.advance e).session.id = h.session.id ∧
        (h.advance e).session.platform = h.session.platform := by
      cases e with
      | call c => exact h.session.perform_fixed h.backend c
      | backend change => exact ⟨rfl, rfl⟩
    exact ⟨(ih _).1.trans hstep.1, (ih _).2.trans hstep.2⟩

theorem logs_processEvents (h : Host σ) :
    (h.perform .processEvents).backend.logs = h.backend.logs :=
  h.session.processEvents_stable (Backend.stable_logs (· = h.backend.logs)) rfl

/-- Loading takes the notifications that wait, and reads the history as it is by then. -/
theorem perform_load {h : Host σ} (hlive : h.session.disposed = false) (now : Nat)
    (meanwhile : List BackendChange) :
    h.perform (.load now meanwhile) =
      let h := h.perform .processEvents
      let (session, backend) := h.session.loadHistory (h.backend.undergoAll meanwhile) now
      ⟨session, backend⟩ := by
  simp [Host.perform, Session.perform, Session.load, hlive]

end Host

end TermSession
