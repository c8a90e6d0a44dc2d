import TermSession.Proofs.Session.Displays
import TermSession.Proofs.Session.StreamCalls
import TermSession.Proofs.Terminal.Cleared

/-!
# Sizes

The size of a surface changes when a size is applied, at once or when the one asked for is due, and
at no other time: a snapshot is replayed at its own size, but the surface gets its size back.  The
backend hears of each change, and the first size applied brings the controller up to date.

* `Host.Steady`: nothing has changed that has to do with sizes; `steady_advance`;
* `Host.Takes`: a size was applied; `takes_fit`;
* `Host.applied`: the sizes that a run applies;
* `Host.Unsized`: no size was applied; `advance_sizes`: every event is of one of the two kinds.
-/

namespace TermSession

/-! ### What a backend has heard -/

namespace Backend

/-- The backend has heard of no size in between. -/
structure SameSizes (b b' : Backend) : Prop where
  sizes : b'.sizes = b.sizes
  resyncAttempts : b'.resyncAttempts = b.resyncAttempts

namespace SameSizes

theorem refl (b : Backend) : b.SameSizes b := ⟨rfl, rfl⟩

theorem trans {b b' b'' : Backend} (h : b.SameSizes b') (h' : b'.SameSizes b'') :
    b.SameSizes b'' :=
  ⟨h'.sizes.trans h.sizes, h'.resyncAttempts.trans h.resyncAttempts⟩

end SameSizes

theorem sameSizes_undergo (b : Backend) (change : BackendChange) :
    b.SameSizes (b.undergo change) := by
  cases change <;> exact ⟨rfl, rfl⟩

theorem sameSizes_undergoAll (b : Backend) (changes : List BackendChange) :
    b.SameSizes (b.undergoAll changes) :=
  undergoAll_induction (fun change _ b' h => h.trans (b'.sameSizes_undergo change)) (.refl b)

theorem sameSizes_dispatch (b : Backend) (session : Text) (commands : List OscCommand)
    (loaded : Bool) : b.SameSizes (b.dispatch session commands loaded).2 := by
  refine dispatch_induction (fun b' ref patch h => h.trans ?_) (.refl b)
  unfold updateMeta
  split <;> exact ⟨rfl, rfl⟩

theorem sameSizes_sendInput (b : Backend) (session : Text) (data : List UInt8) :
    b.SameSizes (b.sendInput session data).2 := by
  unfold sendInput
  dsimp only
  split <;> exact ⟨rfl, rfl⟩

theorem sameSizes_saveSnapshot (b : Backend) (session kind : Text) (s : Thunk Snapshot) :
    b.SameSizes (b.saveSnapshot session kind s).2 := by
  unfold saveSnapshot
  dsimp only
  split <;> exact ⟨rfl, rfl⟩

theorem sizes_resync (b : Backend) (session : Text) (size : Size) :
    (b.resync session size).2.sizes = b.sizes ∧
      (b.resync session size).2.resyncAttempts = b.resyncAttempts.add (session, size) := by
  unfold resync
  dsimp only
  split <;> exact ⟨rfl, rfl⟩

theorem sameSizes_flush (t : SnapshotTimer) (r : Rendering) (b : Backend) (session : Text)
    (force : Bool) : b.SameSizes (t.flush r b session force).2.2 := by
  unfold SnapshotTimer.flush
  split
  · exact b.sameSizes_saveSnapshot _ _ _
  · exact .refl b

theorem sameSizes_load (r : Rendering) (b : Backend) (session kind : Text) :
    b.SameSizes (r.load b session kind).2.2 := by
  unfold Rendering.load
  split <;> exact ⟨rfl, rfl⟩

theorem sameSizes_handleEvents (id : Text) (events : List LogEvent) (r : Rendering) (b : Backend) :
    b.SameSizes (events.foldl (Session.handleEvent id) (r, b)).2 := by
  induction events generalizing r b with
  | nil => exact .refl b
  | cons e events ih => exact (b.sameSizes_dispatch id _ _).trans (ih _ _)

end Backend

/-! ### Output leaves sizes as they are -/

namespace Size

theorem atLeastOne_of_isPositive {z : Size} (h : z.isPositive = true) : z.atLeastOne = z := by
  simp only [isPositive, Bool.and_eq_true, decide_eq_true_eq] at h
  exact atLeastOne_eq h.1 h.2

end Size

namespace Rendering

variable {r : Rendering}

theorem size_render (hs : r.surface.size.atLeastOne = r.surface.size) (data : List UInt8) :
    (r.render data).1.surface.size = r.surface.size := by
  cases data with
  | nil => rfl
  | cons a data => exact Surface.size_write hs (a :: data)

theorem size_append (hs : r.surface.size.atLeastOne = r.surface.size) (c : Chunk) :
    (r.append c).1.surface.size = r.surface.size := by
  have hrender := size_render hs (c.news r.output.position)
  rw [render_fst] at hrender
  rw [append_fst]
  exact hrender

theorem size_appendAll (hs : r.surface.size.atLeastOne = r.surface.size) (chunks : List Chunk) :
    (r.appendAll chunks).1.surface.size = r.surface.size := by
  induction chunks generalizing r with
  | nil => rfl
  | cons c chunks ih =>
    have hsize := size_append hs c
    rw [appendAll_cons]
    exact (ih (by rw [hsize, hs])).trans hsize

theorem size_handle (hs : r.surface.size.atLeastOne = r.surface.size) (e : LogEvent) :
    (r.handle e).1.surface.size = r.surface.size := by
  cases e with
  | truncate offset => rfl
  | append offset data =>
    unfold handle
    dsimp only
    split
    · exact size_append hs _
    · rfl

theorem size_handleAll (hs : r.surface.size.atLeastOne = r.surface.size) (events : List LogEvent) :
    (r.handleAll events).surface.size = r.surface.size := by
  induction events generalizing r with
  | nil => rfl
  | cons e events ih =>
    have hsize := size_handle hs e
    exact (ih (by rw [hsize, hs])).trans hsize

/-- After a snapshot the surface has its size back. -/
theorem size_applySnapshot (hs : r.surface.size.atLeastOne = r.surface.size) (s : Snapshot) :
    (r.applySnapshot s).surface.size = r.surface.size := by
  unfold applySnapshot
  dsimp only
  split
  · exact hs
  · exact Surface.size_write hs _

theorem size_afterSnapshot (hs : r.surface.size.atLeastOne = r.surface.size) (a : Answers) :
    (r.afterSnapshot a).surface.size = r.surface.size := by
  unfold afterSnapshot
  cases r.starting? a with
  | none => rfl
  | some s => exact size_applySnapshot hs s

theorem size_afterTail (hs : r.surface.size.atLeastOne = r.surface.size) (a : Answers) :
    (r.afterTail a).surface.size = r.surface.size := by
  unfold afterTail
  cases a.tail r.output.position with
  | none => rfl
  | some tail =>
    have hmoved : { r with output.position := tail.offset }.surface.size.atLeastOne =
        { r with output.position := tail.offset }.surface.size := hs
    exact size_render hmoved tail.data

theorem size_load (hs : r.surface.size.atLeastOne = r.surface.size) (b : Backend)
    (session kind : Text) : (r.load b session kind).1.surface.size = r.surface.size := by
  have hload : (r.load b session kind).1 = r.respond (.load (b.answers session kind)) :=
    congrArg Prod.fst (r.load_eq_loadFrom b session kind)
  rw [hload]
  generalize b.answers session kind = a
  cases hl : r.output.loaded with
  | true => rw [respond_load_of_loaded hl]
  | false =>
    have hstart := size_afterSnapshot hs a
    have htail := size_afterTail (by rw [hstart, hs]) a
    have hopened : ((r.afterSnapshot a).afterTail a).opened.surface.size = r.surface.size :=
      htail.trans hstart
    rw [respond_load hl, size_appendAll (by rw [hopened, hs]), hopened]

end Rendering

/-! ### Calls that apply no size -/

namespace Host

/-- The size of the surface, until it is released. -/
def size (h : Host) : Option Size := h.session.size

theorem size_eq_of_surface {h : Host} {live : Surface} (hs : h.session.surface = some live) :
    h.size = some live.size := by
  rw [size, Session.size, hs]
  rfl

theorem size_eq_none {h : Host} (hs : h.session.surface = none) : h.size = none := by
  rw [size, Session.size, hs]
  rfl

theorem size_eq_of_surfaces {h h' : Host} {live live' : Surface}
    (hs : h.session.surface = some live) (hs' : h'.session.surface = some live')
    (hsize : live'.size = live.size) : h'.size = h.size := by
  rw [size_eq_of_surface hs, size_eq_of_surface hs', hsize]

/-- Nothing has changed that has to do with sizes. -/
structure Steady (h h' : Host) : Prop where
  id_eq : h'.session.id = h.session.id
  disposed_eq : h'.session.disposed = h.session.disposed
  resizing_eq : h'.session.resizing = h.session.resizing
  size_eq : h'.size = h.size
  backend : h.backend.SameSizes h'.backend

namespace Steady

theorem refl (h : Host) : h.Steady h := ⟨rfl, rfl, rfl, rfl, .refl _⟩

theorem trans {h h' h'' : Host} (a : h.Steady h') (a' : h'.Steady h'') : h.Steady h'' where
  id_eq := a'.id_eq.trans a.id_eq
  disposed_eq := a'.disposed_eq.trans a.disposed_eq
  resizing_eq := a'.resizing_eq.trans a.resizing_eq
  size_eq := a'.size_eq.trans a.size_eq
  backend := a.backend.trans a'.backend

end Steady

/-- The surface has at least one row and one column, until it is released. -/
def Proper (h : Host) : Prop := ∀ z ∈ h.size, z.atLeastOne = z

theorem Steady.proper {h h' : Host} (a : h.Steady h') (hp : h.Proper) : h'.Proper := by
  intro z hz
  rw [a.size_eq] at hz
  exact hp z hz

theorem Proper.surface {h : Host} (hp : h.Proper) {live : Surface}
    (hs : h.session.surface = some live) : live.size.atLeastOne = live.size :=
  hp live.size (size_eq_of_surface hs)

theorem steady_processEvents {h : Host} (hp : h.Proper) : h.Steady (h.perform .processEvents) := by
  cases hs : h.session.surface with
  | none =>
    have hidle : h.perform .processEvents = h := by
      simp [perform, Session.perform, Session.processEvents, hs]
    rw [hidle]
    exact .refl h
  | some live =>
    cases hr : h.session.receiver with
    | none =>
      have hidle : h.perform .processEvents = h := by
        simp [perform, Session.perform, Session.processEvents, hs, hr]
      rw [hidle]
      exact .refl h
    | some receiver =>
      have hprocess := Session.processEvents_eq hs hr h.backend
      obtain ⟨hrendering, -⟩ := Session.foldl_handleEvent h.session.id
        (h.backend.waiting receiver) ⟨h.session.output, live⟩ (h.backend.receiveAll receiver).2
      have hbackend := Backend.sameSizes_handleEvents h.session.id (h.backend.waiting receiver)
        ⟨h.session.output, live⟩ (h.backend.receiveAll receiver).2
      have hsize := Rendering.size_handleAll (r := ⟨h.session.output, live⟩) (hp.surface hs)
        (h.backend.waiting receiver)
      rw [← hrendering] at hsize
      have hreceive : h.backend.SameSizes (h.backend.receiveAll receiver).2 := ⟨rfl, rfl⟩
      have hperform : h.perform .processEvents =
          ⟨(h.session.processEvents h.backend).2.1, (h.session.processEvents h.backend).2.2⟩ := rfl
      rw [hperform, hprocess]
      exact ⟨rfl, rfl, rfl, size_eq_of_surfaces hs rfl hsize, hreceive.trans hbackend⟩

theorem steady_loadHistory {h : Host} (hp : h.Proper) (now : Nat) :
    h.Steady ⟨(h.session.loadHistory h.backend now).1,
      (h.session.loadHistory h.backend now).2⟩ := by
  unfold Session.loadHistory
  split
  · exact .refl h
  · split
    · rename_i live hs
      have hsize := Rendering.size_load (r := ⟨h.session.output, live⟩) (hp.surface hs) h.backend
        h.session.id h.session.timer.settings.kind
      have hload := Backend.sameSizes_load ⟨h.session.output, live⟩ h.backend h.session.id
        h.session.timer.settings.kind
      exact ⟨rfl, rfl, rfl, size_eq_of_surfaces hs rfl hsize,
        hload.trans (Backend.sameSizes_dispatch _ _ _ _)⟩
    · exact .refl h

theorem steady_load {h : Host} (hp : h.Proper) (now : Nat) (meanwhile : List BackendChange) :
    h.Steady (h.perform (.load now meanwhile)) := by
  cases hd : h.session.disposed with
  | true =>
    have hperform : h.perform (.load now meanwhile) =
        { h with backend := h.backend.undergoAll meanwhile } := by
      simp [perform, Session.perform, Session.load, hd]
    rw [hperform]
    exact ⟨rfl, rfl, rfl, rfl, h.backend.sameSizes_undergoAll meanwhile⟩
  | false =>
    have hprocess := steady_processEvents hp
    have hfound : h.Steady { h.perform .processEvents with
        backend := (h.perform .processEvents).backend.undergoAll meanwhile } :=
      hprocess.trans ⟨rfl, rfl, rfl, rfl, Backend.sameSizes_undergoAll _ meanwhile⟩
    rw [perform_load hd]
    exact hfound.trans (steady_loadHistory (hfound.proper hp) now)

theorem surface_flush (t : SnapshotTimer) (r : Rendering) (b : Backend) (session : Text)
    (force : Bool) : (t.flush r b session force).2.1.surface = r.surface := by
  unfold SnapshotTimer.flush
  split <;> rfl

theorem steady_flush (h : Host) : h.Steady (h.perform .flush) := by
  show h.Steady ⟨(h.session.flush h.backend).2.1, (h.session.flush h.backend).2.2⟩
  unfold Session.flush
  split
  · rename_i live hs
    have hsurface := surface_flush h.session.timer ⟨h.session.output, live⟩ h.backend h.session.id
      true
    exact ⟨rfl, rfl, rfl, size_eq_of_surfaces hs rfl (congrArg Surface.size hsurface),
      Backend.sameSizes_flush _ ⟨h.session.output, live⟩ _ _ _⟩
  · exact .refl h

theorem steady_pollSnapshots (h : Host) (now : Nat) :
    h.Steady ⟨(h.session.pollSnapshots h.backend now).1,
      (h.session.pollSnapshots h.backend now).2⟩ := by
  unfold Session.pollSnapshots SnapshotTimer.poll
  split
  · rename_i live hs
    by_cases hdue : h.session.timer.isDue now
    · have hsurface := surface_flush h.session.timer ⟨h.session.output, live⟩ h.backend
        h.session.id false
      rw [if_pos hdue]
      exact ⟨rfl, rfl, rfl, size_eq_of_surfaces hs rfl (congrArg Surface.size hsurface),
        Backend.sameSizes_flush _ ⟨h.session.output, live⟩ _ _ _⟩
    · rw [if_neg hdue]
      exact ⟨rfl, rfl, rfl, size_eq_of_surfaces hs rfl rfl, .refl _⟩
  · exact .refl h

/-- A paste whose window is over is forgotten. -/
def expirePaste (h : Host) (now : Nat) : Host :=
  { h with session := h.session.expirePaste now }

theorem steady_expirePaste (h : Host) (now : Nat) : h.Steady (h.expirePaste now) := by
  unfold expirePaste Session.expirePaste
  split <;> exact ⟨rfl, rfl, rfl, rfl, .refl _⟩

theorem surface_expirePaste (h : Host) (now : Nat) :
    (h.expirePaste now).session.surface = h.session.surface := by
  unfold expirePaste Session.expirePaste
  split <;> rfl

theorem steady_of_sameOutput {h h' : Host} (hs : h.session.SameOutput h'.session)
    (hb : h.backend.SameSizes h'.backend) : h.Steady h' where
  id_eq := hs.id_eq
  disposed_eq := hs.disposed_eq
  resizing_eq := hs.resizing_eq
  size_eq := by rw [size, size, Session.size, Session.size, hs.surface_eq]
  backend := hb

/-- Calls that are about neither output, time nor size leave sizes as they are. -/
theorem steady_of_not_isOutput (h : Host) {c : SessionCall} (ho : c.isOutput = false)
    (hd : c ≠ .dispose) : h.Steady (h.perform c) := by
  refine steady_of_sameOutput (h.session.sameOutput_perform h.backend ho hd) ?_
  show h.backend.SameSizes (h.session.perform h.backend c).2
  cases hi : c.isInput with
  | true =>
    exact Session.perform_sends (fun b session data hb => hb.trans (b.sameSizes_sendInput _ _))
      h.session hi (.refl h.backend)
  | false =>
    cases c with
    | write | key | data | paste | compositionEnd => cases hi
    | load | processEvents | flush | pollTimers | requestSize | fit => cases ho
    | dispose => exact absurd rfl hd
    | compositionStart | compositionUpdate | focusLost | setFilterEnabled | setMirroring =>
      exact .refl h.backend

end Host

/-- Is the event about sizes, or the end? -/
def HostEvent.isSizing : HostEvent → Bool
  | .call (.requestSize _ _) | .call (.fit _) | .call (.pollTimers _) | .call .dispose => true
  | _ => false

namespace Host

/-- Everything that is not about sizes leaves them as they are. -/
theorem steady_advance {h : Host} (hp : h.Proper) {e : HostEvent} (he : e.isSizing = false) :
    h.Steady (h.advance e) := by
  cases e with
  | backend change => exact ⟨rfl, rfl, rfl, rfl, h.backend.sameSizes_undergo change⟩
  | call c =>
    cases ho : c.isOutput with
    | false =>
      refine steady_of_not_isOutput h ho ?_
      rintro rfl
      cases he
    | true =>
      cases c with
      | load now meanwhile => exact steady_load hp now meanwhile
      | processEvents => exact steady_processEvents hp
      | flush => exact steady_flush h
      | requestSize | fit | pollTimers => cases he
      | _ => cases ho

/-! ### Applying a size -/

/-- A size was applied: the surface has it, the backend hears of it if it is new, and the controller
is brought up to date if it is the first. -/
structure Takes (h : Host) (z : Size) (h' : Host) : Prop where
  id_eq : h'.session.id = h.session.id
  live : h.size.isSome
  positive : z.isPositive = true
  hasResized : h'.session.resizing.hasResized = true
  size : h'.size = some z
  sizes : h'.backend.sizes.toList =
    h.backend.sizes.toList ++ if h.size = some z then [] else [(h.session.id, z)]
  resyncAttempts : h'.backend.resyncAttempts.toList = h.backend.resyncAttempts.toList ++
    if h.session.resizing.hasResized then [] else [(h.session.id, z)]

theorem Takes.proper {h h' : Host} {z : Size} (a : h.Takes z h') : h'.Proper := by
  intro z' hz'
  rw [a.size] at hz'
  cases hz'
  exact Size.atLeastOne_of_isPositive a.positive

/-- What is steady before and after makes no difference. -/
theorem Takes.of_steady {h h₁ h₂ h₃ : Host} {z : Size} (a : h.Steady h₁) (t : h₁.Takes z h₂)
    (a' : h₂.Steady h₃) : h.Takes z h₃ where
  id_eq := a'.id_eq.trans (t.id_eq.trans a.id_eq)
  live := by rw [← a.size_eq]; exact t.live
  positive := t.positive
  hasResized := by rw [a'.resizing_eq, t.hasResized]
  size := a'.size_eq.trans t.size
  sizes := by rw [a'.backend.sizes, t.sizes, a.backend.sizes, a.size_eq, a.id_eq]
  resyncAttempts := by
    rw [a'.backend.resyncAttempts, t.resyncAttempts, a.backend.resyncAttempts, a.resizing_eq,
      a.id_eq]

theorem fit_released {h : Host} (hs : h.session.surface = none) (z : Size) :
    h.perform (.fit z) = h := by
  simp [perform, Session.perform, Session.fit, hs]

theorem fit_eq {h : Host} {live : Surface} (hs : h.session.surface = some live) (z : Size) :
    h.perform (.fit z) =
      let (_, resizing, surface, backend) :=
        h.session.resizing.apply z live h.backend h.session.id
      ⟨{ h.session with resizing, surface := some surface }, backend⟩ := by
  simp [perform, Session.perform, Session.fit, hs]

/-- A size without rows or columns is ignored. -/
theorem fit_of_not_isPositive (h : Host) {z : Size} (hz : z.isPositive = false) :
    h.perform (.fit z) = h := by
  cases hs : h.session.surface with
  | none => exact fit_released hs z
  | some live =>
    have happly : h.session.resizing.apply z live h.backend h.session.id =
        (⟨Display.size live, false, false⟩, h.session.resizing, live, h.backend) :=
      if_neg (by simp [hz])
    rw [fit_eq hs, happly]
    simp only [← hs]

theorem takes_fit {h : Host} {live : Surface} (hs : h.session.surface = some live) {z : Size}
    (hz : z.isPositive = true) : h.Takes z (h.perform (.fit z)) := by
  have hold : h.size = some live.size := size_eq_of_surface hs
  have hnew : (if live.size = z then live else live.resize z).size = z := by
    split
    · assumption
    · exact Size.atLeastOne_of_isPositive hz
  rw [fit_eq hs]
  unfold Resizing.apply
  rw [if_pos hz]
  dsimp only [Display.size, Display.resize]
  rw [hnew]
  -- The backend once it has heard of the size.
  have hset : (if live.size ≠ z then h.backend.setSize h.session.id z else h.backend).sizes.toList =
        h.backend.sizes.toList ++ (if some live.size = some z then [] else [(h.session.id, z)]) ∧
      (if live.size ≠ z then h.backend.setSize h.session.id z else h.backend).resyncAttempts =
        h.backend.resyncAttempts := by
    by_cases heq : live.size = z
    · simp [heq]
    · simp [heq, Backend.setSize]
  generalize (if live.size ≠ z then h.backend.setSize h.session.id z else h.backend) = b at hset
  obtain ⟨hsizes, hresyncs⟩ := hset
  obtain ⟨hsizes', hresyncs'⟩ := b.sizes_resync h.session.id z
  constructor
  · rfl
  · rw [hold]
    rfl
  · exact hz
  · rfl
  · exact congrArg some hnew
  · rw [hold]
    cases h.session.resizing.hasResized with
    | true => exact hsizes
    | false => exact (congrArg Journal.toList hsizes').trans hsizes
  · cases h.session.resizing.hasResized with
    | true => simp [hresyncs]
    | false => simp [hresyncs, hresyncs']

theorem debouncer_fit (h : Host) (z : Size) :
    (h.perform (.fit z)).session.resizing.debouncer = h.session.resizing.debouncer := by
  cases hs : h.session.surface with
  | none => rw [fit_released hs]
  | some live =>
    rw [fit_eq hs]
    unfold Resizing.apply
    dsimp only
    split <;> rfl

end Host

/-! ### Polling -/

namespace Debouncer

variable {α : Type} {d : Debouncer α} {now : Nat}

theorem poll_of_idle (h : ∀ p ∈ d.pending, now < p.due) : d.poll now = (none, d) := by
  unfold poll
  split
  · rename_i p hp
    exact if_neg (Nat.not_le.2 (h p hp))
  · rfl

theorem poll_of_due {p : Pending α} (hp : d.pending = some p) (hdue : p.due ≤ now) :
    d.poll now = (some p.value, d.cancel) := by
  rw [poll, hp]
  exact if_pos hdue

end Debouncer

namespace Host

/-- The size asked for is dropped. -/
def cancelled (h : Host) : Host :=
  { h with session := { h.session with resizing := h.session.resizing.cancel } }

theorem Takes.of_cancelled {h h' : Host} {z : Size} (t : h.cancelled.Takes z h') :
    h.Takes z h' :=
  ⟨t.id_eq, t.live, t.positive, t.hasResized, t.size, t.sizes, t.resyncAttempts⟩

/-- A poll looks at the size asked for before it looks at the snapshots. -/
theorem pollTimers_steady {h h' : Host} {now : Nat}
    (hpoll : (h.expirePaste now).session.pollResizing h.backend now = (h'.session, h'.backend)) :
    h'.Steady (h.perform (.pollTimers now)) := by
  have hperform : h.perform (.pollTimers now) =
      ⟨(h'.session.pollSnapshots h'.backend now).1,
        (h'.session.pollSnapshots h'.backend now).2⟩ := by
    have hpoll' : (h.session.expirePaste now).pollResizing h.backend now =
        (h'.session, h'.backend) := hpoll
    simp only [perform, Session.perform, Session.pollTimers, hpoll']
  rw [hperform]
  exact steady_pollSnapshots h' now

/-- A poll has to do with sizes only while the surface is there. -/
theorem steady_pollTimers_released {h : Host} (hs : h.session.surface = none) (now : Nat) :
    h.Steady (h.perform (.pollTimers now)) := by
  have hsurface := (h.surface_expirePaste now).trans hs
  refine (h.steady_expirePaste now).trans (pollTimers_steady ?_)
  simp only [Session.pollResizing, hsurface]
  rfl

/-- A poll has to do with sizes only if one that was asked for is due. -/
theorem steady_pollTimers {h : Host} {now : Nat}
    (hidle : ∀ p ∈ h.session.resizing.debouncer.pending, now < p.due) :
    h.Steady (h.perform (.pollTimers now)) := by
  have hresizing := (h.steady_expirePaste now).resizing_eq
  refine (h.steady_expirePaste now).trans (pollTimers_steady ?_)
  unfold Session.pollResizing
  split
  · rename_i live hs
    simp only [Resizing.poll, hresizing, Debouncer.poll_of_idle hidle]
    rw [← hs, ← hresizing]
    rfl
  · rfl

/-- A poll applies the size that is due, and drops it from what is asked for. -/
theorem exists_steady_fit {h : Host} {live : Surface} (hs : h.session.surface = some live)
    {p : Pending Size} (hp : h.session.resizing.debouncer.pending = some p) {now : Nat}
    (hdue : p.due ≤ now) :
    ∃ h₁ : Host, h.Steady h₁ ∧ h₁.session.surface = some live ∧
      (h₁.cancelled.perform (.fit p.value)).Steady (h.perform (.pollTimers now)) := by
  have hexpire := h.steady_expirePaste now
  have hsurface := (h.surface_expirePaste now).trans hs
  refine ⟨_, hexpire, hsurface, pollTimers_steady ?_⟩
  have hcancelled : (h.expirePaste now).cancelled.session.surface = some live := hsurface
  rw [fit_eq hcancelled]
  simp only [Session.pollResizing, hsurface, Resizing.poll, hexpire.resizing_eq,
    Debouncer.poll_of_due hp hdue]
  simp only [cancelled, Resizing.cancel, hexpire.resizing_eq]
  rfl

/-! ### The sizes that are applied -/

/-- No size was applied; the surface may have been released. -/
structure Unsized (h h' : Host) : Prop where
  id_eq : h'.session.id = h.session.id
  hasResized_eq : h'.session.resizing.hasResized = h.session.resizing.hasResized
  size_eq : h'.size = h.size ∨ h'.size = none
  backend : h.backend.SameSizes h'.backend

theorem Steady.unsized {h h' : Host} (a : h.Steady h') : h.Unsized h' where
  id_eq := a.id_eq
  hasResized_eq := by rw [a.resizing_eq]
  size_eq := .inl a.size_eq
  backend := a.backend

theorem Unsized.mem_size {h h' : Host} (u : h.Unsized h') {z : Size} (hz : z ∈ h'.size) :
    z ∈ h.size := by
  rcases u.size_eq with hsame | hreleased
  · rwa [hsame] at hz
  · rw [hreleased] at hz
    cases hz

/-- A request takes the place of the one before. -/
theorem perform_requestSize {h : Host} (hlive : h.session.disposed = false) (z : Size) (now : Nat) :
    h.perform (.requestSize z now) =
      { h with session := { h.session with resizing := h.session.resizing.request z now } } := by
  simp [perform, Session.perform, Session.requestSize, hlive]

theorem unsized_requestSize (h : Host) (z : Size) (now : Nat) :
    h.Unsized (h.perform (.requestSize z now)) := by
  show h.Unsized { h with session := h.session.requestSize z now }
  unfold Session.requestSize
  split <;> exact ⟨rfl, rfl, .inl rfl, .refl _⟩

theorem unsized_dispose (h : Host) : h.Unsized (h.perform .dispose) := by
  show h.Unsized ⟨(h.session.dispose h.backend).1, (h.session.dispose h.backend).2⟩
  unfold Session.dispose
  split
  · exact (Steady.refl h).unsized
  · refine ⟨rfl, rfl, .inr rfl, ?_⟩
    dsimp only
    split <;> exact ⟨rfl, rfl⟩

/-- The size that an event applies.  One without rows or columns is ignored. -/
def applied? (h : Host) : HostEvent → Option Size
  | .call (.fit z) => if h.size.isSome && z.isPositive then some z else none
  | .call (.pollTimers now) =>
    if h.size.isSome then (h.session.resizing.debouncer.poll now).1.filter Size.isPositive else none
  | _ => none

/-- The sizes that a run applies, in order. -/
def applied (h : Host) : List HostEvent → List Size
  | [] => []
  | e :: events => (h.applied? e).toList ++ (h.advance e).applied events

theorem fit_sizes (h : Host) (z : Size) :
    (h.applied? (.call (.fit z)) = none ∧ h.Unsized (h.perform (.fit z))) ∨
      h.applied? (.call (.fit z)) = some z ∧ h.Takes z (h.perform (.fit z)) := by
  cases hs : h.session.surface with
  | none =>
    refine .inl ⟨by simp [applied?, size_eq_none hs], ?_⟩
    rw [fit_released hs]
    exact (Steady.refl h).unsized
  | some live =>
    cases hz : z.isPositive with
    | true => exact .inr ⟨by simp [applied?, size_eq_of_surface hs, hz], takes_fit hs hz⟩
    | false =>
      refine .inl ⟨by simp [applied?, hz], ?_⟩
      rw [h.fit_of_not_isPositive hz]
      exact (Steady.refl h).unsized

theorem pollTimers_sizes (h : Host) (now : Nat) :
    (h.applied? (.call (.pollTimers now)) = none ∧ h.Unsized (h.perform (.pollTimers now))) ∨
      ∃ z, h.applied? (.call (.pollTimers now)) = some z ∧
        h.Takes z (h.perform (.pollTimers now)) := by
  cases hs : h.session.surface with
  | none =>
    exact .inl ⟨by simp [applied?, size_eq_none hs], (steady_pollTimers_released hs now).unsized⟩
  | some live =>
    have hlive := size_eq_of_surface hs
    by_cases hidle : ∀ p ∈ h.session.resizing.debouncer.pending, now < p.due
    · refine .inl ⟨?_, (steady_pollTimers hidle).unsized⟩
      simp [applied?, Debouncer.poll_of_idle hidle]
    · obtain ⟨p, hp, hdue⟩ : ∃ p, h.session.resizing.debouncer.pending = some p ∧ p.due ≤ now := by
        simpa using hidle
      have happlied : h.applied? (.call (.pollTimers now)) =
          (some p.value).filter Size.isPositive := by
        simp [applied?, hlive, Debouncer.poll_of_due hp hdue]
      obtain ⟨h₁, hbefore, hs₁, hafter⟩ := exists_steady_fit hs hp hdue
      cases hz : p.value.isPositive with
      | true =>
        refine .inr ⟨p.value, by simp [happlied, Option.filter, hz], ?_⟩
        have hfit : h₁.cancelled.Takes p.value (h₁.cancelled.perform (.fit p.value)) :=
          takes_fit (h := h₁.cancelled) hs₁ hz
        exact .of_steady hbefore hfit.of_cancelled hafter
      | false =>
        refine .inl ⟨by simp [happlied, Option.filter, hz], ?_⟩
        rw [h₁.cancelled.fit_of_not_isPositive hz] at hafter
        exact
          { id_eq := hafter.id_eq.trans hbefore.id_eq
            hasResized_eq := by
              rw [hafter.resizing_eq, ← hbefore.resizing_eq]
              rfl
            size_eq := .inl (hafter.size_eq.trans hbefore.size_eq)
            backend := hbefore.backend.trans hafter.backend }

/-- Every event applies a size or applies none. -/
theorem advance_sizes {h : Host} (hp : h.Proper) (e : HostEvent) :
    (h.applied? e = none ∧ h.Unsized (h.advance e)) ∨
      ∃ z, h.applied? e = some z ∧ h.Takes z (h.advance e) := by
  cases he : e.isSizing with
  | false =>
    have hnone : h.applied? e = none := by
      cases e with
      | backend change => rfl
      | call c => cases c <;> first | rfl | cases he
    exact .inl ⟨hnone, (steady_advance hp he).unsized⟩
  | true =>
    cases e with
    | backend change => cases he
    | call c =>
      cases c with
      | requestSize z now => exact .inl ⟨rfl, h.unsized_requestSize z now⟩
      | dispose => exact .inl ⟨rfl, h.unsized_dispose⟩
      | fit z =>
        rcases h.fit_sizes z with hnone | hsome
        · exact .inl hnone
        · exact .inr ⟨z, hsome⟩
      | pollTimers now => exact h.pollTimers_sizes now
      | _ => cases he

theorem Proper.advance {h : Host} (hp : h.Proper) (e : HostEvent) : (h.advance e).Proper := by
  rcases advance_sizes hp e with ⟨-, u⟩ | ⟨z, -, t⟩
  · exact fun z hz => hp z (u.mem_size hz)
  · exact t.proper

theorem proper_start (id : Text) (size : Size) (calls : List DisplayCall) (config : Config)
    (b : Backend) :
    (start id (Display.performAll (Surface.new size) calls) config b).Proper := by
  intro z hz
  cases hz
  exact Surface.atLeastOne_size_performAll size calls

end Host

end TermSession
