import TermSession.Proofs.Session.Arrivals

/-!
# Sessions that read a log

Before a session has loaded, it holds back what it is notified of.  Once it has loaded, it reads the
log on, and the commands that end beyond the history take effect.

* `Host.arrivals`: what a session is notified of in a run;
* `Host.Awaits`, `Host.Reads`, `Host.Closed`: a session before and after loading and at its end;
* `Awaits.processEvents`, `Awaits.loadHistory`, `Reads.processEvents`: the calls that read;
* `Awaits.advanceAll`, `Reads.advanceAll`, `Closed.advanceAll`: whole runs.
-/

namespace TermSession

/-- Does the session load in this event? -/
def HostEvent.isLoad : HostEvent → Bool
  | .call (.load _ _) => true
  | _ => false

namespace Host

/-- The chunks that a session is notified of during events, in order. -/
def arrivals {σ : Type} [Display σ] (h : Host σ) (session : Text) : List HostEvent → List Chunk
  | [] => []
  | e :: events =>
    h.backend.arrivals session e.changes ++ (h.advance e).arrivals session events

/-- The backend has made the entries, and `waiting` waits for the session, which is live. -/
structure Listens (id kind : Text) (ref : Text → Option ObjectRef) (receiver : Receiver)
    (h : Host) (waiting : List Chunk) (entries : List (ObjectRef × Json.Object)) : Prop where
  id_eq : h.session.id = id
  kind_eq : h.session.timer.settings.kind = kind
  live : h.session.disposed = false
  receiver_eq : h.session.receiver = some receiver
  receiver_session : receiver.session = id
  resolves : h.backend.Resolves ref
  delivers : h.backend.Delivers receiver (waiting.map Chunk.event)
  patches : h.backend.patches.toList = entries

variable {id kind : Text} {ref : Text → Option ObjectRef} {receiver : Receiver} {h : Host}
  {waiting : List Chunk} {entries : List (ObjectRef × Json.Object)}

theorem Listens.aside (l : Listens id kind ref receiver h waiting entries) {c : SessionCall}
    (hc : c.isAside = true) : Listens id kind ref receiver (h.perform c) waiting entries := by
  have hplace := h.session.samePlace_perform h.backend hc
  have hbackend := h.session.undisturbed_perform h.backend hc
  exact
    { id_eq := hplace.id_eq.trans l.id_eq
      kind_eq := (congrArg SnapshotSettings.kind hplace.settings_eq).trans l.kind_eq
      live := hplace.disposed_eq.trans l.live
      receiver_eq := hplace.receiver_eq.trans l.receiver_eq
      receiver_session := l.receiver_session
      resolves := l.resolves.congr hbackend.ids hbackend.failing
      delivers := l.delivers.of_feeds_eq hbackend.feeds
      patches := (congrArg Journal.toList hbackend.patches).trans l.patches }

theorem Listens.undergoAll (l : Listens id kind ref receiver h waiting entries)
    (changes : List BackendChange) (hc : ∀ change ∈ changes, change.IsOrderly id ref) :
    Listens id kind ref receiver { h with backend := h.backend.undergoAll changes }
      (waiting ++ h.backend.arrivals id changes) entries := by
  induction changes generalizing h waiting with
  | nil => simpa [Backend.undergoAll, Backend.arrivals] using l
  | cons change changes ih =>
    have hchange := hc change List.mem_cons_self
    have hdelivers := l.delivers.undergo (l.receiver_session ▸ hchange)
    rw [l.receiver_session] at hdelivers
    have l' : Listens id kind ref receiver { h with backend := h.backend.undergo change }
        (waiting ++ (change.arrival? h.backend id).toList) entries :=
      { id_eq := l.id_eq
        kind_eq := l.kind_eq
        live := l.live
        receiver_eq := l.receiver_eq
        receiver_session := l.receiver_session
        resolves := l.resolves.undergo hchange
        delivers := hdelivers
        patches := by rw [Backend.undergo_patches, l.patches] }
    simpa [Backend.undergoAll, Backend.arrivals, List.append_assoc] using
      ih l' fun change h => hc change (List.mem_cons_of_mem _ h)

/-- Before loading: nothing is read, and `held` is held back. -/
structure Awaits (id kind : Text) (ref : Text → Option ObjectRef) (receiver : Receiver)
    (h : Host) (held waiting : List Chunk) (entries : List (ObjectRef × Json.Object)) : Prop
    extends Listens id kind ref receiver h waiting entries where
  unloaded : h.session.output.loaded = false
  position_eq : h.session.output.position = 0
  fresh : h.session.output.snapshotStale = false
  held_eq : h.session.output.held = held
  decoder_eq : h.session.surface.map Surface.decoder = some .idle

/-- After loading: the log is read so far, and the commands beyond the history have made their
entries. -/
structure Reads (id kind : Text) (ref : Text → Option ObjectRef) (receiver : Receiver)
    (y : History) (made : List (ObjectRef × Json.Object)) (h : Host) (waiting : List Chunk) : Prop
    extends Listens id kind ref receiver h waiting
      (made ++ MetaEffect.entries id ref (y.commandsUpTo h.session.output.position)) where
  loaded : h.session.output.loaded = true
  start_le : y.start ≤ y.tail
  tail_le : y.tail ≤ h.session.output.position
  hasRead : ∃ surface, h.session.surface = some surface ∧
    Rendering.HasRead ⟨h.session.output, surface⟩ y.origin y.start y.log

/-- After the end: the session does nothing more. -/
structure Closed (h : Host) (position : Nat) (entries : List (ObjectRef × Json.Object)) :
    Prop where
  disposed : h.session.disposed = true
  surface : h.session.surface = none
  position_eq : h.session.output.position = position
  patches : h.backend.patches.toList = entries

variable {y : History} {made : List (ObjectRef × Json.Object)}

/-- A session that has read on from a position has the commands that end there take effect. -/
theorem Listens.reads {p : Nat}
    (l : Listens id kind ref receiver h waiting
      (made ++ MetaEffect.entries id ref (y.commandsUpTo p)))
    (hstart : y.start ≤ y.tail) (htail : y.tail ≤ p) {r : Rendering} (hp : p ≤ r.output.position)
    (hread : r.HasRead y.origin y.start y.log) (hloaded : r.output.loaded = true)
    {t : SnapshotTimer} (ht : t.settings = h.session.timer.settings) {b : Backend}
    (hids : b.ids = h.backend.ids) (hfailing : b.failing = h.backend.failing)
    (hpatches : b.patches = h.backend.patches) {w : List Chunk}
    (hdelivers : b.Delivers receiver (w.map Chunk.event))
    (hresolved : ∀ c ∈ y.commandsUpTo y.log.length, MetaEffect.Resolved id ref c) :
    Reads id kind ref receiver y made
      ⟨{ h.session.withRendering r with timer := t },
        (b.dispatch id (commandsBetween y.origin y.start y.log p r.output.position) true).2⟩
      w := by
  have hcommands := History.commandsUpTo_append hstart htail hp hread.le_length
  have hall := History.commandsUpTo_append hstart (Nat.le_trans htail hp) hread.le_length
    (Nat.le_refl _)
  have hnew : ∀ c ∈ commandsBetween y.origin y.start y.log p r.output.position,
      MetaEffect.Resolved id ref c := by
    intro c hc
    refine hresolved c ?_
    rw [← hall, ← hcommands]
    exact List.mem_append_left _ (List.mem_append_right _ hc)
  have hresolves : b.Resolves ref := l.resolves.congr hids hfailing
  have hkeeps := b.keeps_dispatch id
    (commandsBetween y.origin y.start y.log p r.output.position) true
  exact
    { id_eq := l.id_eq
      kind_eq := (congrArg SnapshotSettings.kind ht).trans l.kind_eq
      live := l.live
      receiver_eq := l.receiver_eq
      receiver_session := l.receiver_session
      resolves := hresolves.congr hkeeps.ids hkeeps.failing
      delivers := hdelivers.of_feeds_eq hkeeps.feeds
      patches := by
        rw [hresolves.dispatch hnew, hpatches, l.patches, List.append_assoc,
          ← MetaEffect.entries_append, hcommands]
        rfl
      loaded := hloaded
      start_le := hstart
      tail_le := Nat.le_trans htail hp
      hasRead := ⟨r.surface, rfl, hread⟩ }

/-! ### Notifications -/

/-- The waiting chunks are held back. -/
theorem Awaits.processEvents {held : List Chunk}
    (w : Awaits id kind ref receiver h held waiting entries) :
    Awaits id kind ref receiver (h.perform .processEvents) (held ++ waiting) [] entries := by
  obtain ⟨surface, hsurface, hdecoder⟩ := Option.map_eq_some_iff.1 w.decoder_eq
  have hperform : h.perform .processEvents =
      ⟨h.session.withRendering
        ⟨{ h.session.output with held := held ++ waiting }, surface⟩,
        (h.backend.receiveAll receiver).2⟩ := by
    simp only [Host.perform, Session.perform,
      Session.processEvents_eq hsurface w.receiver_eq, w.delivers.waiting,
      Rendering.foldl_handleEvent_unloaded h.session.id (r := ⟨h.session.output, surface⟩) _ _
        w.unloaded, w.held_eq]
  rw [hperform]
  exact
    { id_eq := w.id_eq
      kind_eq := w.kind_eq
      live := w.live
      receiver_eq := w.receiver_eq
      receiver_session := w.receiver_session
      resolves := w.resolves.congr rfl rfl
      delivers := w.delivers.receiveAll
      patches := w.patches
      unloaded := w.unloaded
      position_eq := w.position_eq
      fresh := w.fresh
      held_eq := rfl
      decoder_eq := congrArg some hdecoder }

/-- The waiting chunks are read, and the commands that they complete take effect. -/
theorem Reads.processEvents (d : Reads id kind ref receiver y made h waiting)
    (hc : ∀ c ∈ waiting, c.IsPieceOf y.log) (hgap : Gapless h.session.output.position waiting)
    (hresolved : ∀ c ∈ y.commandsUpTo y.log.length, MetaEffect.Resolved id ref c) :
    Reads id kind ref receiver y made (h.perform .processEvents) [] ∧
      (h.perform .processEvents).session.output.position =
        reach h.session.output.position waiting := by
  obtain ⟨surface, hsurface, hread⟩ := d.hasRead
  obtain ⟨hread', hposition, hcommands⟩ := hread.appendAll hc hgap
  obtain ⟨-, -, -, hloaded, -⟩ :=
    Rendering.exists_calls_appendAll (⟨h.session.output, surface⟩ : Rendering) waiting
  have hperform : h.perform .processEvents =
      ⟨h.session.withRendering (Rendering.appendAll ⟨h.session.output, surface⟩ waiting).1,
        ((h.backend.receiveAll receiver).2.dispatch id
          (Rendering.appendAll ⟨h.session.output, surface⟩ waiting).2 true).2⟩ := by
    simp only [Host.perform, Session.perform,
      Session.processEvents_eq hsurface d.receiver_eq, d.delivers.waiting, d.id_eq,
      Rendering.foldl_handleEvent_loaded id (r := ⟨h.session.output, surface⟩) _ _ d.loaded]
  rw [hperform]
  refine ⟨?_, hposition⟩
  rw [hcommands, ← hposition]
  exact d.toListens.reads d.start_le d.tail_le (by rw [hposition]; exact le_reach _ _) hread'
    (hloaded.trans d.loaded) (t := h.session.timer) rfl
    (b := (h.backend.receiveAll receiver).2) rfl rfl rfl (w := []) d.delivers.receiveAll hresolved

/-! ### Loading -/

/-- Loading renders the history in silence; what was held back is live. -/
theorem Awaits.loadHistory {held : List Chunk}
    (w : Awaits id kind ref receiver h held waiting made) (now : Nat) (size : Size)
    {log : List UInt8} (hlog : (h.backend.log id).toList <+: log)
    (hy : h.backend.history id kind size log = y) (hstart : y.start ≤ y.tail)
    (hc : ∀ c ∈ held, c.IsPieceOf log) (hgap : Gapless y.tail held)
    (hresolved : ∀ c ∈ y.commandsUpTo y.log.length, MetaEffect.Resolved id ref c) :
    Reads id kind ref receiver y made
        ⟨(h.session.loadHistory h.backend now).1, (h.session.loadHistory h.backend now).2⟩ waiting ∧
      (h.session.loadHistory h.backend now).1.output.position = reach y.tail held := by
  subst hy
  obtain ⟨surface, hsurface, hdecoder⟩ := Option.map_eq_some_iff.1 w.decoder_eq
  have hheld := w.held_eq
  obtain ⟨hread, hposition, hloaded, hcommands⟩ :=
    Rendering.hasRead_load (r := ⟨h.session.output, surface⟩) kind size w.unloaded w.position_eq
      w.fresh hdecoder w.resolves.healthy hlog hstart (hheld ▸ hc) (hheld ▸ hgap)
  have hbackend : (Rendering.load ⟨h.session.output, surface⟩ h.backend id kind).2.2.ids =
        h.backend.ids ∧
      (Rendering.load ⟨h.session.output, surface⟩ h.backend id kind).2.2.failing =
        h.backend.failing ∧
      (Rendering.load ⟨h.session.output, surface⟩ h.backend id kind).2.2.patches =
        h.backend.patches ∧
      (Rendering.load ⟨h.session.output, surface⟩ h.backend id kind).2.2.feeds =
        h.backend.feeds := by
    unfold Rendering.load
    split <;> exact ⟨rfl, rfl, rfl, rfl⟩
  have hload : h.session.loadHistory h.backend now =
      ({ h.session.withRendering (Rendering.load ⟨h.session.output, surface⟩ h.backend id kind).1
          with timer := h.session.timer.start now },
        ((Rendering.load ⟨h.session.output, surface⟩ h.backend id kind).2.2.dispatch id
          (Rendering.load ⟨h.session.output, surface⟩ h.backend id kind).2.1 true).2) := by
    have hunloaded : ¬ h.session.isLoaded := by simp [Session.isLoaded, w.unloaded]
    simp only [Session.loadHistory, hunloaded, hsurface, w.id_eq, w.kind_eq]
    rfl
  obtain ⟨hids, hfailing, hpatches, hfeeds⟩ := hbackend
  rw [hload]
  refine ⟨?_, hposition.trans (congrArg _ hheld)⟩
  rw [hcommands, ← hposition]
  have l : Listens id kind ref receiver h waiting (made ++ MetaEffect.entries id ref
      ((h.backend.history id kind size log).commandsUpTo
        (h.backend.history id kind size log).tail)) := by
    simpa [History.commandsUpTo, MetaEffect.entries] using w.toListens
  exact l.reads hstart (Nat.le_refl _) (by rw [hposition]; exact le_reach _ _) hread hloaded
    (t := h.session.timer.start now) rfl hids hfailing hpatches (w.delivers.of_feeds_eq hfeeds)
    hresolved

/-! ### One event -/

theorem Awaits.aside {held : List Chunk} (w : Awaits id kind ref receiver h held waiting entries)
    {c : SessionCall} (hc : c.isAside = true) :
    Awaits id kind ref receiver (h.perform c) held waiting entries := by
  have hplace := h.session.samePlace_perform h.backend hc
  exact
    { w.toListens.aside hc with
      unloaded := hplace.loaded_eq.trans w.unloaded
      position_eq := hplace.position_eq.trans w.position_eq
      fresh := hplace.snapshotStale_eq.trans w.fresh
      held_eq := hplace.held_eq.trans w.held_eq
      decoder_eq := hplace.decoder_eq.trans w.decoder_eq }

theorem Reads.aside (d : Reads id kind ref receiver y made h waiting) {c : SessionCall}
    (hc : c.isAside = true) : Reads id kind ref receiver y made (h.perform c) waiting := by
  have hplace := h.session.samePlace_perform h.backend hc
  obtain ⟨surface, hsurface, hread⟩ := d.hasRead
  have hdecoder := hplace.decoder_eq
  rw [hsurface] at hdecoder
  obtain ⟨surface', hsurface', hsame⟩ := Option.map_eq_some_iff.1 hdecoder
  have hposition : (h.perform c).session.output.position = h.session.output.position :=
    hplace.position_eq
  exact
    { hposition ▸ d.toListens.aside hc with
      loaded := hplace.loaded_eq.trans d.loaded
      start_le := d.start_le
      tail_le := hposition ▸ d.tail_le
      hasRead := by
        refine ⟨surface', hsurface', ?_, ?_, ?_⟩
        · exact hposition ▸ hread.start_le
        · exact hposition ▸ hread.le_length
        · rw [hsame]
          exact hposition ▸ hread.decoder_eq }

theorem Listens.dispose (l : Listens id kind ref receiver h waiting entries) :
    Closed (h.perform .dispose) h.session.output.position entries := by
  simp only [Host.perform, Session.perform, Session.dispose, l.live, l.receiver_eq,
    Bool.false_eq_true, if_false]
  exact ⟨rfl, rfl, rfl, l.patches⟩

theorem Closed.advance {position : Nat} (z : Closed h position entries) (e : HostEvent) :
    Closed (h.advance e) position entries := by
  cases e with
  | backend change =>
    exact ⟨z.disposed, z.surface, z.position_eq,
      (congrArg Journal.toList (h.backend.undergo_patches change)).trans z.patches⟩
  | call c =>
    cases hc : c.isAside with
    | true =>
      have hplace := h.session.samePlace_perform h.backend hc
      have hbackend := h.session.undisturbed_perform h.backend hc
      have hsurface := hplace.decoder_eq
      rw [z.surface] at hsurface
      exact ⟨hplace.disposed_eq.trans z.disposed, Option.map_eq_none_iff.1 hsurface,
        hplace.position_eq.trans z.position_eq,
        (congrArg Journal.toList hbackend.patches).trans z.patches⟩
    | false =>
      cases c with
      | load now meanwhile =>
        have hload : h.advance (.call (.load now meanwhile)) =
            { h with backend := h.backend.undergoAll meanwhile } := by
          simp [Host.advance, Host.perform, Session.perform, Session.load, z.disposed]
        have hpatches : (h.backend.undergoAll meanwhile).patches = h.backend.patches :=
          Backend.undergoAll_induction (P := fun b => b.patches = h.backend.patches)
            (fun change _ b hb => (b.undergo_patches change).trans hb) rfl
        rw [hload]
        exact ⟨z.disposed, z.surface, z.position_eq,
          (congrArg Journal.toList hpatches).trans z.patches⟩
      | processEvents =>
        have hsame : h.advance (.call .processEvents) = h := by
          simp [Host.advance, Host.perform, Session.perform, Session.processEvents, z.surface]
        rwa [hsame]
      | dispose =>
        have hsame : h.advance (.call .dispose) = h := by
          simp [Host.advance, Host.perform, Session.perform, Session.dispose, z.disposed]
        rwa [hsame]
      | _ => cases hc

/-- Until it loads, a session holds back or leaves waiting what it is notified of. -/
theorem Awaits.advance {held : List Chunk} (w : Awaits id kind ref receiver h held waiting entries)
    {e : HostEvent} (he : e.isLoad = false) (hc : ∀ change ∈ e.changes, change.IsOrderly id ref) :
    (∃ held' waiting', Awaits id kind ref receiver (h.advance e) held' waiting' entries ∧
      held' ++ waiting' = held ++ (waiting ++ h.backend.arrivals id e.changes)) ∨
    Closed (h.advance e) 0 entries := by
  cases e with
  | backend change =>
    have l := w.toListens.undergoAll [change] hc
    exact .inl ⟨held, _, { l with
      unloaded := w.unloaded
      position_eq := w.position_eq
      fresh := w.fresh
      held_eq := w.held_eq
      decoder_eq := w.decoder_eq }, rfl⟩
  | call c =>
    cases haside : c.isAside with
    | true =>
      refine .inl ⟨held, waiting, w.aside haside, ?_⟩
      cases c with
      | load => cases he
      | _ => simp [HostEvent.changes, SessionCall.changes, Backend.arrivals]
    | false =>
      cases c with
      | load => cases he
      | processEvents =>
        exact .inl ⟨held ++ waiting, [], w.processEvents,
          by simp [HostEvent.changes, SessionCall.changes, Backend.arrivals]⟩
      | dispose => exact .inr (w.position_eq ▸ w.toListens.dispose)
      | _ => cases haside

/-- Once it has loaded, a session takes what it is notified of in order: `taken` is what it has
taken, the rest waits. -/
theorem Reads.advance (d : Reads id kind ref receiver y made h waiting) {e : HostEvent}
    (hc : ∀ change ∈ e.changes, change.IsOrderly id ref)
    (hpieces : ∀ c ∈ waiting, c.IsPieceOf y.log) (hgap : Gapless h.session.output.position waiting)
    (hresolved : ∀ c ∈ y.commandsUpTo y.log.length, MetaEffect.Resolved id ref c) :
    (∃ taken waiting', Reads id kind ref receiver y made (h.advance e) waiting' ∧
      taken ++ waiting' = waiting ++ h.backend.arrivals id e.changes ∧
      (h.advance e).session.output.position = reach h.session.output.position taken) ∨
    Closed (h.advance e) h.session.output.position
      (made ++ MetaEffect.entries id ref (y.commandsUpTo h.session.output.position)) := by
  cases e with
  | backend change =>
    have l := d.toListens.undergoAll [change] hc
    exact .inl ⟨[], _, { l with
      loaded := d.loaded
      start_le := d.start_le
      tail_le := d.tail_le
      hasRead := d.hasRead }, rfl, rfl⟩
  | call c =>
    cases haside : c.isAside with
    | true =>
      refine .inl ⟨[], waiting, d.aside haside, ?_,
        (h.session.samePlace_perform h.backend haside).position_eq⟩
      cases c with
      | load => cases haside
      | _ => simp [HostEvent.changes, SessionCall.changes, Backend.arrivals]
    | false =>
      cases c with
      | load now meanwhile =>
        obtain ⟨d', hposition⟩ := d.processEvents hpieces hgap hresolved
        have l := d'.toListens.undergoAll meanwhile hc
        -- A session that is loaded is not loaded again.
        have hload : h.advance (.call (.load now meanwhile)) =
            { h.perform .processEvents with
              backend := (h.perform .processEvents).backend.undergoAll meanwhile } := by
          have hloaded : (h.perform .processEvents).session.isLoaded = true := d'.loaded
          simp [Host.advance, perform_load d.live, Session.loadHistory, hloaded]
        rw [hload]
        refine .inl ⟨waiting, _, { l with
          loaded := d'.loaded
          start_le := d'.start_le
          tail_le := d'.tail_le
          hasRead := d'.hasRead }, ?_, hposition⟩
        rw [List.nil_append, Backend.arrivals_congr (h.logs_processEvents)]
        rfl
      | processEvents =>
        obtain ⟨d', hposition⟩ := d.processEvents hpieces hgap hresolved
        exact .inl ⟨waiting, [], d', by
          simp [HostEvent.changes, SessionCall.changes, Backend.arrivals], hposition⟩
      | dispose => exact .inr d.toListens.dispose
      | _ => cases haside

/-! ### Runs -/

theorem Closed.advanceAll {position : Nat} (z : Closed h position entries)
    (events : List HostEvent) : Closed (h.advanceAll events) position entries := by
  induction events generalizing h with
  | nil => exact z
  | cons e events ih => exact ih (z.advance e)

theorem Awaits.advanceAll {held : List Chunk}
    (w : Awaits id kind ref receiver h held waiting entries) {events : List HostEvent}
    (he : ∀ e ∈ events, e.isLoad = false)
    (hc : ∀ e ∈ events, ∀ change ∈ e.changes, change.IsOrderly id ref) :
    (∃ held' waiting', Awaits id kind ref receiver (h.advanceAll events) held' waiting' entries ∧
      held' ++ waiting' = held ++ (waiting ++ h.arrivals id events)) ∨
    Closed (h.advanceAll events) 0 entries := by
  induction events generalizing h held waiting with
  | nil => exact .inl ⟨held, waiting, w, by simp [Host.arrivals]⟩
  | cons e events ih =>
    rcases w.advance (he e List.mem_cons_self) (hc e List.mem_cons_self) with
      ⟨held₁, waiting₁, w₁, heq₁⟩ | z
    · rcases ih w₁ (fun e h => he e (List.mem_cons_of_mem _ h))
        (fun e h => hc e (List.mem_cons_of_mem _ h)) with ⟨held₂, waiting₂, w₂, heq₂⟩ | z
      · refine .inl ⟨held₂, waiting₂, w₂, ?_⟩
        rw [heq₂, ← List.append_assoc, heq₁, Host.arrivals]
        simp only [List.append_assoc]
      · exact .inr z
    · exact .inr (z.advanceAll events)

/-- What a loaded session is told of without a gap, it has read or will read, each byte once. -/
theorem Reads.advanceAll (d : Reads id kind ref receiver y made h waiting)
    {events : List HostEvent}
    (hc : ∀ e ∈ events, ∀ change ∈ e.changes, change.IsOrderly id ref)
    (hpieces : ∀ c ∈ waiting ++ h.arrivals id events, c.IsPieceOf y.log)
    (hgap : Gapless h.session.output.position (waiting ++ h.arrivals id events))
    (hresolved : ∀ c ∈ y.commandsUpTo y.log.length, MetaEffect.Resolved id ref c) :
    (∃ waiting', Reads id kind ref receiver y made (h.advanceAll events) waiting' ∧
      reach (h.advanceAll events).session.output.position waiting' =
        reach h.session.output.position (waiting ++ h.arrivals id events)) ∨
    ∃ position, y.tail ≤ position ∧ position ≤ y.log.length ∧
      Closed (h.advanceAll events) position
        (made ++ MetaEffect.entries id ref (y.commandsUpTo position)) := by
  induction events generalizing h waiting with
  | nil => exact .inl ⟨waiting, d, by simp [Host.arrivals]⟩
  | cons e events ih =>
    rw [Host.arrivals, ← List.append_assoc] at hpieces hgap
    have hwaiting : ∀ c ∈ waiting, c.IsPieceOf y.log := fun c h =>
      hpieces c (List.mem_append_left _ (List.mem_append_left _ h))
    rcases d.advance (hc e List.mem_cons_self) hwaiting
      (gapless_append.1 (gapless_append.1 hgap).1).1 hresolved with
      ⟨taken, waiting₁, d₁, heq, hposition⟩ | z
    · -- What is taken reaches the new position; the rest goes on from there.
      rw [← heq, List.append_assoc] at hpieces hgap
      have hrest := (gapless_append.1 hgap).2
      rw [← hposition] at hrest
      rcases ih d₁ (fun e h => hc e (List.mem_cons_of_mem _ h))
        (fun c h => hpieces c (List.mem_append_right _ h)) hrest with ⟨waiting₂, d₂, hreach⟩ | z
      · refine .inl ⟨waiting₂, d₂, hreach.trans ?_⟩
        rw [hposition, ← reach_append, ← List.append_assoc, heq, Host.arrivals, List.append_assoc]
      · exact .inr z
    · obtain ⟨surface, -, hread⟩ := d.hasRead
      exact .inr ⟨_, d.tail_le, hread.le_length, z.advanceAll events⟩

theorem arrivals_append {σ : Type} [Display σ] (h : Host σ) (session : Text)
    (events events' : List HostEvent) :
    h.arrivals session (events ++ events') =
      h.arrivals session events ++ (h.advanceAll events).arrivals session events' := by
  induction events generalizing h with
  | nil => rfl
  | cons e events ih => rw [List.cons_append, arrivals, ih, arrivals, advanceAll_cons,
      List.append_assoc]

/-- Without restarts a log only grows. -/
theorem log_prefix_advance (h : Host) {e : HostEvent}
    (hc : ∀ change ∈ e.changes, change.IsOrderly id ref) :
    (h.backend.log id).toList <+: ((h.advance e).backend.log id).toList := by
  cases e with
  | backend change => exact Backend.log_prefix_undergo (hc change List.mem_cons_self)
  | call c =>
    have hstable : Backend.Stable fun b => (h.backend.log id).toList <+: (b.log id).toList :=
      Backend.stable_logs fun logs =>
        (h.backend.log id).toList <+: ((logs.find? id).getD .empty).toList
    cases hinput : c.isInput with
    | false =>
      exact h.session.perform_stable hstable hinput
        (fun change hchange b hb => hb.trans (Backend.log_prefix_undergo (hc change hchange)))
        (List.prefix_refl _)
    | true =>
      refine h.session.perform_settled (fun b session data hb => ?_) hstable.toSettled
        (by cases c <;> first | rfl | cases hinput) (List.prefix_refl _)
      rwa [show (b.sendInput session data).2.log id = b.log id by
        rw [Backend.log, (b.undisturbed_sendInput session data).logs]; rfl]

theorem log_prefix_advanceAll (h : Host) {events : List HostEvent}
    (hc : ∀ e ∈ events, ∀ change ∈ e.changes, change.IsOrderly id ref) :
    (h.backend.log id).toList <+: ((h.advanceAll events).backend.log id).toList := by
  induction events generalizing h with
  | nil => exact List.prefix_refl _
  | cons e events ih =>
    exact (h.log_prefix_advance (hc e List.mem_cons_self)).trans
      (ih _ fun e h => hc e (List.mem_cons_of_mem _ h))

/-- A new session has read nothing, and nothing waits for it. -/
theorem awaits_start {b : Backend} (hb : b.Resolves ref) (id : Text) (size : Size)
    (config : Config) :
    Awaits id config.snapshots.kind ref (b.subscribe id).1 (start id (Surface.new size) config b)
      [] [] b.patches.toList where
  id_eq := rfl
  kind_eq := rfl
  live := rfl
  receiver_eq := rfl
  receiver_session := rfl
  resolves := hb.congr rfl rfl
  delivers := Backend.delivers_subscribe b id
  patches := rfl
  unloaded := rfl
  position_eq := rfl
  fresh := rfl
  held_eq := rfl
  decoder_eq := rfl

end Host

end TermSession
