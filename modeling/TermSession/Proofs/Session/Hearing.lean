import TermSession.Proofs.Session.Arrivals
import TermSession.Proofs.Session.InputGate

/-!
# Sessions that hear of their log

From its start until it is disposed of a session listens, whatever it is called with, whatever
happens to the backend and whatever fails: each notification of its log waits for it until it takes
them all.

* `Host.IsOver`; `Host.Lasting`, `Lasting.advanceAll`: what a session keeps until it is over;
* `Host.Hears`: a live session, and what waits for it;
* `Hears.undergo`, `Hears.aside`, `Hears.processEvents`, `Hears.loadHistory`: how that changes;
* `Host.exists_hears_advanceAll`: after any run the session is over or hears;
* `BackendChange.IsNotified.cases`: what becomes of a log whose listeners are told of everything.
-/

namespace TermSession

/-- A change whose listeners are told of everything adds output to the log, of which they are told,
or leaves the log as it is. -/
theorem BackendChange.IsNotified.cases {session : Text} {change : BackendChange}
    (hc : change.IsNotified session) (b : Backend) :
    (∃ data, ((b.undergo change).log session).toList = (b.log session).toList ++ data ∧
      change.event? b session = some (.append (b.log session).toList.length data)) ∨
    (b.undergo change).log session = b.log session ∧ change.event? b session = none := by
  cases change with
  | append session' data =>
    by_cases hs : session' = session
    · subst hs
      exact .inl ⟨data, Backend.log_append b session' data, by simp [event?]⟩
    · refine .inr ⟨?_, if_neg hs⟩
      simp [Backend.undergo, Backend.append, Backend.broadcast, Backend.appendSilently, Backend.log,
        Table.find?_set, hs]
  | appendSilently session' data =>
    have hs : session' ≠ session := hc
    exact .inr ⟨by simp [Backend.undergo, Backend.appendSilently, Backend.log, Table.find?_set, hs],
      rfl⟩
  | truncate session' =>
    have hs : session' ≠ session := hc
    exact .inr ⟨by simp [Backend.undergo, Backend.truncate, Backend.broadcast, Backend.log,
      Table.find?_set, hs], if_neg hs⟩
  | notify session' event => exact .inr ⟨rfl, if_neg hc⟩
  | storeSnapshot | registerId | fail | recover => exact .inr ⟨rfl, rfl⟩

/-- Reading the history is nothing to anybody's subscription. -/
theorem Session.feeds_loadHistory {σ : Type} [Display σ] (s : Session σ) (b : Backend) (now : Nat) :
    (s.loadHistory b now).2.feeds = b.feeds := by
  unfold Session.loadHistory
  split
  · rfl
  · split
    · exact ((Rendering.keeps_load _ _ _ _).trans (Backend.keeps_dispatch _ _ _ _)).feeds
    · rfl

namespace Host

variable {σ : Type} [Display σ]

/-- The session reads the history, if it has not done so. -/
def loadHistory (h : Host σ) (now : Nat) : Host σ :=
  let (session, backend) := h.session.loadHistory h.backend now
  { session, backend }

theorem loadHistory_loaded {h : Host σ} (hl : h.session.isLoaded = true) (now : Nat) :
    h.loadHistory now = h := by
  simp [loadHistory, Session.loadHistory, hl]

theorem log_aside (h : Host σ) {c : SessionCall} (hc : c.isAside = true) (id : Text) :
    (h.perform c).backend.log id = h.backend.log id := by
  have hlogs : (h.perform c).backend.logs = h.backend.logs :=
    (h.session.undisturbed_perform h.backend hc).logs
  simp [Backend.log, hlogs]

theorem log_processEvents (h : Host σ) (id : Text) :
    (h.perform .processEvents).backend.log id = h.backend.log id := by
  simp [Backend.log, h.logs_processEvents]

/-- The session is disposed of, and its display released. -/
structure IsOver (h : Host σ) : Prop where
  disposed : h.session.disposed = true
  released : h.session.surface = none

theorem isOver_dispose {h : Host σ} (hlive : h.session.disposed = false) :
    (h.perform .dispose).IsOver := by
  simp only [perform, Session.perform, Session.dispose, hlive]
  exact ⟨rfl, rfl⟩

theorem IsOver.advance {h : Host σ} (o : h.IsOver) (e : HostEvent) : (h.advance e).IsOver := by
  cases e with
  | backend change => exact ⟨o.disposed, o.released⟩
  | call c =>
    refine ⟨Session.perform_disposed h.backend c o.disposed, ?_⟩
    rcases h.session.exists_calls_perform h.backend c with hnone | ⟨calls, hcalls⟩
    · exact hnone
    · rw [o.released] at hcalls
      exact hcalls

theorem IsOver.advanceAll {h : Host σ} (o : h.IsOver) (events : List HostEvent) :
    (h.advanceAll events).IsOver := by
  induction events generalizing h with
  | nil => exact o
  | cons e events ih => exact ih (o.advance e)

/-- A property of hosts with a live session that lasts until the session is disposed of, as long as
the changes of the backend and the calls about something else are such as `C` and `Q` say. -/
structure Lasting (C : BackendChange → Prop) (Q : SessionCall → Prop) (P : Host σ → Prop) :
    Prop where
  live : ∀ h, P h → h.session.disposed = false
  undergo : ∀ h change, C change → P h → P { h with backend := h.backend.undergo change }
  aside : ∀ h c, Q c → c.isAside = true → P h → P (h.perform c)
  processEvents : ∀ h, P h → P (h.perform .processEvents)
  loadHistory : ∀ h now, P h → P (h.loadHistory now)

namespace Lasting

variable {C : BackendChange → Prop} {Q : SessionCall → Prop} {P : Host σ → Prop} {h : Host σ}

theorem undergoAll (hP : Lasting C Q P) {changes : List BackendChange}
    (hc : ∀ change ∈ changes, C change) (hh : P h) :
    P { h with backend := h.backend.undergoAll changes } :=
  Backend.undergoAll_induction (P := fun b => P { h with backend := b })
    (fun change hchange b => hP.undergo { h with backend := b } change (hc change hchange)) hh

theorem advance (hP : Lasting C Q P) {e : HostEvent} (hc : ∀ change ∈ e.changes, C change)
    (hq : ∀ c, e = .call c → Q c) (hh : P h) : (h.advance e).IsOver ∨ P (h.advance e) := by
  cases e with
  | backend change => exact .inr (hP.undergo h change (hc change (List.mem_singleton.2 rfl)) hh)
  | call c =>
    cases haside : c.isAside with
    | true => exact .inr (hP.aside h c (hq c rfl) haside hh)
    | false =>
      cases c with
      | processEvents => exact .inr (hP.processEvents h hh)
      | load now meanwhile =>
        have hfound := hP.undergoAll hc (hP.processEvents h hh)
        change _ ∨ P (h.perform (.load now meanwhile))
        rw [perform_load (hP.live h hh)]
        exact .inr (hP.loadHistory _ now hfound)
      | dispose => exact .inl (isOver_dispose (hP.live h hh))
      | _ => cases haside

/-- After any run the session is over, or the property has lasted. -/
theorem advanceAll (hP : Lasting C Q P) {events : List HostEvent}
    (hc : ∀ e ∈ events, ∀ change ∈ e.changes, C change)
    (hq : ∀ e ∈ events, ∀ c, e = .call c → Q c) (hh : P h) :
    (h.advanceAll events).IsOver ∨ P (h.advanceAll events) := by
  induction events generalizing h with
  | nil => exact .inr hh
  | cons e events ih =>
    rcases hP.advance (hc e List.mem_cons_self) (hq e List.mem_cons_self) hh with o | hh'
    · exact .inl (o.advanceAll events)
    · exact ih (fun e h => hc e (List.mem_cons_of_mem _ h))
        (fun e h => hq e (List.mem_cons_of_mem _ h)) hh'

end Lasting

/-- The session is live, and `queue` waits for it. -/
structure Hears (id : Text) (receiver : Receiver) (h : Host σ) (queue : List LogEvent) : Prop where
  id_eq : h.session.id = id
  live : h.session.disposed = false
  receiver_eq : h.session.receiver = some receiver
  receiver_session : receiver.session = id
  delivers : h.backend.Delivers receiver queue
  shown : h.session.surface.isSome

theorem hears_start (id : Text) (display : σ) (config : Config) (b : Backend) :
    (start id display config b).Hears id (b.subscribe id).1 [] :=
  ⟨rfl, rfl, rfl, rfl, Backend.delivers_subscribe b id, rfl⟩

namespace Hears

variable {id : Text} {receiver : Receiver} {h : Host σ} {queue : List LogEvent}

omit [Display σ] in
theorem waiting_eq (l : h.Hears id receiver queue) : h.waiting = queue := by
  simp only [waiting, l.receiver_eq]
  exact l.delivers.waiting

omit [Display σ] in
theorem undergo (l : h.Hears id receiver queue) (change : BackendChange) :
    Hears id receiver { h with backend := h.backend.undergo change }
      (queue ++ (change.event? h.backend id).toList) := by
  have hdelivers := l.delivers.undergo_event change
  rw [l.receiver_session] at hdelivers
  exact { l with delivers := hdelivers }

theorem aside (l : h.Hears id receiver queue) {c : SessionCall} (hc : c.isAside = true) :
    (h.perform c).Hears id receiver queue := by
  have hsession := h.session.resized_perform h.backend hc
  have hbackend := h.session.undisturbed_perform h.backend hc
  obtain ⟨sizes, hsizes⟩ := hsession.surface_eq
  exact
    { id_eq := hsession.id_eq.trans l.id_eq
      live := hsession.disposed_eq.trans l.live
      receiver_eq := hsession.receiver_eq.trans l.receiver_eq
      receiver_session := l.receiver_session
      delivers := l.delivers.of_feeds_eq hbackend.feeds
      shown := by
        change (h.session.perform h.backend c).1.surface.isSome
        rw [hsizes, Option.isSome_map]
        exact l.shown }

/-- The session takes what waits, and handles it in order. -/
theorem processEvents (l : h.Hears id receiver queue) {surface : σ}
    (hs : h.session.surface = some surface) :
    (h.perform .processEvents).session =
        h.session.withRendering (Rendering.handleAll ⟨h.session.output, surface⟩ queue) ∧
      (h.perform .processEvents).Hears id receiver [] := by
  obtain ⟨hrendering, hkeeps⟩ := Session.foldl_handleEvent h.session.id queue
    ⟨h.session.output, surface⟩ (h.backend.receiveAll receiver).2
  have hperform := Session.processEvents_eq hs l.receiver_eq h.backend
  rw [l.delivers.waiting] at hperform
  have hsession : (h.perform .processEvents).session =
      h.session.withRendering (Rendering.handleAll ⟨h.session.output, surface⟩ queue) := by
    rw [← hrendering]
    exact congrArg Prod.fst hperform
  have hfeeds : (h.perform .processEvents).backend.feeds =
      (h.backend.receiveAll receiver).2.feeds := by
    rw [← hkeeps.feeds]
    exact congrArg (fun x => x.2.feeds) hperform
  refine ⟨hsession, ?_⟩
  exact
    { id_eq := by rw [hsession]; exact l.id_eq
      live := by rw [hsession]; exact l.live
      receiver_eq := by rw [hsession]; exact l.receiver_eq
      receiver_session := l.receiver_session
      delivers := l.delivers.receiveAll.of_feeds_eq hfeeds
      shown := by rw [hsession]; rfl }

theorem loadHistory (l : h.Hears id receiver queue) (now : Nat) :
    (h.loadHistory now).Hears id receiver queue := by
  have hsession := h.session.sameInput_loadHistory h.backend now
  obtain ⟨calls, hcalls⟩ := h.session.exists_calls_loadHistory h.backend now
  have hfeeds := h.session.feeds_loadHistory h.backend now
  exact
    { id_eq := hsession.id_eq.trans l.id_eq
      live := hsession.disposed_eq.trans l.live
      receiver_eq := hsession.receiver_eq.trans l.receiver_eq
      receiver_session := l.receiver_session
      delivers := l.delivers.of_feeds_eq hfeeds
      shown := by
        change (h.session.loadHistory h.backend now).1.surface.isSome
        rw [hcalls, Option.isSome_map]
        exact l.shown }

end Hears

/-- From its start a session hears, whatever happens, until it is over. -/
theorem lasting_hears (id : Text) (receiver : Receiver) :
    Lasting (fun _ => True) (fun _ => True)
      (fun h : Host σ => ∃ queue, h.Hears id receiver queue) where
  live _ := fun ⟨_, l⟩ => l.live
  undergo _ change _ := fun ⟨_, l⟩ => ⟨_, l.undergo change⟩
  aside _ _ _ hc := fun ⟨queue, l⟩ => ⟨queue, l.aside hc⟩
  processEvents _ := by
    rintro ⟨queue, l⟩
    obtain ⟨surface, hs⟩ := Option.isSome_iff_exists.1 l.shown
    exact ⟨[], (l.processEvents hs).2⟩
  loadHistory _ now := fun ⟨queue, l⟩ => ⟨queue, l.loadHistory now⟩

/-- After any run the session is over, or it hears. -/
theorem exists_hears_advanceAll (id : Text) (display : σ) (config : Config) (b : Backend)
    (events : List HostEvent) :
    let h := (start id display config b).advanceAll events
    h.IsOver ∨ ∃ queue, h.Hears id (b.subscribe id).1 queue :=
  (lasting_hears id _).advanceAll (fun _ _ _ _ => trivial) (fun _ _ _ _ => trivial)
    ⟨[], hears_start id display config b⟩

end Host

end TermSession
