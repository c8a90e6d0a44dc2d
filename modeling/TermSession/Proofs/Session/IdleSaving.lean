import TermSession.Proofs.Session.Disposal
import TermSession.Proofs.Session.StoreFaults

/-!
# Saving when idle

A session that is polled saves a snapshot when its idle tick is due and enough output was rendered
since the last attempt.  So the attempts are never closer together than the idle interval, and never
more than the output pays for, whether or not the store takes what is saved.  The display is a tape,
which shows what was written.

* `Host.rendered`, `Host.renderedIn`: what is rendered in an event and in a run, snapshots apart;
  `Host.written_advance`;
* `Host.unsaved`: what was rendered since the last attempt;
* `Host.Ticks`: what becomes of the idle tick; `Host.ticks_advance`;
* `Host.Idles`: the count agrees with what was rendered; `Idles.advance`, `Idles.advanceAll`;
* `Idles.isChain_attemptTimes`, `Idles.length_attemptTimes_mul_le`: attempts in any run;
* `Host.saves_when_idle`: the attempts of a session.
-/

namespace TermSession

open Display

variable {σ : Type} [Display σ]

/-- The time of an event that may set the idle tick. -/
def HostEvent.time? : HostEvent → Option Nat
  | .call (.load now _) | .call (.pollTimers now) => some now
  | _ => none

/-! ### Sessions that are disposed of -/

namespace Host

theorem load_disposed {h : Host σ} (hd : h.session.disposed = true) (now : Nat)
    (meanwhile : List BackendChange) : (h.perform (.load now meanwhile)).session = h.session := by
  simp [perform, Session.perform, Session.load, hd]

theorem dispose_disposed {h : Host σ} (hd : h.session.disposed = true) :
    (h.perform .dispose).session = h.session := by
  simp [perform, Session.perform, Session.dispose, hd]

theorem timer_dispose {h : Host σ} (hlive : h.session.disposed = false) :
    (h.perform .dispose).session.timer = h.session.timer.cancel ∧
      (h.perform .dispose).session.isLoaded = h.session.isLoaded := by
  simp only [perform, Session.perform, Session.dispose, hlive]
  exact ⟨rfl, rfl⟩

end Host

/-! ### What is rendered -/

namespace Rendering

/-- Notifications are counted by what they have written, which is nothing before the history is
loaded. -/
theorem exists_counted_handle (r : Rendering (Tape σ)) (e : LogEvent) :
    ∃ data, (r.handle e).1.surface.bytes = r.surface.bytes ++ data ∧
      (r.handle e).1.output.sinceSnapshot = r.output.sinceSnapshot + data.length ∧
      (r.output.loaded = false → data = []) := by
  cases e with
  | truncate offset =>
    exact ⟨[], by simp [handle, Tape.bytes, clear, DisplayCall.data], rfl, fun _ => rfl⟩
  | append offset data =>
    cases hl : r.output.loaded with
    | true =>
      have hrendered := hasRendered_append r ⟨offset, data⟩
      rw [handle, if_pos hl]
      exact ⟨_, hrendered.bytes, hrendered.sinceSnapshot, fun h => absurd h (by simp)⟩
    | false =>
      rw [handle, if_neg (by simp [hl])]
      exact ⟨[], by simp, rfl, fun _ => rfl⟩

theorem exists_counted_handleAll (r : Rendering (Tape σ)) (events : List LogEvent) :
    ∃ data, (r.handleAll events).surface.bytes = r.surface.bytes ++ data ∧
      (r.handleAll events).output.sinceSnapshot = r.output.sinceSnapshot + data.length ∧
      (r.output.loaded = false → data = []) := by
  induction events generalizing r with
  | nil => exact ⟨[], by simp [handleAll], rfl, fun _ => rfl⟩
  | cons e events ih =>
    obtain ⟨first, hbytes, hsince, hnone⟩ := r.exists_counted_handle e
    obtain ⟨rest, hbytes', hsince', hnone'⟩ := ih (r.handle e).1
    refine ⟨first ++ rest, ?_, ?_, fun hl => ?_⟩
    · rw [← List.append_assoc, ← hbytes]
      exact hbytes'
    · rw [List.length_append, ← Nat.add_assoc, ← hsince]
      exact hsince'
    · rw [hnone hl, hnone' ((r.loaded_handle e).trans hl)]
      rfl

end Rendering

namespace Host

/-- All bytes that the display was written, until it is released. -/
def written (h : Host (Tape σ)) : List UInt8 := h.session.surface.elim [] Tape.bytes

/-- The bytes of the snapshot that is replayed in an event. -/
def replayed (h : Host (Tape σ)) : HostEvent → List UInt8
  | .call (.load _ meanwhile) =>
    if h.session.disposed || h.session.isLoaded then []
    else (h.found meanwhile).source?.elim [] fun s => Utf8.encode s.data
  | _ => []

/-- The bytes that are rendered in an event: all that the display is written after the snapshot, if
one is replayed. -/
def rendered (h : Host (Tape σ)) (e : HostEvent) : List UInt8 :=
  (h.advance e).written.drop (h.written ++ h.replayed e).length

/-- The bytes that are rendered in a run. -/
def renderedIn (h : Host (Tape σ)) : List HostEvent → List UInt8
  | [] => []
  | e :: events => h.rendered e ++ (h.advance e).renderedIn events

/-- The bytes that are rendered in a run since the last attempt to save a snapshot; `since` is what
was rendered before. -/
def unsaved (since : List UInt8) (h : Host (Tape σ)) : List HostEvent → List UInt8
  | [] => since
  | e :: events =>
    unsaved (if h.attempts e then [] else since ++ h.rendered e) (h.advance e) events

theorem rendered_eq {h : Host (Tape σ)} {e : HostEvent} {data : List UInt8}
    (hw : (h.advance e).written = h.written ++ h.replayed e ++ data) : h.rendered e = data := by
  rw [rendered, hw, List.drop_left]

theorem rendered_eq_nil {h : Host (Tape σ)} {e : HostEvent}
    (hw : (h.advance e).written = h.written) (hr : h.replayed e = []) : h.rendered e = [] :=
  rendered_eq (by rw [hw, hr, List.append_nil, List.append_nil])

theorem exists_counted_processEvents (h : Host (Tape σ)) :
    ∃ data, (h.perform .processEvents).written = h.written ++ data ∧
      (h.perform .processEvents).session.output.sinceSnapshot =
        h.session.output.sinceSnapshot + data.length ∧
      (h.perform .processEvents).session.isLoaded = h.session.isLoaded ∧
      (h.session.isLoaded = false → data = []) := by
  rcases h.listening_cases with hidle | ⟨surface, receiver, hs, hr⟩
  · rw [perform_processEvents_idle hidle]
    exact ⟨[], by simp, rfl, rfl, fun _ => rfl⟩
  · obtain ⟨b, hh, -⟩ := exists_perform_processEvents hs hr
    obtain ⟨data, hbytes, hsince, hnone⟩ := Rendering.exists_counted_handleAll
      ⟨h.session.output, surface⟩ (h.backend.waiting receiver)
    rw [hh]
    refine ⟨data, ?_, hsince, Rendering.loaded_handleAll _ _, hnone⟩
    rw [written, written, hs]
    exact hbytes

/-- Loading is counted by what it has written after the snapshot. -/
theorem exists_counted_loadHistory {h : Host (Tape σ)} (hl : h.session.isLoaded = false)
    (now : Nat) :
    ∃ data, (h.loadHistory now).written =
        h.written ++ h.source?.elim [] (fun s => Utf8.encode s.data) ++ data ∧
      (h.loadHistory now).session.output.sinceSnapshot =
        h.session.output.sinceSnapshot + data.length := by
  cases hs : h.session.surface with
  | none =>
    rw [loadHistory_released hs, source?, hs]
    exact ⟨[], by simp, rfl⟩
  | some surface =>
    obtain ⟨b, hh, -⟩ := exists_loadHistory hl hs now
    obtain ⟨data, hbytes, -, hsince, -⟩ := Rendering.exists_rendered_load
      (r := ⟨h.session.output, surface⟩) hl
      (h.backend.answers h.session.id h.session.timer.settings.kind)
    refine ⟨data, ?_, ?_⟩
    · rw [hh, written, written, source?, hs, Option.bind_some,
        Rendering.startingSnapshot?_eq_starting?]
      exact hbytes
    · rw [hh]
      exact hsince

theorem bytes_aside (h : Host (Tape σ)) {c : SessionCall} (hc : c.isAside = true) :
    (h.perform c).written = h.written := by
  obtain ⟨sizes, hsizes⟩ := (h.session.resized_perform h.backend hc).surface_eq
  -- Resizing writes nothing.
  have hbytes (t : Tape σ) : (sizes.foldl resize t).bytes = t.bytes := by
    clear hsizes
    induction sizes generalizing t with
    | nil => rfl
    | cons size sizes ih =>
      have hfirst : (resize t size).bytes = t.bytes := by
        simp [Tape.bytes, resize, DisplayCall.data]
      exact (ih _).trans hfirst
  have hsurface : (h.perform c).session.surface = h.session.surface.map (sizes.foldl resize ·) :=
    hsizes
  rw [written, written, hsurface]
  cases h.session.surface with
  | none => rfl
  | some t => exact hbytes t

/-- Loading is counted by what it writes apart from the snapshot that it replays. -/
theorem exists_counted_load (h : Host (Tape σ)) (now : Nat) (meanwhile : List BackendChange) :
    ∃ data, (h.perform (.load now meanwhile)).written =
        h.written ++ h.replayed (.call (.load now meanwhile)) ++ data ∧
      (h.perform (.load now meanwhile)).session.output.sinceSnapshot =
        h.session.output.sinceSnapshot + data.length := by
  cases hd : h.session.disposed with
  | true =>
    rw [written, written, load_disposed hd]
    exact ⟨[], by simp [replayed, hd], rfl⟩
  | false =>
    obtain ⟨taken, hbytes, hsince, hloaded, hnone⟩ := h.exists_counted_processEvents
    have hperform : h.perform (.load now meanwhile) = (h.found meanwhile).loadHistory now :=
      perform_load hd now meanwhile
    rw [hperform]
    cases hl : h.session.isLoaded with
    | true =>
      have hfound : (h.found meanwhile).session.isLoaded = true := hloaded.trans hl
      rw [loadHistory_loaded hfound]
      refine ⟨taken, ?_, hsince⟩
      have hreplayed : h.replayed (.call (.load now meanwhile)) = [] := by simp [replayed, hl]
      rw [hreplayed, List.append_nil]
      exact hbytes
    | false =>
      -- Notifications that come before the history are held back.
      obtain rfl := hnone hl
      obtain ⟨data, hbytes', hsince'⟩ :=
        exists_counted_loadHistory (h := h.found meanwhile) (hloaded.trans hl) now
      have hfound : (h.found meanwhile).written = h.written :=
        hbytes.trans (List.append_nil _)
      refine ⟨data, ?_, hsince'.trans (congrArg (· + data.length) hsince)⟩
      rw [hbytes', hfound, replayed, hd, hl]
      rfl

theorem replayed_aside (h : Host (Tape σ)) {c : SessionCall} (hc : c.isAside = true) :
    h.replayed (.call c) = [] := by
  cases c with
  | load => cases hc
  | _ => rfl

theorem rendered_aside (h : Host (Tape σ)) {c : SessionCall} (hc : c.isAside = true) :
    h.rendered (.call c) = [] :=
  rendered_eq_nil (h.bytes_aside hc) (h.replayed_aside hc)

theorem rendered_dispose (h : Host (Tape σ)) : h.rendered (.call .dispose) = [] := by
  cases hd : h.session.disposed with
  | true =>
    have hsession : (h.advance (.call .dispose)).session = h.session := dispose_disposed hd
    exact rendered_eq_nil (by rw [written, written, hsession]) rfl
  | false =>
    have hreleased : (h.advance (.call .dispose)).session.surface = none :=
      (isOver_dispose hd).released
    have hwritten : (h.advance (.call .dispose)).written = [] := by
      rw [written, hreleased]
      rfl
    rw [rendered, hwritten, List.drop_nil]

/-- As long as there is a display, what it is written in an event is the snapshot and what is
rendered. -/
theorem written_advance (h : Host (Tape σ)) (e : HostEvent)
    (hs : (h.advance e).session.surface.isSome = true) :
    (h.advance e).written = h.written ++ h.replayed e ++ h.rendered e := by
  have hcounted {data : List UInt8}
      (hw : (h.advance e).written = h.written ++ h.replayed e ++ data) :
      (h.advance e).written = h.written ++ h.replayed e ++ h.rendered e := by
    rw [rendered_eq hw]
    exact hw
  cases e with
  | backend change =>
    have hw : (h.advance (.backend change)).written =
        h.written ++ h.replayed (.backend change) ++ [] := by
      simp [replayed, advance, written]
    exact hcounted hw
  | call c =>
    cases hc : c.isAside with
    | true =>
      have hwritten : (h.advance (.call c)).written = h.written := h.bytes_aside hc
      rw [h.rendered_aside hc, h.replayed_aside hc, hwritten, List.append_nil, List.append_nil]
    | false =>
      cases c with
      | processEvents =>
        obtain ⟨data, hbytes, -⟩ := h.exists_counted_processEvents
        exact hcounted (hbytes.trans (congrArg (· ++ data) (List.append_nil _).symm))
      | load now meanwhile =>
        obtain ⟨data, hbytes, -⟩ := h.exists_counted_load now meanwhile
        exact hcounted hbytes
      | dispose =>
        cases hd : h.session.disposed with
        | true =>
          have hsession : (h.advance (.call .dispose)).session = h.session := dispose_disposed hd
          have hw : (h.advance (.call .dispose)).written =
              h.written ++ h.replayed (.call .dispose) ++ [] := by
            simp [replayed, written, hsession]
          exact hcounted hw
        | false =>
          have hreleased : (h.advance (.call .dispose)).session.surface = none :=
            (isOver_dispose hd).released
          rw [hreleased] at hs
          cases hs
      | _ => cases hc

/-- But for the polls the count grows by what is rendered. -/
theorem sinceSnapshot_unpolled (h : Host (Tape σ)) {e : HostEvent} (he : e ≠ .call .flush)
    (hp : ∀ now, e ≠ .call (.pollTimers now)) :
    (h.advance e).session.output.sinceSnapshot =
      h.session.output.sinceSnapshot + (h.rendered e).length := by
  cases e with
  | backend change =>
    rw [rendered_eq_nil rfl rfl]
    rfl
  | call c =>
    cases hc : c.isAside with
    | true =>
      have hkept := h.session.perform_untimed h.backend hc
        (fun hf => he (congrArg HostEvent.call hf))
        (fun now hnow => hp now (congrArg HostEvent.call hnow))
      rw [h.rendered_aside hc]
      exact congrArg OutputStream.sinceSnapshot hkept.1
    | false =>
      cases c with
      | processEvents =>
        obtain ⟨data, hbytes, hsince, -⟩ := h.exists_counted_processEvents
        have hrendered : h.rendered (.call .processEvents) = data :=
          rendered_eq (hbytes.trans (congrArg (· ++ data) (List.append_nil _).symm))
        rw [hrendered]
        exact hsince
      | load now meanwhile =>
        obtain ⟨data, hbytes, hsince⟩ := h.exists_counted_load now meanwhile
        have hrendered : h.rendered (.call (.load now meanwhile)) = data := rendered_eq hbytes
        rw [hrendered]
        exact hsince
      | dispose =>
        rw [rendered_dispose]
        exact (h.session.dispose_keeps h.backend).2.2.1
      | _ => cases hc

/-- The count grows by what is rendered, and starts anew with an attempt. -/
theorem sinceSnapshot_advance (h : Host (Tape σ)) {e : HostEvent} (he : e ≠ .call .flush) :
    (h.advance e).session.output.sinceSnapshot =
      if h.attempts e then 0 else h.session.output.sinceSnapshot + (h.rendered e).length := by
  have hattempts := (h.saveAttempts_advance he).2
  by_cases hpoll : ∃ now, e = .call (.pollTimers now)
  · obtain ⟨now, rfl⟩ := hpoll
    have houtput : (h.advance (.call (.pollTimers now))).session.output = _ :=
      (h.session.pollTimers_eq h.backend now).1
    rw [h.rendered_aside rfl, houtput]
    by_cases hs : h.session.saves now
    · rw [if_pos hs, if_pos (hattempts.2 ⟨now, rfl, hs⟩)]
      rfl
    · have hidle : ¬ h.attempts (.call (.pollTimers now)) := by
        intro ha
        obtain ⟨now', hnow, hs'⟩ := hattempts.1 ha
        cases hnow
        exact hs hs'
      rw [if_neg hs, if_neg hidle]
      rfl
  · have hidle : ¬ h.attempts e := fun ha => hpoll ((hattempts.1 ha).imp fun now hnow => hnow.1)
    rw [if_neg hidle]
    exact h.sinceSnapshot_unpolled he fun now hnow => hpoll ⟨now, hnow⟩

/-! ### The idle tick -/

/-- What becomes of the idle tick of a session in an event. -/
inductive Ticks (h h' : Host σ) : HostEvent → Prop
  | kept {e : HostEvent} (tick : h'.session.timer = h.session.timer)
      (loaded : h'.session.isLoaded = h.session.isLoaded)
      (shown : h'.session.surface.isSome = h.session.surface.isSome) : Ticks h h' e
  /-- A tick was due, and the next is set from the time of the poll. -/
  | passed {now due : Nat} (hdue : due ∈ h.session.timer.nextTick) (le : due ≤ now)
      (tick : h'.session.timer = h.session.timer.start now)
      (loaded : h'.session.isLoaded = h.session.isLoaded)
      (shown : h'.session.surface.isSome = h.session.surface.isSome) :
      Ticks h h' (.call (.pollTimers now))
  /-- The history was loaded, and the first tick is set. -/
  | started {now : Nat} {meanwhile : List BackendChange}
      (unloaded : h.session.isLoaded = false) (tick : h'.session.timer = h.session.timer.start now)
      (loaded : h'.session.isLoaded = true) (shown : h'.session.surface.isSome = true) :
      Ticks h h' (.call (.load now meanwhile))
  | stopped (tick : h'.session.timer = h.session.timer.cancel)
      (loaded : h'.session.isLoaded = h.session.isLoaded)
      (released : h'.session.surface = none) : Ticks h h' (.call .dispose)

theorem isSome_aside (h : Host σ) {c : SessionCall} (hc : c.isAside = true) :
    (h.perform c).session.surface.isSome = h.session.surface.isSome := by
  obtain ⟨sizes, hsizes⟩ := (h.session.resized_perform h.backend hc).surface_eq
  have hsurface : (h.perform c).session.surface = h.session.surface.map (sizes.foldl resize ·) :=
    hsizes
  rw [hsurface, Option.isSome_map]

theorem ticks_pollTimers (h : Host σ) (now : Nat) :
    h.Ticks (h.perform (.pollTimers now)) (.call (.pollTimers now)) := by
  obtain ⟨-, htimer, -⟩ := h.session.pollTimers_eq h.backend now
  have hloaded : (h.perform (.pollTimers now)).session.isLoaded = h.session.isLoaded :=
    (h.session.resized_pollTimers h.backend now).loaded_eq
  have hshown := h.isSome_aside (c := .pollTimers now) rfl
  by_cases hdue : (h.session.surface.isSome && h.session.timer.isDue now) = true
  · rw [if_pos hdue] at htimer
    obtain ⟨due, hmem, hle⟩ : ∃ due ∈ h.session.timer.nextTick, due ≤ now := by
      simpa [SnapshotTimer.isDue, Option.any_eq_true] using (Bool.and_eq_true_iff.1 hdue).2
    exact .passed hmem hle htimer hloaded hshown
  · rw [if_neg hdue] at htimer
    exact .kept htimer hloaded hshown

theorem kept_processEvents (h : Host σ) :
    (h.perform .processEvents).session.timer = h.session.timer ∧
      (h.perform .processEvents).session.isLoaded = h.session.isLoaded ∧
      (h.perform .processEvents).session.surface.isSome = h.session.surface.isSome := by
  rcases h.listening_cases with hidle | ⟨surface, receiver, hs, hr⟩
  · rw [perform_processEvents_idle hidle]
    exact ⟨rfl, rfl, rfl⟩
  · obtain ⟨b, hh, -⟩ := exists_perform_processEvents hs hr
    rw [hh, hs]
    exact ⟨rfl, Rendering.loaded_handleAll _ _, rfl⟩

theorem ticks_load (h : Host σ) (now : Nat) (meanwhile : List BackendChange) :
    h.Ticks (h.perform (.load now meanwhile)) (.call (.load now meanwhile)) := by
  cases hd : h.session.disposed with
  | true =>
    have hsession := load_disposed hd now meanwhile
    exact .kept (by rw [hsession]) (by rw [hsession]) (by rw [hsession])
  | false =>
    obtain ⟨htimer, hloaded, hshown⟩ := h.kept_processEvents
    have hperform : h.perform (.load now meanwhile) = (h.found meanwhile).loadHistory now :=
      perform_load hd now meanwhile
    rw [hperform]
    cases hl : h.session.isLoaded with
    | true =>
      have hfound : (h.found meanwhile).session.isLoaded = true := hloaded.trans hl
      rw [loadHistory_loaded hfound]
      exact .kept htimer hloaded hshown
    | false =>
      have hfound : (h.found meanwhile).session.isLoaded = false := hloaded.trans hl
      cases hs : (h.found meanwhile).session.surface with
      | none =>
        rw [loadHistory_released hs]
        exact .kept htimer hloaded hshown
      | some surface =>
        obtain ⟨b, hh, -⟩ := exists_loadHistory hfound hs now
        rw [hh]
        exact .started hl (congrArg (SnapshotTimer.start · now) htimer)
          (Rendering.loaded_load _ _) rfl

/-- The idle tick is set by loading and by polls that find it due, and by nothing else. -/
theorem ticks_advance (h : Host σ) {e : HostEvent} (he : e ≠ .call .flush) :
    h.Ticks (h.advance e) e := by
  cases e with
  | backend change => exact .kept rfl rfl rfl
  | call c =>
    by_cases hpoll : ∃ now, c = .pollTimers now
    · obtain ⟨now, rfl⟩ := hpoll
      exact h.ticks_pollTimers now
    · cases hc : c.isAside with
      | true =>
        obtain ⟨houtput, htimer⟩ := h.session.perform_untimed h.backend hc
          (fun hf => he (congrArg HostEvent.call hf)) fun now hnow => hpoll ⟨now, hnow⟩
        exact .kept htimer (congrArg OutputStream.loaded houtput) (h.isSome_aside hc)
      | false =>
        cases c with
        | processEvents =>
          obtain ⟨htimer, hloaded, hshown⟩ := h.kept_processEvents
          exact .kept htimer hloaded hshown
        | load now meanwhile => exact h.ticks_load now meanwhile
        | dispose =>
          cases hd : h.session.disposed with
          | true =>
            have hsession : (h.advance (.call .dispose)).session = h.session := dispose_disposed hd
            exact .kept (by rw [hsession]) (by rw [hsession]) (by rw [hsession])
          | false =>
            obtain ⟨htimer, hloaded⟩ := timer_dispose hd
            exact .stopped htimer hloaded (isOver_dispose hd).released
        | _ => cases hc

/-! ### Runs -/

/-- Only a loaded session with a display waits for a tick, and its count is that of the bytes since
the last attempt. -/
structure Idles (settings : SnapshotSettings) (h : Host (Tape σ)) (since : List UInt8) : Prop where
  settings_eq : h.session.timer.settings = settings
  ticking : ∀ due ∈ h.session.timer.nextTick,
    h.session.isLoaded = true ∧ h.session.surface.isSome = true
  counted : h.session.output.sinceSnapshot = since.length

namespace Idles

variable {settings : SnapshotSettings} {h : Host (Tape σ)} {since : List UInt8} {e : HostEvent}
  {events : List HostEvent}

/-- A poll saves just when the tick is due and enough was rendered since the last attempt; nothing
else does. -/
theorem attempts_iff (i : Idles settings h since) (he : e ≠ .call .flush) :
    h.attempts e = true ↔ ∃ now due, e = .call (.pollTimers now) ∧
      h.session.timer.nextTick = some due ∧ due ≤ now ∧ settings.minBytes ≤ since.length := by
  rw [(h.saveAttempts_advance he).2]
  constructor
  · rintro ⟨now, rfl, hs⟩
    obtain ⟨-, ⟨due, hdue, hle⟩, -, hmin⟩ := (h.session.saves_iff now).1 hs
    rw [i.settings_eq, i.counted] at hmin
    exact ⟨now, due, rfl, hdue, hle, hmin⟩
  · rintro ⟨now, due, rfl, hdue, hle, hmin⟩
    obtain ⟨hloaded, hshown⟩ := i.ticking due hdue
    rw [← i.settings_eq, ← i.counted] at hmin
    exact ⟨now, rfl, (h.session.saves_iff now).2 ⟨hshown, ⟨due, hdue, hle⟩, hloaded, hmin⟩⟩

theorem advance (i : Idles settings h since) (he : e ≠ .call .flush) :
    Idles settings (h.advance e) (if h.attempts e then [] else since ++ h.rendered e) where
  settings_eq := by
    rw [← i.settings_eq]
    cases h.ticks_advance he with
    | kept tick => rw [tick]
    | passed _ _ tick | started _ tick | stopped tick =>
      exact (congrArg SnapshotTimer.settings tick :)
  ticking := by
    intro due hdue
    cases h.ticks_advance he with
    | kept tick loaded shown =>
      rw [tick] at hdue
      rw [loaded, shown]
      exact i.ticking due hdue
    | passed hpassed _ _ loaded shown =>
      rw [loaded, shown]
      exact i.ticking _ hpassed
    | started _ _ loaded shown => exact ⟨loaded, shown⟩
    | stopped tick =>
      rw [tick] at hdue
      cases hdue
  counted := by
    rw [h.sinceSnapshot_advance he, i.counted]
    split
    · rfl
    · rw [List.length_append]

theorem advanceAll (i : Idles settings h since) (he : .call .flush ∉ events) :
    Idles settings (h.advanceAll events) (h.unsaved since events) := by
  induction events generalizing h since with
  | nil => exact i
  | cons e events ih =>
    exact ih (i.advance (List.ne_of_not_mem_cons he).symm) (List.not_mem_of_not_mem_cons he)

/-- Every attempt is paid for by what was rendered since the last one. -/
theorem length_attemptTimes_mul_le (i : Idles settings h since) (he : .call .flush ∉ events) :
    (h.attemptTimes events).length * settings.minBytes ≤
      since.length + (h.renderedIn events).length := by
  induction events generalizing h since with
  | nil => simp [attemptTimes]
  | cons e events ih =>
    have hne := (List.ne_of_not_mem_cons he).symm
    have hrest := ih (i.advance hne) (List.not_mem_of_not_mem_cons he)
    rw [attemptTimes, renderedIn, List.length_append, List.length_append, Nat.add_mul]
    by_cases ha : h.attempts e = true
    · obtain ⟨now, due, rfl, -, -, hmin⟩ := (i.attempts_iff hne).1 ha
      rw [if_pos ha] at hrest ⊢
      have hone : (HostEvent.call (.pollTimers now)).polled?.toList.length = 1 := rfl
      rw [hone, Nat.one_mul]
      simp only [List.length_nil] at hrest
      omega
    · rw [if_neg ha, List.length_append] at hrest
      rw [if_neg ha, List.length_nil, Nat.zero_mul]
      omega

end Idles

/-- The session is loaded, and its next tick is no earlier than the idle interval after `t`. -/
structure Rests (settings : SnapshotSettings) (h : Host (Tape σ)) (t : Nat) : Prop where
  loaded : h.session.isLoaded = true
  le : ∀ due ∈ h.session.timer.nextTick, t + settings.interval ≤ due

namespace Idles

variable {settings : SnapshotSettings} {h : Host (Tape σ)} {since : List UInt8} {e : HostEvent}
  {events : List HostEvent} {t : Nat}

theorem rests (i : Idles settings h since) (r : Rests settings h t) (he : e ≠ .call .flush) :
    Rests settings (h.advance e) t := by
  cases h.ticks_advance he with
  | kept tick loaded =>
    refine ⟨loaded.trans r.loaded, ?_⟩
    rw [tick]
    exact r.le
  | passed hdue le tick loaded =>
    refine ⟨loaded.trans r.loaded, fun due hmem => ?_⟩
    rw [tick] at hmem
    obtain rfl := Option.mem_some_iff.1 hmem
    have hle := r.le _ hdue
    rw [i.settings_eq]
    omega
  | started unloaded => exact absurd (unloaded.symm.trans r.loaded) (by simp)
  | stopped tick loaded =>
    refine ⟨loaded.trans r.loaded, fun due hmem => ?_⟩
    rw [tick] at hmem
    cases hmem

/-- After an attempt the session rests. -/
theorem rests_of_attempts (i : Idles settings h since) {now : Nat}
    (ha : h.attempts (.call (.pollTimers now)) = true) :
    Rests settings (h.advance (.call (.pollTimers now))) now := by
  have hne : HostEvent.call (.pollTimers now) ≠ .call .flush := nofun
  obtain ⟨now', due, hnow, hdue, hle, -⟩ := (i.attempts_iff hne).1 ha
  cases hnow
  obtain ⟨hloaded, hshown⟩ := i.ticking due hdue
  have htick : h.session.surface.isSome && h.session.timer.isDue now := by
    simp [hshown, SnapshotTimer.isDue, hdue, hle]
  have htimer : (h.advance (.call (.pollTimers now))).session.timer = h.session.timer.start now :=
    (h.session.pollTimers_eq h.backend now).2.1.trans (if_pos htick)
  have hkept : (h.advance (.call (.pollTimers now))).session.isLoaded = h.session.isLoaded :=
    (h.session.resized_pollTimers h.backend now).loaded_eq
  refine ⟨hkept.trans hloaded, fun due hmem => ?_⟩
  rw [htimer] at hmem
  obtain rfl := Option.mem_some_iff.1 hmem
  rw [i.settings_eq]

/-- Attempts are at least the idle interval apart from each other, and from the last before them. -/
theorem isChain_append (i : Idles settings h since) {last : Option Nat}
    (r : ∀ t ∈ last, Rests settings h t) (he : .call .flush ∉ events) :
    (last.toList ++ h.attemptTimes events).IsChain fun t t' => t + settings.interval ≤ t' := by
  induction events generalizing h since last with
  | nil => cases last <;> simp [attemptTimes]
  | cons e events ih =>
    have hne := (List.ne_of_not_mem_cons he).symm
    have hrest := List.not_mem_of_not_mem_cons he
    rw [attemptTimes]
    by_cases ha : h.attempts e = true
    · obtain ⟨now, due, rfl, hdue, hle, -⟩ := (i.attempts_iff hne).1 ha
      rw [if_pos ha]
      have hafter : ∀ t ∈ some now, Rests settings (h.advance (.call (.pollTimers now))) t := by
        rintro t ⟨⟩
        exact i.rests_of_attempts ha
      have hnext := ih (i.advance hne) hafter hrest
      cases last with
      | none => exact hnext
      | some t =>
        have hapart := (r t rfl).le due hdue
        exact List.isChain_cons_cons.2 ⟨by omega, hnext⟩
    · rw [if_neg ha]
      exact ih (i.advance hne) (fun t ht => i.rests (r t ht) hne) hrest

theorem isChain_attemptTimes (i : Idles settings h since) (he : .call .flush ∉ events) :
    (h.attemptTimes events).IsChain fun t t' => t + settings.interval ≤ t' := by
  have hnone : ∀ t ∈ (none : Option Nat), Rests settings h t := nofun
  exact i.isChain_append hnone he

end Idles

/-- The session waits for a tick, the idle interval after one of the times, as long as it is loaded
and has its display. -/
def TicksAfter (settings : SnapshotSettings) (h : Host (Tape σ)) (times : List Nat) : Prop :=
  h.session.isLoaded = true → h.session.surface.isSome = true →
    ∃ t ∈ times, h.session.timer.nextTick = some (t + settings.interval)

namespace Idles

variable {settings : SnapshotSettings} {h : Host (Tape σ)} {since : List UInt8} {e : HostEvent}
  {events : List HostEvent} {times : List Nat}

theorem ticksAfter_advance (i : Idles settings h since) (w : TicksAfter settings h times)
    (he : e ≠ .call .flush) : TicksAfter settings (h.advance e) (times ++ e.time?.toList) := by
  intro hloaded hshown
  cases h.ticks_advance he with
  | kept tick loaded shown =>
    obtain ⟨t, ht, hnext⟩ := w (loaded.symm.trans hloaded) (shown.symm.trans hshown)
    exact ⟨t, List.mem_append_left _ ht, by rw [tick, hnext]⟩
  | passed _ _ tick | started _ tick =>
    refine ⟨_, List.mem_append_right _ (List.mem_singleton.2 rfl), ?_⟩
    rw [tick, SnapshotTimer.start, i.settings_eq]
  | stopped _ _ released =>
    rw [released] at hshown
    cases hshown

theorem ticksAfter_advanceAll (i : Idles settings h since) (w : TicksAfter settings h times)
    (he : .call .flush ∉ events) :
    TicksAfter settings (h.advanceAll events) (times ++ events.filterMap HostEvent.time?) := by
  induction events generalizing h since times with
  | nil => simpa using w
  | cons e events ih =>
    have hne := (List.ne_of_not_mem_cons he).symm
    have hrest := ih (i.advance hne) (i.ticksAfter_advance w hne) (List.not_mem_of_not_mem_cons he)
    have htimes : times ++ (e :: events).filterMap HostEvent.time? =
        times ++ e.time?.toList ++ events.filterMap HostEvent.time? := by
      rw [List.filterMap_cons]
      cases e.time? <;> simp
    rw [htimes]
    exact hrest

end Idles

/-- A new session waits for no tick and has rendered nothing. -/
theorem idles_start (id : Text) (display : σ) (config : Config) (b : Backend) :
    Idles config.snapshots (start id ({ display } : Tape σ) config b) [] :=
  ⟨rfl, nofun, rfl⟩

/-- The attempts of a session to save snapshots, in any run without a forced one.  Whatever comes
next, what the display is written after a snapshot is what is rendered, and a save is attempted just
when it is a poll, the idle tick is due, and enough was rendered since the last attempt.  There is a
tick to wait for, the idle interval after a load or a poll.  So attempts are at least the idle
interval apart, and each is paid for by what was rendered; there are no others.  They are made at the
same times where the store never fails. -/
theorem saves_when_idle (id : Text) (display : σ) (config : Config) (b : Backend)
    {events : List HostEvent} (hforced : .call .flush ∉ events) :
    let first := start id ({ display } : Tape σ) config b
    let h := first.advanceAll events
    let times := first.attemptTimes events
    (∀ e, (h.advance e).session.surface.isSome = true →
      (h.advance e).written = h.written ++ h.replayed e ++ h.rendered e) ∧
      (∀ e, e ≠ .call .flush →
        (h.attempts e = true ↔ ∃ now due, e = .call (.pollTimers now) ∧
          h.session.timer.nextTick = some due ∧ due ≤ now ∧
          config.snapshots.minBytes ≤ (first.unsaved [] events).length)) ∧
      (h.session.isLoaded = true → h.session.surface.isSome = true →
        ∃ t ∈ events.filterMap HostEvent.time?,
          h.session.timer.nextTick = some (t + config.snapshots.interval)) ∧
      times.IsChain (fun t t' => t + config.snapshots.interval ≤ t') ∧
      times.length * config.snapshots.minBytes ≤ (first.renderedIn events).length ∧
      h.backend.saveAttempts = b.saveAttempts + times.length ∧
      let working := start id ({ display } : Tape σ) config (b.recover .saveCache)
      let mended := events.flatMap HostEvent.mended
      working.attemptTimes mended = times ∧
        (working.advanceAll mended).backend.fails .saveCache = false := by
  intro first h times
  have hstart : Idles config.snapshots first [] := idles_start id display config b
  refine ⟨h.written_advance, fun e he => (hstart.advanceAll hforced).attempts_iff he, ?_,
    hstart.isChain_attemptTimes hforced, ?_, ?_, ?_, ?_⟩
  · have hnone : TicksAfter config.snapshots first [] := nofun
    exact hstart.ticksAfter_advanceAll hnone hforced
  · simpa using hstart.length_attemptTimes_mul_le hforced
  · exact first.saveAttempts_advanceAll hforced
  · exact (differsInStore_start id _ config b).attemptTimes_mended hforced
  · have hworks : (b.recover .saveCache).fails .saveCache = false := by
      rw [Backend.fails_recover, decide_eq_true rfl, Bool.not_true, Bool.and_false]
    exact fails_mended hworks events

/-- One byte is too little at the first tick.  The attempt at 25 fails, and the next has to wait for
two more bytes and the end of the interval, as it would if the first had not failed. -/
theorem saves_when_idle_abcde :
    let config : Config := { snapshots := { minBytes := 2, interval := 10 } }
    let events : List HostEvent :=
      [.backend (.append [] [0x61]), .call (.load 0 []), .call (.pollTimers 12),
        .backend (.append [] [0x62, 0x63]), .call .processEvents, .backend (.fail .saveCache),
        .call (.pollTimers 20), .call (.pollTimers 25), .backend (.append [] [0x64, 0x65]),
        .call .processEvents, .call (.pollTimers 30), .call (.pollTimers 36)]
    let first := start [] ({ display := Surface.new ⟨1, 8⟩ } : Tape Surface) config {}
    .call .flush ∉ events ∧ first.attemptTimes events = [25, 36] ∧
      first.renderedIn events = [0x61, 0x62, 0x63, 0x64, 0x65] ∧
      (first.attemptTimes events).IsChain (fun t t' => t + 10 ≤ t') ∧
      (first.attemptTimes events).length * 2 ≤ (first.renderedIn events).length ∧
      first.attemptTimes (events.flatMap HostEvent.mended) = [25, 36] ∧
      (first.advanceAll events).attempts (.call (.pollTimers 46)) = false := by
  intro config events first
  have hforced : .call .flush ∉ events := by simp [events]
  have htimes : first.attemptTimes events = [25, 36] := by decide
  have hrendered : first.renderedIn events = [0x61, 0x62, 0x63, 0x64, 0x65] := by
    decide
  obtain ⟨-, hnext, -, hapart, hpaid, -, hworking, -⟩ :=
    saves_when_idle [] (Surface.new ⟨1, 8⟩) config {} hforced
  refine ⟨hforced, htimes, hrendered, hapart, hpaid, hworking.trans htimes, ?_⟩
  rw [Bool.eq_false_iff]
  intro hattempts
  obtain ⟨-, -, -, -, -, hmin⟩ := (hnext (.call (.pollTimers 46)) nofun).1 hattempts
  -- Nothing was rendered since the attempt at 36.
  have hunsaved : first.unsaved [] events = [] := by decide
  exact absurd (hunsaved ▸ hmin) (by decide)

end Host

end TermSession
