import TermSession.Proofs.Session.SaveAttempts

/-!
# Stores that fail

Whether the store takes a snapshot makes no difference to the idle timer or to the count of what was
rendered, so a store that fails is asked at the same times as one that works.

* `HostEvent.mended`: an event, without its failures of the store;
* `Backend.DiffersInStore`, `Host.DiffersInStore`: what a failing store leaves as it is;
* `DiffersInStore.advance`, `DiffersInStore.attemptTimes_mended`: one event, any run;
* `Host.fails_mended`: a run in which the store works.
-/

namespace TermSession

variable {σ : Type} [Display σ]

/-! ### Runs without failures -/

namespace BackendChange

/-- Does the change make storing snapshots fail? -/
def isStoreFault : BackendChange → Bool
  | .fail op => op = .saveCache
  | _ => false

/-- The changes, without those that make storing snapshots fail. -/
def mended (changes : List BackendChange) : List BackendChange :=
  changes.filter fun change => !change.isStoreFault

end BackendChange

/-- The call, while storing snapshots is not made to fail. -/
def SessionCall.mended : SessionCall → SessionCall
  | .load now meanwhile => .load now (BackendChange.mended meanwhile)
  | c => c

/-- The event, if it does not make storing snapshots fail. -/
def HostEvent.mended : HostEvent → List HostEvent
  | .call c => [.call c.mended]
  | .backend change => (BackendChange.mended [change]).map .backend

/-! ### Differences in the store -/

namespace Backend

theorem fails_fail (b : Backend) (op op' : Operation) :
    (b.fail op').fails op = (decide (op = op') || b.fails op) := by
  simp [fail, fails]

theorem fails_recover (b : Backend) (op op' : Operation) :
    (b.recover op').fails op = (b.fails op && !decide (op = op')) := by
  simp [recover, fails]

/-- A store that works goes on working in what does not make it fail. -/
theorem fails_undergo_mended {changes : List BackendChange} {change : BackendChange}
    (hc : change ∈ BackendChange.mended changes) {b : Backend} (hb : b.fails .saveCache = false) :
    (b.undergo change).fails .saveCache = false := by
  have hfault : change.isStoreFault = false := Bool.not_eq_true' _ ▸ (List.mem_filter.1 hc).2
  cases change with
  | fail op =>
    have hop : op ≠ .saveCache := of_decide_eq_false hfault
    rw [undergo, fails_fail, hb, Bool.or_false, decide_eq_false hop.symm]
  | recover op => rw [undergo, fails_recover, hb, Bool.false_and]
  | _ => exact hb

/-- What fails is for others to say. -/
theorem stable_failing (P : List Operation → Prop) : Stable fun b => P b.failing where
  updateSubscriber _ _ _ h := h
  updateMeta _ _ _ h := by
    unfold updateMeta
    split <;> exact h
  fetchLog _ _ _ h := h
  saveSnapshot _ _ _ _ h := by
    unfold saveSnapshot
    dsimp only
    split <;> exact h
  setSize _ _ _ h := h
  resync _ _ _ h := by
    unfold resync
    dsimp only
    split <;> exact h

/-- Two backends differ at most in the snapshots that they store, in whether storing them fails, and
in what they hear of input, sizes and metadata. -/
structure DiffersInStore (b b' : Backend) : Prop where
  logs : b'.logs = b.logs
  feeds : b'.feeds = b.feeds
  fails : ∀ op, op ≠ .saveCache → b'.fails op = b.fails op
  saveAttempts : b'.saveAttempts = b.saveAttempts

namespace DiffersInStore

variable {a b b' : Backend}

theorem refl (b : Backend) : b.DiffersInStore b := ⟨rfl, rfl, fun _ _ => rfl, rfl⟩

theorem symm (d : b.DiffersInStore b') : b'.DiffersInStore b :=
  ⟨d.logs.symm, d.feeds.symm, fun op h => (d.fails op h).symm, d.saveAttempts.symm⟩

theorem trans (d : a.DiffersInStore b) (d' : b.DiffersInStore b') : a.DiffersInStore b' :=
  ⟨d'.logs.trans d.logs, d'.feeds.trans d.feeds,
    fun op h => (d'.fails op h).trans (d.fails op h), d'.saveAttempts.trans d.saveAttempts⟩

/-- What keeps the logs, the notifications and the failures makes no difference. -/
theorem of_keeps (hkeeps : b.Keeps b') (h : b'.saveAttempts = b.saveAttempts) :
    b.DiffersInStore b' where
  logs := hkeeps.logs
  feeds := hkeeps.feeds
  fails op _ := by rw [Backend.fails, hkeeps.failing, Backend.fails]
  saveAttempts := h

theorem undergo (d : b.DiffersInStore b') (change : BackendChange) :
    (b.undergo change).DiffersInStore (b'.undergo change) where
  logs := logs_undergo d.logs change
  feeds := by
    cases change <;>
      simp [Backend.undergo, append, truncate, broadcast, appendSilently, storeSnapshot, registerId,
        Backend.fail, Backend.recover, Backend.feed, Backend.log, d.feeds, d.logs]
  fails op hop := by
    have hfails := d.fails op hop
    cases change with
    | fail op' => rw [Backend.undergo, Backend.undergo, fails_fail, fails_fail, hfails]
    | recover op' => rw [Backend.undergo, Backend.undergo, fails_recover, fails_recover, hfails]
    | _ => exact hfails
  saveAttempts := by
    have hattempts := d.saveAttempts
    cases change <;> exact hattempts

theorem updateSubscriber (d : b.DiffersInStore b') (r : Receiver) (f : Subscriber → Subscriber) :
    (b.updateSubscriber r f).DiffersInStore (b'.updateSubscriber r f) :=
  { d with feeds := by simp [Backend.updateSubscriber, Backend.feed, d.feeds] }

/-- That storing fails is a difference in the store. -/
theorem fault (b : Backend) {change : BackendChange} (hc : change.isStoreFault = true) :
    b.DiffersInStore (b.undergo change) := by
  cases change with
  | fail op =>
    obtain rfl : op = .saveCache := of_decide_eq_true hc
    refine ⟨rfl, rfl, fun op hop => ?_, rfl⟩
    rw [Backend.undergo, fails_fail, decide_eq_false hop, Bool.false_or]
  | _ => cases hc

end DiffersInStore

end Backend

/-! ### Sessions that differ in input -/

/-- What a size makes of a display has nothing to do with the backend. -/
theorem Resizing.apply_congr (z : Resizing) (size : Size) (surface : σ) (b b' : Backend)
    (session session' : Text) :
    (z.apply size surface b' session').2.1 = (z.apply size surface b session).2.1 ∧
      (z.apply size surface b' session').2.2.1 = (z.apply size surface b session).2.2.1 := by
  unfold apply
  dsimp only
  split <;> exact ⟨rfl, rfl⟩

namespace Session

variable {s s' : Session σ}

omit [Display σ] in
theorem SameOutput.symm (h : s.SameOutput s') : s'.SameOutput s :=
  ⟨h.id_eq.symm, h.surface_eq.symm, h.receiver_eq.symm, h.output_eq.symm, h.timer_eq.symm,
    h.resizing_eq.symm, h.platform_eq.symm, h.disposed_eq.symm⟩

theorem SameOutput.fit (h : s.SameOutput s') (size : Size) (b b' : Backend) :
    (s.fit size b).2.1.SameOutput (s'.fit size b').2.1 := by
  unfold Session.fit
  rw [h.surface_eq, h.resizing_eq]
  split
  · rename_i surface _
    obtain ⟨hz, hsurface⟩ := Resizing.apply_congr s.resizing size surface b b' s.id s'.id
    exact { h with resizing_eq := hz, surface_eq := congrArg some hsurface }
  · exact h

theorem SameOutput.pollTimers (h : s.SameOutput s') (now : Nat) (b b' : Backend) :
    (s.pollTimers b now).1.SameOutput (s'.pollTimers b' now).1 := by
  have hexpired : (s.expirePaste now).SameOutput (s'.expirePaste now) :=
    (s.sameOutput_expirePaste now).symm.trans (h.trans (s'.sameOutput_expirePaste now))
  have hresized {s s' : Session σ} (h : s.SameOutput s') :
      (s.pollResizing b now).1.SameOutput (s'.pollResizing b' now).1 := by
    unfold pollResizing Resizing.poll
    rw [h.surface_eq, h.resizing_eq]
    split
    · rename_i surface hs
      dsimp only
      split
      · rename_i size debouncer _
        obtain ⟨hz, hsurface⟩ :=
          Resizing.apply_congr { s.resizing with debouncer } size surface b b' s.id s'.id
        exact { h with resizing_eq := hz, surface_eq := congrArg some hsurface }
      · exact { h with resizing_eq := rfl, surface_eq := rfl }
    · exact h
  have hpolled {s s' : Session σ} (h : s.SameOutput s') (b b' : Backend) :
      (s.pollSnapshots b now).1.SameOutput (s'.pollSnapshots b' now).1 := by
    have hsurface := congrArg Option.isSome h.surface_eq
    rw [(s.pollSnapshots_eq b now).1, (s'.pollSnapshots_eq b' now).1,
      saves_congr hsurface h.timer_eq h.output_eq, hsurface, h.timer_eq, h.output_eq]
    exact { h with output_eq := rfl, timer_eq := rfl }
  exact hpolled (hresized hexpired) _ _

/-- A call that leaves notifications and history alone makes the same of sessions that differ at
most in input, whatever the backends. -/
theorem SameOutput.perform (h : s.SameOutput s') (b b' : Backend) {c : SessionCall}
    (hc : c.isAside = true) (hf : c ≠ .flush) :
    (s.perform b c).1.SameOutput (s'.perform b' c).1 := by
  cases ho : c.isOutput with
  | false =>
    have hd : c ≠ .dispose := by
      rintro rfl
      cases hc
    exact (sameOutput_perform s b ho hd).symm.trans (h.trans (sameOutput_perform s' b' ho hd))
  | true =>
    cases c with
    | pollTimers now => exact h.pollTimers now b b'
    | fit size => exact h.fit size b b'
    | requestSize size now =>
      simp only [Session.perform, requestSize]
      by_cases hd : s.disposed
      · rw [if_pos hd, if_pos (h.disposed_eq.trans hd)]
        exact h
      · rw [if_neg hd, if_neg fun hd' => hd (h.disposed_eq.symm.trans hd')]
        exact { h with resizing_eq := congrArg (Resizing.request · size now) h.resizing_eq }
    | flush => exact absurd rfl hf
    | load | processEvents => cases hc
    | _ => cases ho

end Session

/-! ### Hosts -/

namespace Host

/-- Two hosts differ at most in input, in the snapshots that their stores have taken since the
history was loaded, and in whether storing fails. -/
structure DiffersInStore (h h' : Host σ) : Prop where
  session : h.session.SameOutput h'.session
  backend : h.backend.DiffersInStore h'.backend
  stored : h.session.isLoaded = false → ∀ session kind,
    h'.backend.snapshot? session kind = h.backend.snapshot? session kind

namespace DiffersInStore

variable {h h' : Host σ}

omit [Display σ]

theorem loaded_eq (d : h.DiffersInStore h') : h'.session.isLoaded = h.session.isLoaded :=
  congrArg OutputStream.loaded d.session.output_eq

theorem undergo (d : h.DiffersInStore h') (change : BackendChange) :
    DiffersInStore { h with backend := h.backend.undergo change }
      { h' with backend := h'.backend.undergo change } where
  session := d.session
  backend := d.backend.undergo change
  stored hl session kind := by
    have hstored := d.stored hl session kind
    cases change with
    | storeSnapshot session' kind' snapshot =>
      simp only [Backend.undergo, Backend.snapshot?_storeSnapshot, hstored]
    | _ => exact hstored

theorem fault (d : h.DiffersInStore h') {change : BackendChange}
    (hc : change.isStoreFault = true) :
    DiffersInStore { h with backend := h.backend.undergo change } h' where
  session := d.session
  backend := (Backend.DiffersInStore.fault h.backend hc).symm.trans d.backend
  stored hl session kind := by
    rw [d.stored hl]
    cases change with
    | fail op => rfl
    | _ => cases hc

/-- That one of the backends is not made to fail storing makes no other difference. -/
theorem undergoAll_mended (d : h.DiffersInStore h') (changes : List BackendChange) :
    DiffersInStore { h with backend := h.backend.undergoAll changes }
      { h' with backend := h'.backend.undergoAll (BackendChange.mended changes) } := by
  induction changes generalizing h h' with
  | nil => exact d
  | cons change changes ih =>
    cases hc : change.isStoreFault with
    | true =>
      have hmended : BackendChange.mended (change :: changes) = BackendChange.mended changes :=
        List.filter_cons_of_neg (by simp [hc])
      rw [hmended]
      exact ih (d.fault hc)
    | false =>
      have hmended : BackendChange.mended (change :: changes) =
          change :: BackendChange.mended changes := List.filter_cons_of_pos (by simp [hc])
      rw [hmended]
      exact ih (d.undergo change)

end DiffersInStore

theorem advanceAll_mended (h : Host σ) (change : BackendChange) :
    h.advanceAll (HostEvent.mended (.backend change)) =
      { h with backend := h.backend.undergoAll (BackendChange.mended [change]) } := by
  cases hc : change.isStoreFault <;>
    simp [HostEvent.mended, BackendChange.mended, hc, advance, Backend.undergoAll]

/-- No call stores a snapshot unless its session is loaded. -/
theorem snapshot?_perform {h : Host σ} (hl : h.session.isLoaded = false) (c : SessionCall)
    (hc : c.changes = []) (session kind : Text) :
    (h.perform c).backend.snapshot? session kind = h.backend.snapshot? session kind := by
  obtain ⟨saved, hstores, hsaved⟩ := h.session.exists_stores_perform h.backend c
  have hnone : saved = none := by
    cases saved with
    | none => rfl
    | some t => exact absurd ((hsaved t rfl).2.1.symm.trans hl) (by simp)
  subst hnone
  rw [hc] at hstores
  exact (hstores.none session kind).snapshot_eq

namespace DiffersInStore

variable {h h' : Host σ}

theorem stored_perform (d : h.DiffersInStore h') {c : SessionCall} (hc : c.changes = [])
    (hl : h.session.isLoaded = false) (session kind : Text) :
    (h'.perform c).backend.snapshot? session kind =
      (h.perform c).backend.snapshot? session kind := by
  rw [snapshot?_perform hl c hc, snapshot?_perform (d.loaded_eq.trans hl) c hc, d.stored hl]

theorem aside (d : h.DiffersInStore h') {c : SessionCall} (hc : c.isAside = true)
    (hf : c ≠ .flush) : (h.perform c).DiffersInStore (h'.perform c) where
  session := d.session.perform h.backend h'.backend hc hf
  backend := by
    have hkept := h.session.undisturbed_perform h.backend hc
    have hkept' := h'.session.undisturbed_perform h'.backend hc
    have hsaves : h'.session.savesIn c = h.session.savesIn c := by
      cases c with
      | pollTimers now =>
        exact Session.saves_congr (congrArg Option.isSome d.session.surface_eq) d.session.timer_eq
          d.session.output_eq now
      | _ => rfl
    refine ⟨?_, ?_, fun op hop => ?_, ?_⟩
    · exact hkept'.logs.trans (d.backend.logs.trans hkept.logs.symm)
    · exact hkept'.feeds.trans (d.backend.feeds.trans hkept.feeds.symm)
    · have hfails := d.backend.fails op hop
      simp only [Backend.fails, ← hkept.failing, ← hkept'.failing] at hfails
      exact hfails
    · have hattempts := h.session.saveAttempts_perform h.backend hf
      have hattempts' := h'.session.saveAttempts_perform h'.backend hf
      rw [hsaves, d.backend.saveAttempts] at hattempts'
      exact hattempts'.trans hattempts.symm
  stored hl session kind := by
    have hquiet : c.changes = [] := by
      cases c with
      | load => cases hc
      | _ => rfl
    have hloaded : h.session.isLoaded = false :=
      (h.session.resized_perform h.backend hc).loaded_eq.symm.trans hl
    exact d.stored_perform hquiet hloaded session kind

theorem processEvents (d : h.DiffersInStore h') :
    (h.perform .processEvents).DiffersInStore (h'.perform .processEvents) := by
  rcases h.listening_cases with hidle | ⟨surface, receiver, hs, hr⟩
  · have hidle' : h'.session.surface = none ∨ h'.session.receiver = none := by
      rw [d.session.surface_eq, d.session.receiver_eq]
      exact hidle
    rw [perform_processEvents_idle hidle, perform_processEvents_idle hidle']
    exact d
  · obtain ⟨b, hh, hkeeps, hsaved⟩ := exists_perform_processEvents hs hr
    obtain ⟨b', hh', hkeeps', hsaved'⟩ := exists_perform_processEvents
      (d.session.surface_eq.trans hs) (d.session.receiver_eq.trans hr)
    have hwaiting : h'.backend.waiting receiver = h.backend.waiting receiver := by
      simp [Backend.waiting, Backend.feed, d.backend.feeds]
    rw [d.session.output_eq, hwaiting] at hh'
    refine ⟨?_, ?_, fun hl session kind => ?_⟩
    · rw [hh, hh']
      exact { d.session with surface_eq := rfl, output_eq := rfl }
    · rw [hh, hh']
      exact (Backend.DiffersInStore.of_keeps hkeeps hsaved).symm.trans
        ((d.backend.updateSubscriber receiver _).trans (.of_keeps hkeeps' hsaved'))
    · have hloaded : h.session.isLoaded = false := by
        rw [hh] at hl
        exact (Rendering.loaded_handleAll _ _).symm.trans hl
      exact d.stored_perform rfl hloaded session kind

omit [Display σ] in
theorem answers_eq (d : h.DiffersInStore h') (hl : h.session.isLoaded = false)
    (session kind : Text) : h'.backend.answers session kind = h.backend.answers session kind := by
  simp only [Backend.answers, Backend.fetchSnapshot, Backend.fetchLog, Backend.fetchFile,
    d.backend.logs, d.backend.fails .fetchCache (by decide), d.backend.fails .fetchFile (by decide),
    d.stored hl]

theorem loadHistory (d : h.DiffersInStore h') (now : Nat) :
    (h.loadHistory now).DiffersInStore (h'.loadHistory now) := by
  cases hl : h.session.isLoaded with
  | true =>
    rw [loadHistory_loaded hl, loadHistory_loaded (d.loaded_eq.trans hl)]
    exact d
  | false =>
    cases hs : h.session.surface with
    | none =>
      rw [loadHistory_released hs, loadHistory_released (d.session.surface_eq.trans hs)]
      exact d
    | some surface =>
      obtain ⟨b, hh, hkeeps, hsaved⟩ := exists_loadHistory hl hs now
      obtain ⟨b', hh', hkeeps', hsaved'⟩ := exists_loadHistory (d.loaded_eq.trans hl)
        (d.session.surface_eq.trans hs) now
      rw [d.session.output_eq, d.session.timer_eq, d.session.id_eq, d.answers_eq hl] at hh'
      rw [hh, hh']
      refine ⟨?_, ?_, fun hunloaded => ?_⟩
      · exact { d.session with surface_eq := rfl, output_eq := rfl, timer_eq := rfl }
      · exact (Backend.DiffersInStore.of_keeps hkeeps hsaved).symm.trans
          (d.backend.trans (.of_keeps hkeeps' hsaved'))
      · exact absurd ((Rendering.loaded_load _ _).symm.trans hunloaded) (by simp)

theorem load (d : h.DiffersInStore h') (now : Nat) (meanwhile : List BackendChange) :
    (h.perform (.load now meanwhile)).DiffersInStore
      (h'.perform (.load now (BackendChange.mended meanwhile))) := by
  cases hd : h.session.disposed with
  | true =>
    simp only [perform, Session.perform, Session.load, hd, d.session.disposed_eq.trans hd]
    exact d.undergoAll_mended meanwhile
  | false =>
    rw [perform_load hd, perform_load (d.session.disposed_eq.trans hd)]
    exact (d.processEvents.undergoAll_mended meanwhile).loadHistory now

theorem dispose (d : h.DiffersInStore h') :
    (h.perform .dispose).DiffersInStore (h'.perform .dispose) := by
  cases hd : h.session.disposed with
  | true =>
    simp only [perform, Session.perform, Session.dispose, hd, d.session.disposed_eq.trans hd]
    exact d
  | false =>
    have hloaded : (h.perform .dispose).session.isLoaded = h.session.isLoaded := by
      simp only [perform, Session.perform, Session.dispose, hd]
      rfl
    refine ⟨?_, ?_, fun hl session kind => ?_⟩
    · simp only [perform, Session.perform, Session.dispose, hd, d.session.disposed_eq.trans hd]
      exact ⟨d.session.id_eq, rfl, rfl, congrArg OutputStream.dispose d.session.output_eq,
        congrArg SnapshotTimer.cancel d.session.timer_eq,
        congrArg Resizing.cancel d.session.resizing_eq, d.session.platform_eq, rfl⟩
    · simp only [perform, Session.perform, Session.dispose, hd, d.session.disposed_eq.trans hd,
        d.session.receiver_eq]
      cases h.session.receiver with
      | none => exact d.backend
      | some receiver => exact d.backend.updateSubscriber receiver _
    · exact d.stored_perform rfl (hloaded.symm.trans hl) session kind

/-- The difference remains one in the store, if storing is not made to fail on one side. -/
theorem advance (d : h.DiffersInStore h') {e : HostEvent} (he : e ≠ .call .flush) :
    (h.advance e).DiffersInStore (h'.advanceAll e.mended) := by
  cases e with
  | backend change =>
    rw [advanceAll_mended]
    exact d.undergoAll_mended [change]
  | call c =>
    cases hc : c.isAside with
    | true =>
      have hsame : c.mended = c := by
        cases c with
        | load => cases hc
        | _ => rfl
      show (h.perform c).DiffersInStore (h'.perform c.mended)
      rw [hsame]
      exact d.aside hc fun hf => he (congrArg HostEvent.call hf)
    | false =>
      cases c with
      | load now meanwhile => exact d.load now meanwhile
      | processEvents => exact d.processEvents
      | dispose => exact d.dispose
      | _ => cases hc

/-- The backend is asked to save at the same times. -/
theorem attemptTimes_mended (d : h.DiffersInStore h') {events : List HostEvent}
    (he : .call .flush ∉ events) :
    h'.attemptTimes (events.flatMap HostEvent.mended) = h.attemptTimes events := by
  induction events generalizing h h' with
  | nil => rfl
  | cons e events ih =>
    have hne := (List.ne_of_not_mem_cons he).symm
    have hafter := d.advance hne
    have hfirst : h'.attemptTimes e.mended = if h.attempts e then e.polled?.toList else [] := by
      cases e with
      | backend change =>
        cases hc : change.isStoreFault <;>
          simp [HostEvent.mended, BackendChange.mended, hc, attemptTimes, HostEvent.polled?]
      | call c =>
        have hpolled : (HostEvent.call c.mended).polled? = (HostEvent.call c).polled? := by
          cases c <;> rfl
        have hattempts : h'.attempts (.call c.mended) = h.attempts (.call c) := by
          have hasked : (h'.advance (.call c.mended)).backend.saveAttempts =
              (h.advance (.call c)).backend.saveAttempts := hafter.backend.saveAttempts
          rw [attempts, attempts, hasked, d.backend.saveAttempts]
        rw [HostEvent.mended, attemptTimes, attemptTimes, List.append_nil, hpolled, hattempts]
    rw [List.flatMap_cons, attemptTimes_append, ih hafter (List.not_mem_of_not_mem_cons he), hfirst,
      attemptTimes]

end DiffersInStore

/-- A new session does not look at the store. -/
theorem differsInStore_start (id : Text) (display : σ) (config : Config) (b : Backend) :
    (start id display config b).DiffersInStore
      (start id display config (b.recover .saveCache)) where
  session := .refl _
  backend :=
    { logs := rfl
      feeds := rfl
      fails := fun op hop => by
        have hfails := b.fails_recover op .saveCache
        rwa [decide_eq_false hop, Bool.not_false, Bool.and_true] at hfails
      saveAttempts := rfl }
  stored _ _ _ := rfl

/-- A store that works goes on working. -/
theorem fails_mended {h : Host σ} (hb : h.backend.fails .saveCache = false)
    (events : List HostEvent) :
    (h.advanceAll (events.flatMap HostEvent.mended)).backend.fails .saveCache = false := by
  induction events generalizing h with
  | nil => exact hb
  | cons e events ih =>
    rw [List.flatMap_cons, advanceAll_append]
    refine ih ?_
    cases e with
    | backend change =>
      rw [advanceAll_mended]
      exact Backend.undergoAll_induction (P := fun b => b.fails .saveCache = false)
        (fun change hc b => Backend.fails_undergo_mended hc) hb
    | call c =>
      have hmended : c.mended.changes = BackendChange.mended c.changes := by cases c <;> rfl
      show (h.session.perform h.backend c.mended).2.fails .saveCache = false
      cases hi : c.mended.isInput with
      | false =>
        have hstable := Backend.stable_failing fun failing => failing.contains .saveCache = false
        refine h.session.perform_stable hstable hi (fun change hc b hb => ?_) hb
        rw [hmended] at hc
        exact Backend.fails_undergo_mended hc hb
      | true =>
        refine Session.perform_sends (P := fun b => b.fails .saveCache = false) ?_ h.session hi hb
        intro b session data hb
        unfold Backend.sendInput
        dsimp only
        split <;> exact hb

end Host

end TermSession
