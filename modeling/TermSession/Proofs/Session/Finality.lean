import TermSession.Proofs.Session.Multiplexer

/-!
# Disposal is final

A session that is disposed of stays as it is, whatever it is called with afterwards, whatever other
sessions do and whatever happens to the backend, and its subscription goes with the next
notification of its log.

* `Feed.Released`: nobody listens at a subscription any more, and it still stands in the list or it
  does not; `Released.send`, `Released.join`, `Released.update_of_ne`: how that changes;
* `BackendChange.notifies`, `MultiplexerStep.notifies`: are the listeners of a log notified?
* `Backend.Released`; `Released.undergoAll`;
* `Multiplexer.Departed`: and no session has the receiver; `Departed.step`, `Departed.run`;
* `Multiplexer.exists_spent_run`: a session that is spent stays so;
* `Multiplexer.dispose_final`.
-/

namespace TermSession

variable {σ : Type}

/-! ### A subscription that is left -/

namespace Feed

/-- Whoever has the serial number does not listen, and nobody will get it.  `listed` says whether
the subscription stands in the list. -/
structure Released (feed : Feed) (serial : Nat) (listed : Bool) : Prop where
  lt_issued : serial < feed.issued
  closed : ∀ e ∈ feed.subscribers, e.serial = serial → e.connected = false
  listed_eq : (feed.find? serial).isSome = listed

/-- Changes of subscriptions leave all of them in the list. -/
theorem isSome_find?_update (feed : Feed) (serial serial' : Nat) (f : Subscriber → Subscriber) :
    ((feed.update serial' f).find? serial).isSome = (feed.find? serial).isSome := by
  have hserial (e : Subscriber) :
      (if e.serial = serial' then { f e with serial := serial' } else e).serial = e.serial := by
    split
    · exact Eq.symm ‹_›
    · rfl
  simp only [find?, Feed.update, List.find?_map, Option.isSome_map, Function.comp_def, hserial]

namespace Released

variable {feed : Feed} {serial : Nat} {listed : Bool}

/-- The next event drops the subscription. -/
theorem send (h : feed.Released serial listed) (event : LogEvent) :
    (feed.send event).Released serial false := by
  have hgone : ∀ e ∈ (feed.send event).subscribers, e.serial ≠ serial := by
    intro e he
    obtain ⟨e', he', rfl⟩ := List.mem_map.1 he
    obtain ⟨hmem, hconnected⟩ := List.mem_filter.1 he'
    exact fun heq => by simp [h.closed e' hmem heq] at hconnected
  refine ⟨h.lt_issued, fun e he heq => absurd heq (hgone e he), ?_⟩
  rw [find?, Option.isSome_eq_false_iff, Option.isNone_iff_eq_none, List.find?_eq_none]
  simpa using hgone

theorem join (h : feed.Released serial listed) : feed.join.Released serial listed := by
  have hnew : feed.issued ≠ serial := Nat.ne_of_gt h.lt_issued
  refine ⟨Nat.lt_succ_of_lt h.lt_issued, fun e he heq => ?_, ?_⟩
  · rcases List.mem_append.1 he with he | he
    · exact h.closed e he heq
    · obtain rfl := List.mem_singleton.1 he
      exact absurd heq hnew
  · rw [← h.listed_eq]
    simp [find?, Feed.join, hnew]

theorem update_of_ne (h : feed.Released serial listed) {serial' : Nat} (hs : serial' ≠ serial)
    (f : Subscriber → Subscriber) : (feed.update serial' f).Released serial listed := by
  refine ⟨h.lt_issued, fun e he heq => ?_, (isSome_find?_update _ _ _ _).trans h.listed_eq⟩
  obtain ⟨e', he', rfl⟩ := List.mem_map.1 he
  split at heq
  · exact absurd heq hs
  · rename_i hne
    rw [if_neg hne]
    exact h.closed e' he' heq

end Released

/-- Whoever stops listening releases the subscription. -/
theorem Holds.released {feed : Feed} {serial : Nat} {queue : List LogEvent}
    (h : feed.Holds serial queue) :
    (feed.update serial fun s => { s with connected := false, queue := [] }).Released serial
      true := by
  refine ⟨h.lt_issued, fun e he heq => ?_, ?_⟩
  · obtain ⟨e', -, rfl⟩ := List.mem_map.1 he
    split at heq
    · rename_i heq'
      rw [if_pos heq']
    · exact absurd heq ‹_›
  · rw [isSome_find?_update, show feed.find? serial = _ from h]
    rfl

end Feed

/-- Are the listeners of a session's log notified? -/
def BackendChange.notifies (session : Text) : BackendChange → Bool
  | .append session' _ | .truncate session' | .notify session' _ => session' = session
  | _ => false

namespace Backend

/-- Nobody listens at the receiver, and nobody will get it. -/
def Released (b : Backend) (r : Receiver) (listed : Bool) : Prop :=
  (b.feed r.session).Released r.serial listed

variable {b b' : Backend} {r : Receiver} {queue : List LogEvent} {listed : Bool}

theorem Delivers.unsubscribe (h : b.Delivers r queue) : (b.unsubscribe r).Released r true := by
  simp only [Released, Backend.unsubscribe, updateSubscriber, feed_set]
  exact Feed.Holds.released h

namespace Released

theorem of_feeds_eq (h : b.Released r listed) (hb : b'.feeds = b.feeds) : b'.Released r listed := by
  unfold Released
  rwa [feed_of_feeds_eq hb]

theorem subscribe (h : b.Released r listed) (session : Text) :
    (b.subscribe session).2.Released r listed := by
  unfold Released
  by_cases hs : session = r.session
  · subst hs
    simp only [Backend.subscribe, feed_set]
    exact Feed.Released.join h
  · simp only [Backend.subscribe, feed_set_of_ne hs]
    exact h

/-- A new session has another receiver. -/
theorem ne_subscribe (h : b.Released r listed) (session : Text) : r ≠ (b.subscribe session).1 := by
  rintro rfl
  exact absurd (Feed.Released.lt_issued h) (Nat.lt_irrefl _)

theorem updateSubscriber_of_ne {r' : Receiver} (h : b.Released r listed) (hr : r' ≠ r)
    (f : Subscriber → Subscriber) : (b.updateSubscriber r' f).Released r listed := by
  unfold Released
  by_cases hs : r'.session = r.session
  · have hserial : r'.serial ≠ r.serial := by
      intro heq
      cases r
      cases r'
      simp_all
    simp only [updateSubscriber, hs, feed_set]
    exact Feed.Released.update_of_ne h hserial f
  · simp only [updateSubscriber, feed_set_of_ne hs]
    exact h

theorem broadcast (h : b.Released r listed) (session : Text) (event : LogEvent) :
    (b.broadcast session event).Released r (listed && !decide (session = r.session)) := by
  unfold Released
  by_cases hs : session = r.session
  · subst hs
    simp only [Backend.broadcast, feed_set, decide_true, Bool.not_true, Bool.and_false]
    exact Feed.Released.send h event
  · simp only [Backend.broadcast, feed_set_of_ne hs, hs, decide_false, Bool.not_false,
      Bool.and_true]
    exact h

theorem undergo (h : b.Released r listed) (change : BackendChange) :
    (b.undergo change).Released r (listed && !change.notifies r.session) := by
  cases change with
  | append session data => exact broadcast (b := b.appendSilently session data) h session _
  | truncate session =>
    exact broadcast (b := { b with logs := b.logs.set session .empty }) h session _
  | notify session event => exact h.broadcast session event
  | appendSilently | storeSnapshot | registerId | fail | recover =>
    simp only [BackendChange.notifies, Bool.not_false, Bool.and_true]
    exact h

theorem undergoAll (h : b.Released r listed) (changes : List BackendChange) :
    (b.undergoAll changes).Released r (listed && !changes.any (·.notifies r.session)) := by
  induction changes generalizing b listed with
  | nil => simpa [Backend.undergoAll] using h
  | cons change changes ih =>
    have hrest := ih (h.undergo change)
    rw [Bool.and_assoc, ← Bool.not_or] at hrest
    exact hrest

end Released

end Backend

/-- Are the listeners of a session's log notified in this step? -/
def MultiplexerStep.notifies (session : Text) (step : MultiplexerStep σ) : Bool :=
  step.changes.any (·.notifies session)

namespace Multiplexer

/-- Nobody listens at the receiver, and no session has it. -/
structure Departed (m : Multiplexer σ) (r : Receiver) (listed : Bool) : Prop where
  released : m.backend.Released r listed
  unheld : ∀ id i s, m.session? id i = some s → s.receiver ≠ some r

variable [Display σ] {m : Multiplexer σ} {r : Receiver} {listed : Bool} {id : Text} {i : Nat}
  {s : Session σ}

namespace Departed

theorem create (d : m.Departed r listed) (id : Text) (display : σ) (config : Config) :
    (m.step (.create id display config)).Departed r listed where
  released := d.released.subscribe id
  unheld id' i s hs := by
    rcases m.session?_create id display config hs with hs | ⟨-, -, rfl⟩
    · exact d.unheld id' i s hs
    · exact fun hr => d.released.ne_subscribe id (Option.some.inj hr).symm

theorem call (d : m.Departed r listed) (id : Text) (i : Nat) (c : SessionCall) :
    (m.step (.call id i c)).Departed r (listed && !c.changes.any (·.notifies r.session)) := by
  cases hs : m.session? id i with
  | none =>
    simp only [step, hs]
    exact ⟨d.released.undergoAll c.changes, d.unheld⟩
  | some s =>
    refine ⟨?_, fun id' j s' hj => ?_⟩
    · rw [backend_call hs]
      refine s.perform_feeds (P := (·.Released r listed)) (Q := (·.Released r _))
        (fun _ _ hfeeds h => h.of_feeds_eq hfeeds) (fun _ _ hfeeds h => h.of_feeds_eq hfeeds)
        (fun r' hr' _ f h => ?_) (fun _ h => h.undergoAll c.changes) d.released
      exact h.updateSubscriber_of_ne (fun heq => d.unheld id i s hs (heq ▸ hr')) f
    · rw [session?_call hs] at hj
      split at hj
      · obtain rfl := Option.some.inj hj
        exact fun hr => d.unheld id i s hs (Session.receiver_of_perform hr)
      · exact d.unheld id' j s' hj

theorem step (d : m.Departed r listed) (step : MultiplexerStep σ) :
    (m.step step).Departed r (listed && !step.notifies r.session) := by
  cases step with
  | create id display config =>
    simpa [MultiplexerStep.notifies, MultiplexerStep.changes] using d.create id display config
  | call id i c => exact d.call id i c
  | change change => exact ⟨d.released.undergoAll [change], d.unheld⟩

theorem run (d : m.Departed r listed) (steps : List (MultiplexerStep σ)) :
    (m.run steps).Departed r (listed && !steps.any (·.notifies r.session)) := by
  induction steps generalizing m listed with
  | nil => simpa using d
  | cons step steps ih =>
    have hrest := ih (d.step step)
    rw [Bool.and_assoc, ← Bool.not_or] at hrest
    exact hrest

end Departed

/-- The receiver of a session that is disposed of is nobody's afterwards. -/
theorem Wired.departed (w : m.Wired) (hs : m.session? id i = some s)
    (hlive : s.disposed = false) :
    ∃ r queue, s.receiver = some r ∧ r.session = id ∧ m.backend.Delivers r queue ∧
      (m.step (.call id i .dispose)).Departed r true := by
  obtain ⟨-, hspent | ⟨r, queue, l⟩⟩ := w.hears id i s hs
  · exact absurd (hlive.symm.trans hspent.disposed) (by simp)
  · have hr : s.receiver = some r := l.receiver_eq
    have hdispose : s.perform m.backend .dispose =
        ((s.dispose m.backend).1, m.backend.unsubscribe r) := by
      simp [Session.perform, Session.dispose, hlive, hr]
    refine ⟨r, queue, hr, l.receiver_session, l.delivers, ?_, fun id' j s' hj => ?_⟩
    · rw [backend_call hs, hdispose]
      exact l.delivers.unsubscribe
    · rw [session?_call hs] at hj
      split at hj
      · obtain rfl := Option.some.inj hj
        simp [(s.spent_dispose hlive m.backend).receiver_eq, hdispose]
      · rename_i hne
        exact fun hr' => hne (w.distinct id' j s' id i s r hj hs hr' hr)

/-- A session that is spent stays so, and neither counts nor hands on anything, whatever happens. -/
theorem exists_spent_step (hs : m.session? id i = some s) (h : s.IsSpent)
    (step : MultiplexerStep σ) :
    ∃ s', (m.step step).session? id i = some s' ∧ s'.IsSpent ∧ s'.output = s.output ∧
      s'.mirrored = s.mirrored := by
  cases step with
  | create id' display config =>
    exact ⟨s, session?_create_of_some hs id' display config, h, rfl, rfl⟩
  | change change => exact ⟨s, hs, h, rfl, rfl⟩
  | call id' j c =>
    cases hs' : m.session? id' j with
    | none =>
      simp only [step, hs']
      exact ⟨s, hs, h, rfl, rfl⟩
    | some s' =>
      rw [session?_call hs']
      split
      · rename_i heq
        obtain ⟨rfl, rfl⟩ := heq
        obtain rfl : s = s' := Option.some.inj (hs.symm.trans hs')
        rw [h.perform]
        exact ⟨_, rfl, h.switched c, (s.switched_keeps c).1, (s.switched_keeps c).2⟩
      · exact ⟨s, hs, h, rfl, rfl⟩

theorem exists_spent_run (hs : m.session? id i = some s) (h : s.IsSpent)
    (steps : List (MultiplexerStep σ)) :
    ∃ s', (m.run steps).session? id i = some s' ∧ s'.IsSpent ∧ s'.output = s.output ∧
      s'.mirrored = s.mirrored := by
  induction steps generalizing m s with
  | nil => exact ⟨s, hs, h, rfl, rfl⟩
  | cons step steps ih =>
    obtain ⟨s₁, hs₁, h₁, houtput₁, hmirrored₁⟩ := exists_spent_step hs h step
    obtain ⟨s₂, hs₂, h₂, houtput₂, hmirrored₂⟩ := ih hs₁ h₁
    exact ⟨s₂, hs₂, h₂, houtput₂.trans houtput₁, hmirrored₂.trans hmirrored₁⟩

omit [Display σ] in
/-- Once a session is disposed of, in whatever state, it is spent. -/
theorem Wired.spent_dispose (w : m.Wired) (hs : m.session? id i = some s) :
    (s.dispose m.backend).1.IsSpent := by
  cases hlive : s.disposed with
  | false => exact s.spent_dispose hlive m.backend
  | true =>
    obtain ⟨-, hspent | ⟨r, queue, l⟩⟩ := w.hears id i s hs
    · simpa [Session.dispose, hlive] using hspent
    · exact absurd (hlive.symm.trans l.live) (by simp)

/-- **Disposal is final.**  Take any run of sessions and of the backend that they share, dispose of
one of the sessions, and go on in any way, calling that session or not.  Afterwards it waits for
nothing, holds nothing back, has no size and composes nothing; it has counted nothing and handed
nothing on since; and whatever it is called with, it answers that it did nothing, becomes the same
whatever the backend, and leaves every backend to its other changes.  If it had not been disposed of
before, it was subscribed with a receiver of its own, and the subscription is in the list until the
next notification of the log, and not after it. -/
theorem dispose_final (b : Backend) (before after : List (MultiplexerStep σ))
    (hs : ((start b).run before).session? id i = some s) :
    let m := (start b).run before
    let m' := m.run (.call id i .dispose :: after)
    ∃ s', m'.session? id i = some s' ∧
      s'.nextDeadline = none ∧ s'.output.held = [] ∧ s'.size = none ∧ s'.composition = .idle ∧
      s'.output.rendered = s.output.rendered ∧ s'.output.offset = s.output.offset ∧
      s'.output.position = s.output.position ∧
      s'.output.sinceSnapshot = s.output.sinceSnapshot ∧ s'.mirrored = s.mirrored ∧
      (∀ c, ∃ s'', ∀ b',
        s'.answer b' c = c.refusal ∧ s'.perform b' c = (s'', b'.undergoAll c.changes)) ∧
      (s.disposed = false → ∃ r queue, s.receiver = some r ∧ r.session = id ∧
        m.backend.Delivers r queue ∧
        ((m'.backend.feed id).find? r.serial).isSome = !after.any (·.notifies id)) := by
  intro m m'
  have w : m.Wired := (wired_start b).run before
  have hdisposed : (m.step (.call id i .dispose)).session? id i =
      some (s.dispose m.backend).1 := by
    rw [session?_call hs, if_pos ⟨rfl, rfl⟩]
    rfl
  obtain ⟨s', hs', hspent, houtput, hmirrored⟩ :=
    exists_spent_run hdisposed (w.spent_dispose hs) after
  obtain ⟨hrendered, hposition, hsince, hmirrored'⟩ := s.dispose_keeps m.backend
  refine ⟨s', hs', hspent.nextDeadline_eq, hspent.held_eq, hspent.size_eq, hspent.composition_eq,
    ?_, ?_, ?_, ?_, hmirrored.trans hmirrored', fun c => ⟨s'.switched c, fun b' => ?_⟩,
    fun hlive => ?_⟩
  · rw [houtput, hrendered]
  · rw [houtput, OutputStream.offset_eq hrendered, OutputStream.offset]
  · rw [houtput, hposition]
  · rw [houtput, hsince]
  · exact ⟨hspent.answer_eq b' c, hspent.perform b' c⟩
  · obtain ⟨r, queue, hr, rfl, hdelivers, d⟩ := w.departed hs hlive
    exact ⟨r, queue, hr, rfl, hdelivers, (d.run after).released.listed_eq⟩

/-- A session that is not loaded, holds output back, is in the middle of a composition and waits for
a size to be applied is disposed of.  It is called with all that it waited for, and the log goes on
with another session. -/
theorem dispose_final_held :
    let before : List MultiplexerStep :=
      [.create [] (Surface.new ⟨1, 8⟩) {}, .change (.append [] [0x61, 0x62]),
        .call [] 0 .processEvents, .call [] 0 .compositionStart,
        .call [] 0 (.requestSize ⟨2, 4⟩ 0)]
    let after : List MultiplexerStep :=
      [.call [] 0 (.pollTimers 1000), .call [] 0 (.compositionEnd ['x'] 1000),
        .create [] (Surface.new ⟨1, 8⟩) {}, .change (.append [] [0x63]),
        .call [] 0 (.load 1000 [])]
    let m := (start {}).run before
    let m' := m.run (.call [] 0 .dispose :: after)
    ∃ s s', m.session? [] 0 = some s ∧ s.output.held = [⟨0, [0x61, 0x62]⟩] ∧
      s.composition.isComposing = true ∧ s.nextDeadline = some 50 ∧
      m'.session? [] 0 = some s' ∧ s'.nextDeadline = none ∧ s'.output.held = [] ∧
      s'.composition = .idle ∧
      (∀ c b', s'.answer b' c = c.refusal ∧ (s'.perform b' c).2 = b'.undergoAll c.changes) ∧
      ∃ r, s.receiver = some r ∧ ((m'.backend.feed []).find? r.serial).isSome = false := by
  intro before after m m'
  have hstate : ∃ s ∈ m.session? [] 0, s.output.held = [⟨0, [0x61, 0x62]⟩] ∧
      s.composition.isComposing = true ∧ s.nextDeadline = some 50 ∧ s.disposed = false := by
    decide
  obtain ⟨s, hs, hheld, hcomposing, hdeadline, hlive⟩ := hstate
  obtain ⟨s', hs', hdeadline', hheld', -, hidle, -, -, -, -, -, hcalls, hlisted⟩ :=
    dispose_final {} before after hs
  obtain ⟨r, queue, hr, -, -, hgone⟩ := hlisted hlive
  refine ⟨s, s', hs, hheld, hcomposing, hdeadline, hs', hdeadline', hheld', hidle,
    fun c b' => ?_, r, hr, hgone⟩
  obtain ⟨s'', hperform⟩ := hcalls c
  exact ⟨(hperform b').1, congrArg Prod.snd (hperform b').2⟩

end Multiplexer

end TermSession
