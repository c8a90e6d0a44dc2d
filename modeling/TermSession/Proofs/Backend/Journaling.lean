import TermSession.Proofs.Session.Arrivals

/-!
# Notifications are a journal of the log

Receivers come, receive and go while logs are written to.  What a receiver has got and what waits
for it are, as long as it is there, the changes of its own log since it subscribed, each once and in
order; folded over the log that it subscribed to they give the log as it is.

* `FeedStep`, `Backend.follow`, `Backend.followAll`: runs of a backend with its receivers;
* `LogEvent.applyTo?`: what an event makes of a log, if it goes on where the log ends;
* `FeedStep.rewrite`, `FeedStep.announced`: what steps do to a log, and the events that tell of it;
* `Backend.delivered`: what a receiver has got and what waits for it; `Delivers.follow`,
  `Delivers.delivered_eq`: one step, any run;
* `Backend.delivered_faithful`: any receiver of any backend.
-/

namespace TermSession

/-- One step of a run of a backend with its receivers. -/
inductive FeedStep where
  | append (session : Text) (data : List UInt8)
  | appendSilently (session : Text) (data : List UInt8)
  | truncate (session : Text)
  /-- Somebody subscribes to a session's log. -/
  | subscribe (session : Text)
  /-- A receiver takes the next event, if there is one. -/
  | receive (r : Receiver)
  /-- A receiver goes. -/
  | drop (r : Receiver)
  deriving DecidableEq, Repr, Inhabited

/-- The log that an event makes of a log.  Output has to come where the log ends. -/
def LogEvent.applyTo? (log : List UInt8) : LogEvent → Option (List UInt8)
  | .append offset data => if offset = log.length then some (log ++ data) else none
  | .truncate _ => some []

namespace FeedStep

/-- Does the step change a session's log? -/
def rewrites (session : Text) : FeedStep → Bool
  | .append session' _ | .appendSilently session' _ | .truncate session' => session' = session
  | _ => false

/-- What the step makes of a session's log. -/
def rewrite (session : Text) (log : List UInt8) : FeedStep → List UInt8
  | .append session' data | .appendSilently session' data =>
    if session' = session then log ++ data else log
  | .truncate session' => if session' = session then [] else log
  | _ => log

/-- The event that tells of what the step does to a session's log. -/
def event? (session : Text) (log : List UInt8) : FeedStep → Option LogEvent
  | .append session' data => if session' = session then some (.append log.length data) else none
  | .truncate session' => if session' = session then some (.truncate 0) else none
  | _ => none

/-- The events that tell of what steps do to a session's log, in order. -/
def announced (session : Text) (log : List UInt8) : List FeedStep → List LogEvent
  | [] => []
  | step :: steps =>
    (step.event? session log).toList ++ announced session (step.rewrite session log) steps

variable {session : Text} {step : FeedStep}

theorem rewrite_of_not_rewrites (h : step.rewrites session = false) (log : List UInt8) :
    step.rewrite session log = log ∧ step.event? session log = none := by
  cases step with
  | append session' | appendSilently session' | truncate session' =>
    have hne : session' ≠ session := of_decide_eq_false h
    simp [rewrite, event?, hne]
  | _ => exact ⟨rfl, rfl⟩

/-- Whoever receives, subscribes or goes, and whatever happens to other logs, is not told of. -/
theorem announced_filter (session : Text) (log : List UInt8) (steps : List FeedStep) :
    announced session log (steps.filter (·.rewrites session)) = announced session log steps := by
  induction steps generalizing log with
  | nil => rfl
  | cons step steps ih =>
    cases hstep : step.rewrites session with
    | true => rw [List.filter_cons_of_pos hstep, announced, announced, ih]
    | false =>
      obtain ⟨hlog, hevent⟩ := rewrite_of_not_rewrites hstep log
      rw [List.filter_cons_of_neg (by simp [hstep]), announced, hlog, hevent, ih]
      rfl

/-- Every change that is not silent is told of by an event that makes it. -/
theorem foldlM_event? (h : ∀ data, step ≠ .appendSilently session data) (log : List UInt8) :
    (step.event? session log).toList.foldlM LogEvent.applyTo? log =
      some (step.rewrite session log) := by
  cases step with
  | append session' data =>
    by_cases hs : session' = session <;> simp [event?, rewrite, hs, LogEvent.applyTo?]
  | appendSilently session' data =>
    have hs : session' ≠ session := fun hs => h data (by rw [hs])
    simp [event?, rewrite, hs]
  | truncate session' =>
    by_cases hs : session' = session <;> simp [event?, rewrite, hs, LogEvent.applyTo?]
  | _ => rfl

theorem foldlM_announced {steps : List FeedStep}
    (h : ∀ data, .appendSilently session data ∉ steps) (log : List UInt8) :
    (announced session log steps).foldlM LogEvent.applyTo? log =
      some (steps.foldl (rewrite session) log) := by
  induction steps generalizing log with
  | nil => rfl
  | cons step steps ih =>
    have hfirst := foldlM_event? (fun data => (List.ne_of_not_mem_cons (h data)).symm) log
    rw [announced, List.foldlM_append, hfirst]
    exact ih (fun data => List.not_mem_of_not_mem_cons (h data)) _

end FeedStep

namespace Backend

/-- One step of a run. -/
def follow (b : Backend) : FeedStep → Backend
  | .append session data => b.append session data
  | .appendSilently session data => b.appendSilently session data
  | .truncate session => b.truncate session
  | .subscribe session => (b.subscribe session).2
  | .receive r => (b.receive r).2
  | .drop r => b.unsubscribe r

/-- Steps in order. -/
def followAll (b : Backend) (steps : List FeedStep) : Backend := steps.foldl follow b

/-- What a receiver gets in a step. -/
def got (b : Backend) (r : Receiver) : FeedStep → List LogEvent
  | .receive r' => if r' = r then (b.receive r).1.toList else []
  | _ => []

/-- What a receiver gets in a run, in order. -/
def received (b : Backend) (r : Receiver) : List FeedStep → List LogEvent
  | [] => []
  | step :: steps => b.got r step ++ (b.follow step).received r steps

/-- What a receiver has got in a run, and then what waits for it. -/
def delivered (b : Backend) (r : Receiver) (steps : List FeedStep) : List LogEvent :=
  b.received r steps ++ (b.followAll steps).waiting r

theorem delivered_cons (b : Backend) (r : Receiver) (step : FeedStep) (steps : List FeedStep) :
    b.delivered r (step :: steps) = b.got r step ++ (b.follow step).delivered r steps :=
  List.append_assoc _ _ _

/-- A step does to each log what it does to that one alone. -/
theorem log_follow (b : Backend) (session : Text) (step : FeedStep) :
    ((b.follow step).log session).toList = step.rewrite session (b.log session).toList := by
  cases step with
  | append session' data =>
    by_cases hs : session' = session <;>
      simp [follow, FeedStep.rewrite, Backend.append, broadcast, appendSilently, Backend.log,
        Table.find?_set, hs]
  | appendSilently session' data =>
    by_cases hs : session' = session <;>
      simp [follow, FeedStep.rewrite, appendSilently, Backend.log, Table.find?_set, hs]
  | truncate session' =>
    by_cases hs : session' = session <;>
      simp [follow, FeedStep.rewrite, Backend.truncate, broadcast, Backend.log, Table.find?_set, hs]
  | _ => rfl

theorem log_followAll (b : Backend) (session : Text) (steps : List FeedStep) :
    ((b.followAll steps).log session).toList =
      steps.foldl (FeedStep.rewrite session) (b.log session).toList := by
  induction steps generalizing b with
  | nil => rfl
  | cons step steps ih =>
    rw [List.foldl_cons, ← log_follow]
    exact ih (b.follow step)

section Receiving

variable {b : Backend} {r : Receiver} {queue : List LogEvent}

/-- The next event is taken, and the others wait. -/
theorem Delivers.receive (h : b.Delivers r queue) :
    (b.receive r).1 = queue.head? ∧ (b.receive r).2.Delivers r (queue.drop 1) := by
  refine ⟨congrArg List.head? h.waiting, ?_⟩
  simp only [Delivers, Backend.receive, updateSubscriber, feed_set]
  exact Feed.Holds.update h (List.drop 1)

/-- Until the receiver goes, a step adds the event that tells of it, if there is one, and hands over
the first if it is asked to. -/
theorem Delivers.follow (h : b.Delivers r queue) {step : FeedStep} (hd : step ≠ .drop r) :
    ∃ queue', (b.follow step).Delivers r queue' ∧
      b.got r step ++ queue' =
        queue ++ (step.event? r.session (b.log r.session).toList).toList := by
  cases step with
  | append session data =>
    refine ⟨_, h.undergo_event (.append session data), ?_⟩
    simp [got, FeedStep.event?, BackendChange.event?]
  | appendSilently session data => exact ⟨queue, h, (List.append_nil _).symm⟩
  | truncate session => exact ⟨_, h.undergo_event (.truncate session), rfl⟩
  | subscribe session => exact ⟨queue, h.subscribe session, (List.append_nil _).symm⟩
  | receive r' =>
    by_cases hr : r' = r
    · subst hr
      obtain ⟨hhead, hrest⟩ := h.receive
      refine ⟨queue.drop 1, hrest, ?_⟩
      rw [got, if_pos rfl, hhead]
      cases queue <;> simp [FeedStep.event?]
    · exact ⟨queue, h.updateSubscriber_of_ne hr _, by simp [got, hr, FeedStep.event?]⟩
  | drop r' =>
    have hr : r' ≠ r := fun hr => hd (by rw [hr])
    exact ⟨queue, h.updateSubscriber_of_ne hr _, (List.append_nil _).symm⟩

/-- Until the receiver goes, it gets what waits for it and then what its log is announced to
undergo. -/
theorem Delivers.delivered_eq (h : b.Delivers r queue) {steps : List FeedStep}
    (hd : .drop r ∉ steps) :
    b.delivered r steps =
      queue ++ FeedStep.announced r.session (b.log r.session).toList steps := by
  induction steps generalizing b queue with
  | nil => rw [FeedStep.announced, List.append_nil]; exact h.waiting
  | cons step steps ih =>
    obtain ⟨queue', hqueue', hgot⟩ := h.follow (List.ne_of_not_mem_cons hd).symm
    rw [delivered_cons, ih hqueue' (List.not_mem_of_not_mem_cons hd), ← List.append_assoc, hgot,
      log_follow, FeedStep.announced, List.append_assoc]

end Receiving

/-- Whoever subscribes to a log, by whatever that came before, has until it goes been told of just
what happened to that log since, once and in order: what it has got, with what still waits for it,
tells of it.  If nothing was added silently, these events take the log that it subscribed to to the
log as it is, each where the one before ended.  And they are the same whatever happens to other logs
and whatever other receivers do, who may come, receive and go. -/
theorem delivered_faithful (b : Backend) (session : Text) {steps : List FeedStep}
    (hd : .drop (b.subscribe session).1 ∉ steps) :
    let r := (b.subscribe session).1
    let first := (b.subscribe session).2
    let events := first.delivered r steps
    events = FeedStep.announced session (b.log session).toList steps ∧
      ((∀ data, .appendSilently session data ∉ steps) →
        events.foldlM LogEvent.applyTo? (b.log session).toList =
          some ((first.followAll steps).log session).toList) ∧
      ∀ steps' : List FeedStep, .drop r ∉ steps' →
        steps'.filter (·.rewrites session) = steps.filter (·.rewrites session) →
        first.delivered r steps' = events := by
  intro r first events
  have hfirst : first.Delivers r [] := b.delivers_subscribe session
  have hevents {steps : List FeedStep} (hd : .drop r ∉ steps) :
      first.delivered r steps = FeedStep.announced session (b.log session).toList steps :=
    (hfirst.delivered_eq hd).trans (List.nil_append _)
  refine ⟨hevents hd, fun hloud => ?_, fun steps' hd' hsame => ?_⟩
  · rw [log_followAll]
    exact (congrArg (List.foldlM LogEvent.applyTo? _) (hevents hd)).trans
      (FeedStep.foldlM_announced hloud _)
  · rw [hevents hd', ← FeedStep.announced_filter, hsame, FeedStep.announced_filter]
    exact (hevents hd).symm

/-- Another receiver of the log goes with events waiting, and its subscription with it. -/
theorem delivered_faithful_pruned :
    let b := ((({} : Backend).append "a".toList [0x61]).subscribe "a".toList).2
    let r := (b.subscribe "a".toList).1
    let first := (b.subscribe "a".toList).2
    let steps : List FeedStep :=
      [.append "a".toList [0x62, 0x63], .append "b".toList [0x64], .drop ⟨"a".toList, 0⟩,
        .receive r, .truncate "a".toList, .append "a".toList [0x65]]
    .drop r ∉ steps ∧ first.subscriberCount "a".toList = 2 ∧
      (first.followAll steps).subscriberCount "a".toList = 1 ∧
      first.received r steps = [.append 1 [0x62, 0x63]] ∧
      first.delivered r steps = [.append 1 [0x62, 0x63], .truncate 0, .append 0 [0x65]] ∧
      (first.delivered r steps).foldlM LogEvent.applyTo? [0x61] =
        some ((first.followAll steps).log "a".toList).toList ∧
      first.delivered r (steps.filter (·.rewrites "a".toList)) = first.delivered r steps := by
  intro b r first steps
  have hd : .drop r ∉ steps := by decide
  obtain ⟨hevents, hfold, hsame⟩ := delivered_faithful b "a".toList hd
  refine ⟨hd, by decide, by decide, by decide,
    hevents.trans (by decide), hfold ?_, hsame _ ?_ ?_⟩
  · simp [steps]
  · exact fun h => hd (List.mem_filter.1 h).1
  · simp [List.filter_filter]

end Backend

end TermSession
