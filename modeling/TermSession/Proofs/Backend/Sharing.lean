import TermSession.Proofs.Session.Calls

/-!
# What sessions share of a backend

A backend keeps logs, subscriptions, snapshots and journals of many sessions.  What is asked of it
on behalf of one session is answered from what it keeps for that session, and changes nothing of
what it keeps for the others.

* `Journal.about`: the entries about one session;
* `Backend.Alike`: two backends keep the same for a session;
* `Backend.IsLocal`: what is asked on behalf of a session; `IsLocal.pure`, `IsLocal.bind`,
  `IsLocal.map`: how questions are put together;
* `isLocal_sendInput`, `isLocal_receiveAll`, …: the questions that sessions ask;
* `BackendChange.session?`; `Alike.undergo`, `alike_undergo`, `Alike.undergoAll_leaveOut`: changes
  of a backend.
-/

namespace TermSession

namespace Journal

variable {α : Type} {j j' : Journal (Text × α)} {session : Text}

/-- The entries about one session, oldest first. -/
def about (j : Journal (Text × α)) (session : Text) : List α :=
  (j.toList.filter fun e => e.1 = session).map Prod.snd

theorem about_add_congr (h : j'.about session = j.about session) (e : Text × α) :
    (j'.add e).about session = (j.add e).about session := by
  simp only [about, toList_add, List.filter_append, List.map_append] at h ⊢
  rw [h]

theorem about_add_of_ne {e : Text × α} (h : e.1 ≠ session) :
    (j.add e).about session = j.about session := by
  simp [about, h]

end Journal

namespace Backend

/-- Two backends keep the same for a session, ids stand for the same objects and the same calls
fail. -/
structure Alike (session : Text) (b b' : Backend) : Prop where
  log? : b'.logs.find? session = b.logs.find? session
  feed : b'.feed session = b.feed session
  snapshot? : ∀ kind, b'.snapshot? session kind = b.snapshot? session kind
  ids : b'.ids = b.ids
  failing : b'.failing = b.failing
  fetches : b'.fetches.about session = b.fetches.about session
  inputs : b'.inputs.about session = b.inputs.about session
  inputAttempts : b'.inputAttempts.about session = b.inputAttempts.about session
  sizes : b'.sizes.about session = b.sizes.about session
  resyncs : b'.resyncs.about session = b.resyncs.about session
  resyncAttempts : b'.resyncAttempts.about session = b.resyncAttempts.about session

namespace Alike

variable {session : Text} {b b' b'' : Backend}

theorem refl (session : Text) (b : Backend) : Alike session b b :=
  ⟨rfl, rfl, fun _ => rfl, rfl, rfl, rfl, rfl, rfl, rfl, rfl, rfl⟩

theorem symm (h : Alike session b b') : Alike session b' b :=
  ⟨h.log?.symm, h.feed.symm, fun kind => (h.snapshot? kind).symm, h.ids.symm, h.failing.symm,
    h.fetches.symm, h.inputs.symm, h.inputAttempts.symm, h.sizes.symm, h.resyncs.symm,
    h.resyncAttempts.symm⟩

theorem trans (h : Alike session b b') (h' : Alike session b' b'') : Alike session b b'' :=
  ⟨h'.log?.trans h.log?, h'.feed.trans h.feed,
    fun kind => (h'.snapshot? kind).trans (h.snapshot? kind), h'.ids.trans h.ids,
    h'.failing.trans h.failing, h'.fetches.trans h.fetches, h'.inputs.trans h.inputs,
    h'.inputAttempts.trans h.inputAttempts, h'.sizes.trans h.sizes, h'.resyncs.trans h.resyncs,
    h'.resyncAttempts.trans h.resyncAttempts⟩

theorem log_eq (h : Alike session b b') : b'.log session = b.log session := by
  simp [Backend.log, h.log?]

theorem fails_eq (h : Alike session b b') (op : Operation) : b'.fails op = b.fails op := by
  simp [fails, h.failing]

/-- A subscription changes. -/
theorem setFeed (h : Alike session b b') (session' : Text) (f : Feed → Feed) :
    Alike session { b with feeds := b.feeds.set session' (f (b.feed session')) }
      { b' with feeds := b'.feeds.set session' (f (b'.feed session')) } := by
  refine { h with feed := ?_ }
  by_cases hs : session' = session
  · subst hs
    rw [feed_set, feed_set, h.feed]
  · rw [feed_set_of_ne hs, feed_set_of_ne hs, h.feed]

/-- A snapshot is stored. -/
theorem storeSnapshot (h : Alike session b b') (session' kind : Text) (s : Thunk Snapshot) :
    Alike session (b.storeSnapshot session' kind s) (b'.storeSnapshot session' kind s) := by
  refine { h with snapshot? := fun kind' => ?_ }
  rw [snapshot?_storeSnapshot, snapshot?_storeSnapshot, h.snapshot?]

end Alike

/-- Somebody else's snapshot is stored. -/
theorem alike_storeSnapshot {session session' : Text} (hs : session' ≠ session) (b : Backend)
    (kind : Text) (s : Thunk Snapshot) : Alike session b (b.storeSnapshot session' kind s) := by
  refine { Alike.refl session b with snapshot? := fun kind' => ?_ }
  rw [snapshot?_storeSnapshot, if_neg fun heq => hs (congrArg Prod.fst heq)]

/-- Somebody else's subscription changes. -/
theorem alike_setFeed {session session' : Text} (hs : session' ≠ session) (b : Backend)
    (feed : Feed) : Alike session b { b with feeds := b.feeds.set session' feed } :=
  { Alike.refl session b with feed := feed_set_of_ne hs b feed }

/-! ### Questions -/

/-- A question to a backend, with its answer and what becomes of the backend, is local to a session:
it is answered from what the backend keeps for that session, and changes nothing of what the backend
keeps for the others. -/
structure IsLocal (session : Text) {α : Type} (val : Backend → α) (next : Backend → Backend) :
    Prop where
  own : ∀ b b', Alike session b b' → val b' = val b ∧ Alike session (next b) (next b')
  others : ∀ session', session' ≠ session → ∀ b, Alike session' b (next b)

namespace IsLocal

variable {session : Text} {α β : Type} {val : Backend → α} {next : Backend → Backend}

/-- Nothing is asked. -/
theorem pure (session : Text) (a : α) : IsLocal session (fun _ => a) (fun b => b) :=
  ⟨fun _ _ h => ⟨rfl, h⟩, fun session' _ b => .refl session' b⟩

/-- The answer is read from what the backend keeps. -/
theorem read (h : ∀ b b', Alike session b b' → val b' = val b) :
    IsLocal session val (fun b => b) :=
  ⟨fun b b' hb => ⟨h b b' hb, hb⟩, fun session' _ b => .refl session' b⟩

/-- Something is made of the answer. -/
theorem map (h : IsLocal session val next) (f : α → β) :
    IsLocal session (fun b => f (val b)) next :=
  ⟨fun b b' hb => ⟨congrArg f (h.own b b' hb).1, (h.own b b' hb).2⟩, h.others⟩

/-- The next question depends on the answer to the first. -/
theorem bind (h : IsLocal session val next) {val' : α → Backend → β}
    {next' : α → Backend → Backend}
    (h' : ∀ a, (∃ b, val b = a) → IsLocal session (val' a) (next' a)) :
    IsLocal session (fun b => val' (val b) (next b)) (fun b => next' (val b) (next b)) where
  own b b' hb := by
    obtain ⟨hval, hnext⟩ := h.own b b' hb
    rw [hval]
    exact (h' (val b) ⟨b, rfl⟩).own _ _ hnext
  others session' hs b :=
    (h.others session' hs b).trans ((h' (val b) ⟨b, rfl⟩).others session' hs _)

theorem congr (h : IsLocal session val next) {val' : Backend → α} {next' : Backend → Backend}
    (hval : ∀ b, val' b = val b) (hnext : ∀ b, next' b = next b) : IsLocal session val' next' := by
  obtain rfl : val' = val := funext hval
  obtain rfl : next' = next := funext hnext
  exact h

/-- Nothing is asked in the case at hand. -/
theorem of_idle (a : α) (h : ∀ b, val b = a ∧ next b = b) : IsLocal session val next :=
  (pure session a).congr (fun b => (h b).1) fun b => (h b).2

end IsLocal

theorem isLocal_fetchLog (session : Text) (offset : Nat) :
    IsLocal session (fun b => (b.fetchLog session offset).1)
      (fun b => (b.fetchLog session offset).2) where
  own b b' h := by
    refine ⟨?_, { h with fetches := Journal.about_add_congr h.fetches _ }⟩
    simp only [fetchLog, fetchFile, h.fails_eq, h.log?]
  others session' hs b :=
    { Alike.refl session' b with fetches := Journal.about_add_of_ne (Ne.symm hs) }

theorem isLocal_fetchSnapshot (session kind : Text) :
    IsLocal session (fun b => b.fetchSnapshot session kind) (fun b => b) :=
  .read fun _ _ h => by simp only [fetchSnapshot, h.fails_eq, h.snapshot?]

theorem isLocal_saveSnapshot (session kind : Text) (s : Thunk Snapshot) :
    IsLocal session (fun b => (b.saveSnapshot session kind s).1)
      (fun b => (b.saveSnapshot session kind s).2) where
  own b b' h := by
    have hstore (n n' : Nat) : Alike session
        ({ b with saveAttempts := n } : Backend) { b' with saveAttempts := n' } := { h with }
    have hfails : b'.failing.contains .saveCache = b.failing.contains .saveCache := h.fails_eq _
    simp only [saveSnapshot, fails, hfails]
    by_cases hf : b.failing.contains .saveCache = true
    · simp only [hf, ↓reduceIte]
      exact ⟨trivial, hstore _ _⟩
    · simp only [hf, ↓reduceIte, Bool.false_eq_true]
      exact ⟨trivial, (hstore _ _).storeSnapshot session kind s⟩
  others session' hs b := by
    simp only [saveSnapshot]
    split
    · exact { Alike.refl session' b with }
    · have hstore : Alike session' b { b with saveAttempts := b.saveAttempts + 1 } :=
        { Alike.refl session' b with }
      exact hstore.trans (alike_storeSnapshot hs.symm _ kind s)

theorem isLocal_sendInput (session : Text) (data : List UInt8) :
    IsLocal session (fun b => (b.sendInput session data).1)
      (fun b => (b.sendInput session data).2) where
  own b b' h := by
    have hattempts := Journal.about_add_congr h.inputAttempts (session, data)
    have hfails : b'.failing.contains .sendInput = b.failing.contains .sendInput := h.fails_eq _
    simp only [sendInput, fails, hfails]
    by_cases hf : b.failing.contains .sendInput = true
    · simp only [hf, ↓reduceIte]
      exact ⟨trivial, { h with inputAttempts := hattempts }⟩
    · simp only [hf, ↓reduceIte, Bool.false_eq_true]
      exact ⟨trivial, { h with
        inputAttempts := hattempts, inputs := Journal.about_add_congr h.inputs _ }⟩
  others session' hs b := by
    have hattempts := Journal.about_add_of_ne (j := b.inputAttempts) (e := (session, data))
      (Ne.symm hs)
    simp only [sendInput]
    split
    · exact { Alike.refl session' b with inputAttempts := hattempts }
    · exact { Alike.refl session' b with
        inputAttempts := hattempts, inputs := Journal.about_add_of_ne (Ne.symm hs) }

theorem isLocal_setSize (session : Text) (size : Size) :
    IsLocal session (fun _ => ()) (fun b => b.setSize session size) where
  own _ _ h := ⟨rfl, { h with sizes := Journal.about_add_congr h.sizes _ }⟩
  others session' hs b :=
    { Alike.refl session' b with sizes := Journal.about_add_of_ne (Ne.symm hs) }

theorem isLocal_resync (session : Text) (size : Size) :
    IsLocal session (fun b => (b.resync session size).1)
      (fun b => (b.resync session size).2) where
  own b b' h := by
    have hattempts := Journal.about_add_congr h.resyncAttempts (session, size)
    have hfails : b'.failing.contains .resync = b.failing.contains .resync := h.fails_eq _
    simp only [resync, fails, hfails]
    by_cases hf : b.failing.contains .resync = true
    · simp only [hf, ↓reduceIte]
      exact ⟨trivial, { h with resyncAttempts := hattempts }⟩
    · simp only [hf, ↓reduceIte, Bool.false_eq_true]
      exact ⟨trivial, { h with
        resyncAttempts := hattempts, resyncs := Journal.about_add_congr h.resyncs _ }⟩
  others session' hs b := by
    have hattempts := Journal.about_add_of_ne (j := b.resyncAttempts) (e := (session, size))
      (Ne.symm hs)
    simp only [resync]
    split
    · exact { Alike.refl session' b with resyncAttempts := hattempts }
    · exact { Alike.refl session' b with
        resyncAttempts := hattempts, resyncs := Journal.about_add_of_ne (Ne.symm hs) }

/-- A receiver's subscription is its session's. -/
theorem isLocal_updateSubscriber (r : Receiver) (f : Subscriber → Subscriber) :
    IsLocal r.session (fun _ => ()) (fun b => b.updateSubscriber r f) where
  own _ _ h := ⟨rfl, h.setFeed r.session (·.update r.serial f)⟩
  others _ hs b := alike_setFeed (Ne.symm hs) b _

theorem isLocal_receiveAll (r : Receiver) :
    IsLocal r.session (fun b => (b.receiveAll r).1) (fun b => (b.receiveAll r).2) where
  own b b' h := by
    refine ⟨?_, ((isLocal_updateSubscriber r _).own b b' h).2⟩
    simp only [receiveAll, waiting, h.feed]
  others := (isLocal_updateSubscriber r _).others

theorem isLocal_subscribe (session : Text) :
    IsLocal session (fun b => (b.subscribe session).1) (fun b => (b.subscribe session).2) where
  own b b' h := by
    refine ⟨?_, h.setFeed session Feed.join⟩
    simp only [subscribe, h.feed]
  others _ hs b := alike_setFeed (Ne.symm hs) b _

/-- Metadata is kept by object, and not by session. -/
theorem isLocal_updateMeta (session : Text) (ref : ObjectRef) (patch : Json.Object) :
    IsLocal session (fun b => (b.updateMeta ref patch).1)
      (fun b => (b.updateMeta ref patch).2) where
  own b b' h := by
    simp only [updateMeta, h.fails_eq]
    split <;> exact ⟨rfl, { h with }⟩
  others session' _ b := by
    simp only [updateMeta]
    split
    · exact .refl session' b
    · exact { Alike.refl session' b with }

theorem isLocal_target? (session : Text) (target : MetaTarget) :
    IsLocal session (fun b => b.target? session target) (fun b => b) :=
  .read fun _ _ h => by cases target <;> simp only [target?, resolveIds, h.fails_eq, h.ids]

theorem isLocal_apply (session : Text) (e : MetaEffect) :
    IsLocal session (fun _ => ()) (fun b => b.apply session e) := by
  have hfound (found : Option ObjectRef) : IsLocal session (fun _ => ()) fun b =>
      found.elim b fun ref => (b.updateMeta ref e.patch).2 := by
    cases found with
    | some ref => exact (isLocal_updateMeta session ref e.patch).map fun _ => ()
    | none => exact .pure session ()
  refine ((isLocal_target? session e.target).bind fun found _ => hfound found).congr
    (fun _ => rfl) fun b => ?_
  unfold apply
  cases b.target? session e.target <;> rfl

theorem isLocal_dispatch (session : Text) (commands : List OscCommand) (loaded : Bool) :
    IsLocal session (fun _ => ()) (fun b => (b.dispatch session commands loaded).2) := by
  simp only [dispatch]
  generalize commands.filterMap (MetaEffect.route? · loaded) = effects
  induction effects with
  | nil => exact .pure session ()
  | cons e effects ih => exact (isLocal_apply session e).bind fun _ _ => ih

end Backend

/-! ### Changes -/

namespace BackendChange

/-- The session that a change is about; `none` if it is about every session. -/
def session? : BackendChange → Option Text
  | .append session _ | .appendSilently session _ | .truncate session | .notify session _
  | .storeSnapshot session _ _ => some session
  | .registerId _ _ | .fail _ | .recover _ => none

/-- The changes that are not about a session. -/
def leaveOut (session : Text) (changes : List BackendChange) : List BackendChange :=
  changes.filter fun change => change.session? ≠ some session

end BackendChange

namespace Backend

variable {session session' : Text} {b b' : Backend}

namespace Alike

theorem setLog (h : Alike session b b') (session' : Text) (f : OutputLog → OutputLog) :
    Alike session { b with logs := b.logs.set session' (f (b.log session')) }
      { b' with logs := b'.logs.set session' (f (b'.log session')) } := by
  refine { h with log? := ?_ }
  rw [Table.find?_set, Table.find?_set]
  split
  · rename_i hs
    rw [hs, h.log_eq]
  · exact h.log?

/-- What both of two backends undergo leaves them alike. -/
theorem undergo (h : Alike session b b') (change : BackendChange) :
    Alike session (b.undergo change) (b'.undergo change) := by
  have hbroadcast {b b' : Backend} (h : Alike session b b') (session' : Text) (event : LogEvent) :
      Alike session (b.broadcast session' event) (b'.broadcast session' event) :=
    h.setFeed session' (·.send event)
  cases change with
  | append session' data =>
    -- The offset that is notified is that of the log's end.
    by_cases hs : session' = session
    · subst hs
      simp only [Backend.undergo, Backend.append, h.log_eq]
      exact hbroadcast (h.setLog session' (·.append data)) session' _
    · have hself (b : Backend) : Alike session (b.appendSilently session' data)
          (b.append session' data) := alike_setFeed hs _ _
      have hlog := h.setLog session' (·.append data)
      exact (hself b).symm.trans (hlog.trans (hself b'))
  | appendSilently session' data => exact h.setLog session' (·.append data)
  | truncate session' => exact hbroadcast (h.setLog session' fun _ => .empty) session' _
  | notify session' event => exact hbroadcast h session' event
  | storeSnapshot session' kind snapshot => exact h.storeSnapshot session' kind _
  | registerId id ref => exact { h with ids := by simp only [Backend.undergo, registerId, h.ids] }
  | fail op => exact { h with failing := by simp only [Backend.undergo, Backend.fail, h.failing] }
  | recover op =>
    exact { h with failing := by simp only [Backend.undergo, Backend.recover, h.failing] }

theorem undergoAll (h : Alike session b b') (changes : List BackendChange) :
    Alike session (b.undergoAll changes) (b'.undergoAll changes) := by
  induction changes generalizing b b' with
  | nil => exact h
  | cons change changes ih => exact ih (h.undergo change)

end Alike

/-- A change that is about another session is nothing to a session. -/
theorem alike_undergo {change : BackendChange} (hc : change.session? = some session')
    (hs : session' ≠ session) (b : Backend) : Alike session b (b.undergo change) := by
  have hlog (b : Backend) (log : OutputLog) :
      Alike session b { b with logs := b.logs.set session' log } :=
    { Alike.refl session b with log? := by rw [Table.find?_set, if_neg hs] }
  cases change with
  | append | truncate =>
    obtain rfl := Option.some.inj hc
    exact (hlog b _).trans (alike_setFeed hs _ _)
  | appendSilently =>
    obtain rfl := Option.some.inj hc
    exact hlog b _
  | notify =>
    obtain rfl := Option.some.inj hc
    exact alike_setFeed hs b _
  | storeSnapshot =>
    obtain rfl := Option.some.inj hc
    exact alike_storeSnapshot hs b _ _
  | registerId | fail | recover => cases hc

/-- Two backends that are alike for a session stay so, although one of them does not undergo what is
about another session. -/
theorem Alike.undergoAll_leaveOut (h : Alike session b b') (hs : session' ≠ session)
    (changes : List BackendChange) :
    Alike session (b.undergoAll changes)
      (b'.undergoAll (BackendChange.leaveOut session' changes)) := by
  induction changes generalizing b b' with
  | nil => exact h
  | cons change changes ih =>
    by_cases hc : change.session? = some session'
    · have hskip : BackendChange.leaveOut session' (change :: changes) =
          BackendChange.leaveOut session' changes := by
        simp [BackendChange.leaveOut, hc]
      rw [hskip]
      exact ih ((alike_undergo hc hs b).symm.trans h)
    · have hkeep : BackendChange.leaveOut session' (change :: changes) =
          change :: BackendChange.leaveOut session' changes := by
        simp [BackendChange.leaveOut, hc]
      rw [hkeep]
      exact ih (h.undergo change)

end Backend

end TermSession
