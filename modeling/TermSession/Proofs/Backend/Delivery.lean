import TermSession.Metadata

/-!
# Delivery of log events

What a receiver gets is what was sent while it listened, in order.

* `Backend.Delivers b r queue`: the receiver `r` listens, and `queue` waits for it;
* `Delivers.append`, `Delivers.truncate`, `Delivers.receiveAll`: how the queue changes;
* `Backend.Keeps`: calls that only make entries in a journal keep logs, queues and snapshots;
* `Backend.AltersOnly`: calls that are about one receiver leave the others alone.
-/

namespace TermSession

namespace Feed

/-- The subscription is open, and `queue` waits for it. -/
def Holds (feed : Feed) (serial : Nat) (queue : List LogEvent) : Prop :=
  feed.find? serial = some ⟨serial, true, queue⟩

theorem holds_join (feed : Feed) : feed.join.Holds feed.issued [] := by
  have hnone : feed.subscribers.find? (·.serial = feed.issued) = none := by
    rw [List.find?_eq_none]
    intro s hs
    have := feed.serial_lt s hs
    simp only [decide_eq_true_eq]
    omega
  simp [Holds, find?, join, hnone]

theorem find?_filter_map {subscribers : List Subscriber} {serial : Nat} {s : Subscriber}
    {f : Subscriber → Subscriber} (hf : ∀ s, (f s).serial = s.serial)
    (h : subscribers.find? (·.serial = serial) = some s) (hs : s.connected = true) :
    ((subscribers.filter (·.connected)).map f).find? (·.serial = serial) = some (f s) := by
  induction subscribers with
  | nil => cases h
  | cons t subscribers ih =>
    rw [List.find?_cons] at h
    by_cases ht : t.serial = serial
    · simp only [ht, decide_true, Option.some.injEq] at h
      subst h
      simp [hs, hf, ht]
    · simp only [ht, decide_false] at h
      by_cases hc : t.connected
      · simp only [List.filter_cons, hc, if_true, List.map_cons, List.find?_cons, hf, ht,
          decide_false]
        exact ih h
      · simpa only [List.filter_cons, hc, if_false, Bool.false_eq_true] using ih h

theorem Holds.send {feed : Feed} {serial : Nat} {queue : List LogEvent}
    (h : feed.Holds serial queue) (event : LogEvent) :
    (feed.send event).Holds serial (queue ++ [event]) :=
  find?_filter_map (f := fun s => { s with queue := s.queue ++ [event] }) (fun _ => rfl) h rfl

theorem find?_update {subscribers : List Subscriber} {serial : Nat} {s : Subscriber}
    (f : Subscriber → Subscriber) (h : subscribers.find? (·.serial = serial) = some s) :
    (subscribers.map fun s => if s.serial = serial then { f s with serial } else s).find?
        (·.serial = serial) = some { f s with serial } := by
  induction subscribers with
  | nil => cases h
  | cons t subscribers ih =>
    rw [List.find?_cons] at h
    by_cases ht : t.serial = serial
    · simp only [ht, decide_true, Option.some.injEq] at h
      subst h
      simp [ht]
    · simp only [ht, decide_false] at h
      simpa [ht] using ih h

theorem Holds.lt_issued {feed : Feed} {serial : Nat} {queue : List LogEvent}
    (h : feed.Holds serial queue) : serial < feed.issued :=
  feed.serial_lt _ (List.mem_of_find?_eq_some h)

/-- A new subscription leaves the others as they are. -/
theorem Holds.join {feed : Feed} {serial : Nat} {queue : List LogEvent}
    (h : feed.Holds serial queue) : feed.join.Holds serial queue := by
  have hfind : feed.subscribers.find? (·.serial = serial) = some ⟨serial, true, queue⟩ := h
  simp [Holds, find?, Feed.join, hfind]

/-- A change of one subscription leaves the others as they are. -/
theorem Holds.update_of_ne {feed : Feed} {serial serial' : Nat} {queue : List LogEvent}
    (h : feed.Holds serial queue) (hs : serial' ≠ serial) (f : Subscriber → Subscriber) :
    (feed.update serial' f).Holds serial queue := by
  have hfind : feed.subscribers.find? (·.serial = serial) = some ⟨serial, true, queue⟩ := h
  have hserial : ∀ s : Subscriber,
      ((if s.serial = serial' then { f s with serial := serial' } else s).serial = serial) =
        (s.serial = serial) := by
    intro s
    split
    · rename_i heq
      rw [heq]
    · rfl
  -- Whoever looks for one serial number passes over what is done to another.
  have hcomp : ((fun s : Subscriber => decide (s.serial = serial)) ∘ fun s =>
      if s.serial = serial' then { f s with serial := serial' } else s) =
      fun s => decide (s.serial = serial) := by
    funext s
    simp only [Function.comp_apply, hserial]
  simp only [Holds, find?, Feed.update, List.find?_map, hcomp, hfind, Option.map_some]
  rw [if_neg (Ne.symm hs)]

theorem Holds.update {feed : Feed} {serial : Nat} {queue : List LogEvent}
    (h : feed.Holds serial queue) (f : List LogEvent → List LogEvent) :
    (feed.update serial fun s => { s with queue := f s.queue }).Holds serial (f queue) :=
  find?_update (fun s => { s with queue := f s.queue }) h

end Feed

namespace Backend

/-- The receiver listens, and `queue` waits for it. -/
def Delivers (b : Backend) (r : Receiver) (queue : List LogEvent) : Prop :=
  (b.feed r.session).Holds r.serial queue

@[simp] theorem feed_set (b : Backend) (session : Text) (feed : Feed) :
    ({ b with feeds := b.feeds.set session feed } : Backend).feed session = feed := by
  simp [Backend.feed, Table.find?_set]

theorem feed_of_feeds_eq {b b' : Backend} (h : b'.feeds = b.feeds) (session : Text) :
    b'.feed session = b.feed session := by
  simp [Backend.feed, h]

theorem feed_set_of_ne {session session' : Text} (h : session' ≠ session) (b : Backend)
    (feed : Feed) :
    ({ b with feeds := b.feeds.set session' feed } : Backend).feed session = b.feed session := by
  simp [Backend.feed, Table.find?_set, h]

theorem delivers_subscribe (b : Backend) (session : Text) :
    (b.subscribe session).2.Delivers (b.subscribe session).1 [] := by
  simp only [Delivers, subscribe, feed_set]
  exact Feed.holds_join _

variable {b b' : Backend} {r : Receiver} {queue : List LogEvent}

theorem Delivers.waiting (h : b.Delivers r queue) : b.waiting r = queue := by
  unfold Delivers Feed.Holds at h
  simp [Backend.waiting, h]

theorem Delivers.of_feeds_eq (h : b.Delivers r queue) (hb : b'.feeds = b.feeds) :
    b'.Delivers r queue := by
  unfold Delivers
  rwa [feed_of_feeds_eq hb]

theorem Delivers.broadcast (h : b.Delivers r queue) (event : LogEvent) :
    (b.broadcast r.session event).Delivers r (queue ++ [event]) := by
  simp only [Delivers, Backend.broadcast, feed_set]
  exact Feed.Holds.send h event

theorem Delivers.append (h : b.Delivers r queue) (data : List UInt8) :
    (b.append r.session data).Delivers r
      (queue ++ [.append (b.log r.session).toList.length data]) := by
  rw [OutputLog.length_toList]
  exact Delivers.broadcast (b := b.appendSilently r.session data) h _

theorem Delivers.truncate (h : b.Delivers r queue) :
    (b.truncate r.session).Delivers r (queue ++ [.truncate 0]) :=
  Delivers.broadcast (b := { b with logs := b.logs.set r.session .empty }) h _

theorem Delivers.receiveAll (h : b.Delivers r queue) : (b.receiveAll r).2.Delivers r [] := by
  simp only [Delivers, Backend.receiveAll, updateSubscriber, feed_set]
  exact Feed.Holds.update h fun _ => []

theorem Delivers.serial_lt (h : b.Delivers r queue) : r.serial < (b.feed r.session).issued :=
  Feed.Holds.lt_issued h

/-- Somebody else subscribes. -/
theorem Delivers.subscribe (h : b.Delivers r queue) (session : Text) :
    (b.subscribe session).2.Delivers r queue := by
  unfold Delivers
  by_cases hs : session = r.session
  · subst hs
    simp only [Backend.subscribe, feed_set]
    exact Feed.Holds.join h
  · simp only [Backend.subscribe, feed_set_of_ne hs]
    exact h

/-- A new receiver is none of those that listen already. -/
theorem Delivers.ne_subscribe (h : b.Delivers r queue) (session : Text) :
    r ≠ (b.subscribe session).1 := by
  rintro rfl
  exact absurd h.serial_lt (Nat.lt_irrefl _)

/-- Somebody else's subscription changes. -/
theorem Delivers.updateSubscriber_of_ne {r' : Receiver} (h : b.Delivers r queue) (hr : r' ≠ r)
    (f : Subscriber → Subscriber) : (b.updateSubscriber r' f).Delivers r queue := by
  unfold Delivers
  by_cases hs : r'.session = r.session
  · have hserial : r'.serial ≠ r.serial := by
      intro heq
      cases r
      cases r'
      simp_all
    simp only [updateSubscriber, hs, feed_set]
    exact Feed.Holds.update_of_ne h hserial f
  · simp only [updateSubscriber, feed_set_of_ne hs]
    exact h

/-! ### Logs -/

@[simp] theorem log_append (b : Backend) (session : Text) (data : List UInt8) :
    ((b.append session data).log session).toList = (b.log session).toList ++ data := by
  simp [Backend.append, Backend.log, broadcast, appendSilently, Table.find?_set]

@[simp] theorem log_truncate (b : Backend) (session : Text) :
    ((b.truncate session).log session).toList = [] := by
  simp [Backend.truncate, Backend.log, broadcast, Table.find?_set]

/-! ### Calls that only make entries -/

/-- Logs, queues, snapshots, ids and failures are as before. -/
structure Keeps (b b' : Backend) : Prop where
  logs : b'.logs = b.logs
  feeds : b'.feeds = b.feeds
  snapshots : b'.snapshots = b.snapshots
  ids : b'.ids = b.ids
  failing : b'.failing = b.failing

namespace Keeps

theorem refl (b : Backend) : b.Keeps b := ⟨rfl, rfl, rfl, rfl, rfl⟩

theorem trans {a b c : Backend} (h : a.Keeps b) (h' : b.Keeps c) : a.Keeps c :=
  ⟨h'.logs.trans h.logs, h'.feeds.trans h.feeds, h'.snapshots.trans h.snapshots,
    h'.ids.trans h.ids, h'.failing.trans h.failing⟩

theorem log_eq (h : b.Keeps b') (session : Text) : b'.log session = b.log session := by
  simp [Backend.log, h.logs]

theorem snapshot?_eq (h : b.Keeps b') (session kind : Text) :
    b'.snapshot? session kind = b.snapshot? session kind := by
  simp [Backend.snapshot?, h.snapshots]

end Keeps

/-- Logs and failures are as before, and what waits for everybody but one receiver. -/
structure AltersOnly (b : Backend) (receiver : Option Receiver) (b' : Backend) : Prop where
  logs : b'.logs = b.logs
  failing : b'.failing = b.failing
  delivers : ∀ r queue, receiver ≠ some r → b.Delivers r queue → b'.Delivers r queue

theorem Keeps.altersOnly (h : b.Keeps b') (receiver : Option Receiver) :
    b.AltersOnly receiver b' :=
  ⟨h.logs, h.failing, fun _ _ _ hd => hd.of_feeds_eq h.feeds⟩

theorem altersOnly_updateSubscriber (b : Backend) (r : Receiver) (f : Subscriber → Subscriber) :
    b.AltersOnly (some r) (b.updateSubscriber r f) :=
  ⟨rfl, rfl, fun _ _ hr hd => hd.updateSubscriber_of_ne (fun heq => hr (congrArg some heq)) f⟩

theorem AltersOnly.trans {a b c : Backend} {receiver : Option Receiver}
    (h : a.AltersOnly receiver b) (h' : b.AltersOnly receiver c) : a.AltersOnly receiver c :=
  ⟨h'.logs.trans h.logs, h'.failing.trans h.failing,
    fun r queue hr hd => h'.delivers r queue hr (h.delivers r queue hr hd)⟩

theorem keeps_updateMeta (b : Backend) (ref : ObjectRef) (patch : Json.Object) :
    b.Keeps (b.updateMeta ref patch).2 := by
  unfold updateMeta
  split <;> exact ⟨rfl, rfl, rfl, rfl, rfl⟩

/-- Commands do nothing to a backend but change metadata. -/
theorem dispatch_induction {P : Backend → Prop} {session : Text} {commands : List OscCommand}
    {loaded : Bool} (step : ∀ b ref patch, P b → P (b.updateMeta ref patch).2) (h : P b) :
    P (b.dispatch session commands loaded).2 := by
  simp only [dispatch]
  generalize commands.filterMap (MetaEffect.route? · loaded) = effects
  induction effects generalizing b with
  | nil => exact h
  | cons e effects ih =>
    have happly : P (b.apply session e) := by
      unfold Backend.apply
      split
      · exact step _ _ _ h
      · exact h
    exact ih happly

theorem keeps_dispatch (b : Backend) (session : Text) (commands : List OscCommand)
    (loaded : Bool) : b.Keeps (b.dispatch session commands loaded).2 :=
  dispatch_induction (P := b.Keeps) (fun _ ref patch h => h.trans (keeps_updateMeta _ ref patch))
    (.refl b)

theorem keeps_fetchLog (b : Backend) (session : Text) (offset : Nat) :
    b.Keeps (b.fetchLog session offset).2 := ⟨rfl, rfl, rfl, rfl, rfl⟩

theorem keeps_setSize (b : Backend) (session : Text) (size : Size) :
    b.Keeps (b.setSize session size) := ⟨rfl, rfl, rfl, rfl, rfl⟩

theorem keeps_resync (b : Backend) (session : Text) (size : Size) :
    b.Keeps (b.resync session size).2 := by
  unfold resync
  dsimp only
  split <;> exact ⟨rfl, rfl, rfl, rfl, rfl⟩

end Backend

end TermSession
