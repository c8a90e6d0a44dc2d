import TermSession.Backend.Basic
import TermSession.Backend.Journal
import TermSession.Backend.OutputLog
import TermSession.Table

/-!
# A backend in memory

Output logs, snapshots and object ids by name, the subscriptions to log changes, the operations
that are made to fail, and journals of the calls received.

* `Backend`: the state;
* `Backend.append`, `Backend.truncate`, `Backend.appendSilently`: changes of a log;
* `Backend.subscribe`, `Backend.receive`, `Backend.receiveAll`, `Backend.unsubscribe`;
* `Backend.fetchFile`, … `Backend.updateMeta`: the calls a session makes.
-/

namespace TermSession

/-- One subscription: whether somebody still listens, and the events not yet received. -/
structure Subscriber where
  serial : Nat
  connected : Bool := true
  queue : List LogEvent := []
  deriving DecidableEq, Repr, Inhabited

/-- The subscriptions to one log, in the order they were made.  Serial numbers are issued in
order, so that the next one is new. -/
structure Feed where
  issued : Nat := 0
  subscribers : List Subscriber := []
  serial_lt : ∀ s ∈ subscribers, s.serial < issued := by simp
  deriving DecidableEq, Repr

instance : Inhabited Feed := ⟨{}⟩

namespace Feed

/-- Sends an event to everybody who still listens; the others are dropped. -/
def send (feed : Feed) (event : LogEvent) : Feed where
  issued := feed.issued
  subscribers := (feed.subscribers.filter (·.connected)).map fun s =>
    { s with queue := s.queue ++ [event] }
  serial_lt := by
    intro s hs
    obtain ⟨s', hs', rfl⟩ := List.mem_map.1 hs
    exact feed.serial_lt s' (List.mem_filter.1 hs').1

/-- Makes a new subscription, with the next serial number. -/
def join (feed : Feed) : Feed where
  issued := feed.issued + 1
  subscribers := feed.subscribers ++ [⟨feed.issued, true, []⟩]
  serial_lt := by
    intro s hs
    rcases List.mem_append.1 hs with hs | hs
    · have := feed.serial_lt s hs
      omega
    · simp [List.mem_singleton.1 hs]

/-- Changes one subscription.  Its serial number stays. -/
def update (feed : Feed) (serial : Nat) (f : Subscriber → Subscriber) : Feed where
  issued := feed.issued
  subscribers := feed.subscribers.map fun s =>
    if s.serial = serial then { f s with serial } else s
  serial_lt := by
    intro s hs
    obtain ⟨s', hs', rfl⟩ := List.mem_map.1 hs
    have := feed.serial_lt s' hs'
    split <;> simp_all

/-- The subscription with a serial number. -/
def find? (feed : Feed) (serial : Nat) : Option Subscriber :=
  feed.subscribers.find? (·.serial = serial)

end Feed

/-- The receiving end of a subscription. -/
structure Receiver where
  session : Text
  serial : Nat
  deriving DecidableEq, Repr, Inhabited

/-- The end of an output log, from an offset on. -/
structure LogTail where
  offset : Nat
  data : List UInt8
  deriving DecidableEq, Repr, Inhabited

/-- Everything a backend holds, with journals of the calls it received.  A snapshot is worked out
when it is first read: of those saved one after the other only the last has to be. -/
structure Backend where
  logs : Table Text OutputLog := {}
  feeds : Table Text Feed := {}
  snapshots : Table (Text × Text) (Thunk Snapshot) := {}
  ids : Table Text ObjectRef := {}
  failing : List Operation := []
  fetches : Journal (Text × Nat) := {}
  /-- What the shell was sent. -/
  inputs : Journal (Text × List UInt8) := {}
  /-- What it was to be sent, also where that failed. -/
  inputAttempts : Journal (Text × List UInt8) := {}
  sizes : Journal (Text × Size) := {}
  /-- What controllers were brought up to date with. -/
  resyncs : Journal (Text × Size) := {}
  /-- What they were to be brought up to date with, also where that failed. -/
  resyncAttempts : Journal (Text × Size) := {}
  patches : Journal (ObjectRef × Json.Object) := {}
  saveAttempts : Nat := 0
  deriving Inhabited

namespace Backend

/-! ### Subscriptions -/

/-- The subscriptions to a session's log. -/
def feed (b : Backend) (session : Text) : Feed := (b.feeds.find? session).getD {}

/-- Sends an event to everybody who still listens to a session's log. -/
def broadcast (b : Backend) (session : Text) (event : LogEvent) : Backend :=
  { b with feeds := b.feeds.set session ((b.feed session).send event) }

/-- A new subscription. -/
def subscribe (b : Backend) (session : Text) : Receiver × Backend :=
  let feed := b.feed session
  (⟨session, feed.issued⟩, { b with feeds := b.feeds.set session feed.join })

/-- Changes the subscription of a receiver. -/
def updateSubscriber (b : Backend) (r : Receiver) (f : Subscriber → Subscriber) : Backend :=
  { b with feeds := b.feeds.set r.session ((b.feed r.session).update r.serial f) }

/-- The events that wait for a receiver. -/
def waiting (b : Backend) (r : Receiver) : List LogEvent :=
  match (b.feed r.session).find? r.serial with
  | some s => s.queue
  | none => []

/-- The next event of a receiver. -/
def receive (b : Backend) (r : Receiver) : Option LogEvent × Backend :=
  ((b.waiting r).head?, b.updateSubscriber r fun s => { s with queue := s.queue.drop 1 })

/-- Every event that waits for a receiver, oldest first. -/
def receiveAll (b : Backend) (r : Receiver) : List LogEvent × Backend :=
  (b.waiting r, b.updateSubscriber r fun s => { s with queue := [] })

/-- Stops listening.  The subscription goes at the next event. -/
def unsubscribe (b : Backend) (r : Receiver) : Backend :=
  b.updateSubscriber r fun s => { s with connected := false, queue := [] }

/-- How many subscriptions a session's log has. -/
def subscriberCount (b : Backend) (session : Text) : Nat := (b.feed session).subscribers.length

/-! ### Logs, snapshots and ids -/

/-- A session's log; empty if it was never written. -/
def log (b : Backend) (session : Text) : OutputLog := (b.logs.find? session).getD .empty

/-- Adds output to a log without telling anybody. -/
def appendSilently (b : Backend) (session : Text) (data : List UInt8) : Backend :=
  { b with logs := b.logs.set session ((b.log session).append data) }

/-- Adds output to a log and tells the subscribers. -/
def append (b : Backend) (session : Text) (data : List UInt8) : Backend :=
  (b.appendSilently session data).broadcast session (.append (b.log session).size data)

/-- Empties a log and tells the subscribers. -/
def truncate (b : Backend) (session : Text) : Backend :=
  { b with logs := b.logs.set session .empty }.broadcast session (.truncate 0)

/-- The stored snapshot of a kind. -/
def snapshot? (b : Backend) (session kind : Text) : Option Snapshot :=
  (b.snapshots.find? (session, kind)).map Thunk.get

/-- Stores a snapshot. -/
def storeSnapshot (b : Backend) (session kind : Text) (s : Thunk Snapshot) : Backend :=
  { b with snapshots := b.snapshots.set (session, kind) s }

/-- Storing a snapshot changes what is stored for its session and kind, and nothing else. -/
theorem snapshot?_storeSnapshot (b : Backend) (session kind session' kind' : Text)
    (s : Thunk Snapshot) :
    (b.storeSnapshot session kind s).snapshot? session' kind' =
      if (session, kind) = (session', kind') then some s.get else b.snapshot? session' kind' := by
  unfold snapshot? storeSnapshot
  rw [Table.find?_set]
  split <;> rfl

/-- Lets an opaque id stand for an object. -/
def registerId (b : Backend) (id : Text) (ref : ObjectRef) : Backend :=
  { b with ids := b.ids.set id ref }

/-- Everything sent to the shell of a session. -/
def sentInput (b : Backend) (session : Text) : List UInt8 :=
  (b.inputs.toList.filter fun i => i.1 = session).flatMap Prod.snd

/-! ### Failures -/

/-- Makes an operation fail from now on. -/
def fail (b : Backend) (op : Operation) : Backend := { b with failing := op :: b.failing }

/-- Lets an operation succeed again. -/
def recover (b : Backend) (op : Operation) : Backend :=
  { b with failing := b.failing.filter (· ≠ op) }

/-- Is the operation made to fail? -/
def fails (b : Backend) (op : Operation) : Bool := b.failing.contains op

/-- The error of an operation that is made to fail. -/
def injected (op : Operation) : BackendError :=
  .io ("injected failure: ".toList ++ op.name.toList)

/-! ### The calls of a session -/

/-- The end of a file from an offset on; `none` if there is no log yet.  Only the output log is a
file.  An offset beyond the end counts as the end. -/
def fetchFile (b : Backend) (session name : Text) (offset : Nat) :
    Except BackendError (Option LogTail) × Backend :=
  let result :=
    if b.fails .fetchFile then .error (injected .fetchFile)
    else if name ≠ "term".toList then .error (.notFound name)
    else .ok ((b.logs.find? session).map fun log =>
      ⟨min offset log.size, log.since (min offset log.size)⟩)
  (result, { b with fetches := b.fetches.add (session, offset) })

/-- The end of a session's output log. -/
def fetchLog (b : Backend) (session : Text) (offset : Nat) :
    Except BackendError (Option LogTail) × Backend :=
  b.fetchFile session "term".toList offset

/-- The stored snapshot of a kind. -/
def fetchSnapshot (b : Backend) (session kind : Text) : Except BackendError (Option Snapshot) :=
  if b.fails .fetchCache then .error (injected .fetchCache) else .ok (b.snapshot? session kind)

/-- Stores a snapshot; every attempt counts. -/
def saveSnapshot (b : Backend) (session kind : Text) (s : Thunk Snapshot) :
    Except BackendError Unit × Backend :=
  let b := { b with saveAttempts := b.saveAttempts + 1 }
  if b.fails .saveCache then (.error (injected .saveCache), b)
  else (.ok (), b.storeSnapshot session kind s)

/-- Sends bytes to the shell; every attempt counts. -/
def sendInput (b : Backend) (session : Text) (data : List UInt8) :
    Except BackendError Unit × Backend :=
  let b := { b with inputAttempts := b.inputAttempts.add (session, data) }
  if b.fails .sendInput then (.error (injected .sendInput), b)
  else (.ok (), { b with inputs := b.inputs.add (session, data) })

/-- Hears of a session's size. -/
def setSize (b : Backend) (session : Text) (size : Size) : Backend :=
  { b with sizes := b.sizes.add (session, size) }

/-- Brings a session's controller up to date with a size; every attempt counts. -/
def resync (b : Backend) (session : Text) (size : Size) : Except BackendError Unit × Backend :=
  let b := { b with resyncAttempts := b.resyncAttempts.add (session, size) }
  if b.fails .resync then (.error (injected .resync), b)
  else (.ok (), { b with resyncs := b.resyncs.add (session, size) })

/-- The objects that opaque ids stand for; unknown ids are left out. -/
def resolveIds (b : Backend) (ids : List Text) :
    Except BackendError (List (Text × ObjectRef)) :=
  if b.fails .resolveIds then .error (injected .resolveIds)
  else .ok (ids.filterMap fun id => (b.ids.find? id).map (id, ·))

/-- Merges a patch into an object's metadata. -/
def updateMeta (b : Backend) (ref : ObjectRef) (patch : Json.Object) :
    Except BackendError Unit × Backend :=
  if b.fails .updateMeta then (.error (injected .updateMeta), b)
  else (.ok (), { b with patches := b.patches.add (ref, patch) })

end Backend

end TermSession
