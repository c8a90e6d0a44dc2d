import TermSession.Proofs.Session.Chunks
import TermSession.Proofs.Session.Displays

/-!
# What sessions and backends tell each other

Between two notifications that a session takes, its backend changes and the session makes calls that
have nothing to do with them.

* `MetaEffect.entries`: the entries that commands make in the journal of a backend;
  `Backend.Resolves.dispatch` says that they do;
* `BackendChange.IsOrderly`, `Backend.arrivals`: changes without restarts and failures, and the
  chunks that they notify a session of; `Delivers.undergo`: these chunks wait for it;
* `Backend.Undisturbed`, `Session.SamePlace`: what a call leaves as it is that is about something
  else; `Session.undisturbed_perform`, `Session.samePlace_perform`.
-/

namespace TermSession

/-! ### Effects -/

namespace MetaEffect

/-- The entry that an effect makes; `ref` says what opaque ids stand for. -/
def record? (session : Text) (ref : Text → Option ObjectRef) (e : MetaEffect) :
    Option (ObjectRef × Json.Object) :=
  match e.target with
  | .session => some (.block session, e.patch)
  | .registered id => (ref id).map (·, e.patch)

/-- The entries that commands make, in order. -/
def entries (session : Text) (ref : Text → Option ObjectRef) (commands : List OscCommand) :
    List (ObjectRef × Json.Object) :=
  commands.filterMap fun c => (ofCommand? c).bind (record? session ref)

theorem entries_append (session : Text) (ref : Text → Option ObjectRef)
    (commands commands' : List OscCommand) :
    entries session ref (commands ++ commands') =
      entries session ref commands ++ entries session ref commands' :=
  List.filterMap_append

/-- If a command has an effect, its target stands for an object. -/
def Resolved (session : Text) (ref : Text → Option ObjectRef) (c : OscCommand) : Prop :=
  ∀ e ∈ ofCommand? c, (e.record? session ref).isSome

instance (session : Text) (ref : Text → Option ObjectRef) (c : OscCommand) :
    Decidable (Resolved session ref c) :=
  inferInstanceAs (Decidable (∀ e ∈ ofCommand? c, (e.record? session ref).isSome))

end MetaEffect

namespace Backend

/-- No call fails, and ids stand for what `ref` says. -/
structure Resolves (b : Backend) (ref : Text → Option ObjectRef) : Prop where
  healthy : b.failing = []
  known : ∀ id, ∀ o ∈ ref id, b.ids.find? id = some o

variable {b b' : Backend} {ref : Text → Option ObjectRef} {session : Text}

theorem Resolves.congr (hb : b.Resolves ref) (hids : b'.ids = b.ids)
    (hfailing : b'.failing = b.failing) : b'.Resolves ref where
  healthy := hfailing.trans hb.healthy
  known := by
    rw [hids]
    exact hb.known

theorem Resolves.updateMeta (hb : b.Resolves ref) (o : ObjectRef) (patch : Json.Object) :
    (b.updateMeta o patch).2.patches.toList = b.patches.toList ++ [(o, patch)] := by
  simp [Backend.updateMeta, fails, hb.healthy]

/-- An effect whose id stands for an object makes its entry. -/
theorem Resolves.apply (hb : b.Resolves ref) {e : MetaEffect}
    (he : (e.record? session ref).isSome) :
    (b.apply session e).patches.toList = b.patches.toList ++ (e.record? session ref).toList := by
  obtain ⟨target, patch⟩ := e
  cases target with
  | session => exact hb.updateMeta (.block session) patch
  | registered id =>
    obtain ⟨o, ho⟩ : ∃ o, ref id = some o := by
      simpa [MetaEffect.record?, Option.isSome_iff_exists] using he
    have htarget : b.target? session (.registered id) = some o := by
      simp [target?, resolveIds, fails, hb.healthy, hb.known id o ho]
    simp only [Backend.apply, htarget, hb.updateMeta, MetaEffect.record?, ho]
    rfl

/-- Commands whose ids stand for objects make their entries, in order. -/
theorem Resolves.dispatch (hb : b.Resolves ref) {commands : List OscCommand}
    (hc : ∀ c ∈ commands, MetaEffect.Resolved session ref c) :
    (b.dispatch session commands true).2.patches.toList =
      b.patches.toList ++ MetaEffect.entries session ref commands := by
  induction commands generalizing b with
  | nil => simp [Backend.dispatch, MetaEffect.entries]
  | cons c commands ih =>
    have hrest := fun c' h => hc c' (List.mem_cons_of_mem _ h)
    cases he : MetaEffect.ofCommand? c with
    | none =>
      -- A command without an effect makes no entry.
      have hskip : (b.dispatch session (c :: commands) true).2 =
          (b.dispatch session commands true).2 := by
        simp [Backend.dispatch, MetaEffect.route?, he]
      rw [hskip, ih hb hrest]
      simp [MetaEffect.entries, he]
    | some e =>
      have hfirst : (b.dispatch session (c :: commands) true).2 =
          ((b.apply session e).dispatch session commands true).2 := by
        simp [Backend.dispatch, MetaEffect.route?, he]
      have hkeeps : b.Keeps (b.apply session e) := by
        unfold Backend.apply
        split
        · exact keeps_updateMeta _ _ _
        · exact .refl b
      rw [hfirst, ih (hb.congr hkeeps.ids hkeeps.failing) hrest, hb.apply (hc c List.mem_cons_self e he)]
      cases hrecord : e.record? session ref <;> simp [MetaEffect.entries, he, hrecord]

end Backend

/-! ### Changes of a backend -/

namespace BackendChange

/-- The change neither restarts the log of a session, nor makes a call fail, nor has an id stand for
another object than `ref` says. -/
def IsOrderly (session : Text) (ref : Text → Option ObjectRef) : BackendChange → Prop
  | .truncate session' => session' ≠ session
  | .notify session' (.truncate _) => session' ≠ session
  | .registerId id o => ∀ o' ∈ ref id, o = o'
  | .fail _ => False
  | _ => True

instance decidableIsOrderly (session : Text) (ref : Text → Option ObjectRef) :
    (change : BackendChange) → Decidable (change.IsOrderly session ref)
  | .truncate session' => inferInstanceAs (Decidable (session' ≠ session))
  | .notify session' (.truncate _) => inferInstanceAs (Decidable (session' ≠ session))
  | .registerId id o => inferInstanceAs (Decidable (∀ o' ∈ ref id, o = o'))
  | .fail _ => isFalse (fun h => h)
  | .append _ _ | .appendSilently _ _ | .notify _ (.append _ _) | .storeSnapshot _ _ _
  | .recover _ => isTrue trivial

/-- The chunk that a change notifies the listeners of a session of. -/
def arrival? (b : Backend) (session : Text) : BackendChange → Option Chunk
  | .append session' data =>
    if session' = session then some ⟨(b.log session).size, data⟩ else none
  | .notify session' (.append offset data) =>
    if session' = session then some ⟨offset, data⟩ else none
  | _ => none

/-- The event that a change notifies the listeners of a session of. -/
def event? (b : Backend) (session : Text) : BackendChange → Option LogEvent
  | .append session' data =>
    if session' = session then some (.append (b.log session).size data) else none
  | .truncate session' => if session' = session then some (.truncate 0) else none
  | .notify session' event => if session' = session then some event else none
  | _ => none

/-- An orderly change notifies of chunks only. -/
theorem event?_eq_map (b : Backend) {session : Text} {ref : Text → Option ObjectRef}
    {change : BackendChange} (hc : change.IsOrderly session ref) :
    change.event? b session = (change.arrival? b session).map Chunk.event := by
  cases change with
  | append session' data =>
    simp only [event?, arrival?]
    split <;> rfl
  | truncate session' => exact if_neg hc
  | notify session' event =>
    cases event with
    | append offset data =>
      simp only [event?, arrival?]
      split <;> rfl
    | truncate offset => exact if_neg hc
  | _ => rfl

/-- Whatever the change does to the log of a session, its listeners are notified, and the log is not
restarted. -/
def IsNotified (session : Text) : BackendChange → Prop
  | .truncate session' | .appendSilently session' _ | .notify session' _ => session' ≠ session
  | _ => True

instance decidableIsNotified (session : Text) :
    (change : BackendChange) → Decidable (change.IsNotified session)
  | .truncate session' | .appendSilently session' _ | .notify session' _ =>
    inferInstanceAs (Decidable (session' ≠ session))
  | .append _ _ | .storeSnapshot _ _ _ | .registerId _ _ | .fail _ | .recover _ => isTrue trivial

end BackendChange

namespace Backend

variable {b b' : Backend} {ref : Text → Option ObjectRef} {session : Text} {receiver : Receiver}
  {change : BackendChange}

/-- The chunks that changes notify the listeners of a session of, in order. -/
def arrivals (b : Backend) (session : Text) : List BackendChange → List Chunk
  | [] => []
  | change :: changes =>
    (change.arrival? b session).toList ++ (b.undergo change).arrivals session changes

theorem Delivers.broadcast_of_ne {queue : List LogEvent} {session' : Text}
    (h : b.Delivers receiver queue) (hs : session' ≠ receiver.session) (event : LogEvent) :
    (b.broadcast session' event).Delivers receiver queue := by
  unfold Delivers
  rw [Backend.broadcast, feed_set_of_ne hs]
  exact h

/-- What a change brings waits with the rest. -/
theorem Delivers.undergo_event {queue : List LogEvent} (h : b.Delivers receiver queue)
    (change : BackendChange) :
    (b.undergo change).Delivers receiver
      (queue ++ (change.event? b receiver.session).toList) := by
  -- What is about another session, or about no log, leaves the queue as it is.
  have hsame (hnone : change.event? b receiver.session = none)
      (hb : (b.undergo change).Delivers receiver queue) :
      (b.undergo change).Delivers receiver
        (queue ++ (change.event? b receiver.session).toList) := by
    simpa [hnone] using hb
  cases change with
  | append session data =>
    by_cases hs : session = receiver.session
    · subst hs
      simpa [BackendChange.event?, undergo] using h.append data
    · refine hsame (if_neg hs) ?_
      exact Delivers.broadcast_of_ne (b := b.appendSilently session data) h hs _
  | truncate session =>
    by_cases hs : session = receiver.session
    · subst hs
      simpa [BackendChange.event?, undergo] using h.truncate
    · refine hsame (if_neg hs) ?_
      exact Delivers.broadcast_of_ne (b := { b with logs := b.logs.set session .empty }) h hs _
  | notify session event =>
    by_cases hs : session = receiver.session
    · subst hs
      simpa [BackendChange.event?, undergo] using h.broadcast event
    · exact hsame (if_neg hs) (h.broadcast_of_ne hs event)
  | appendSilently | storeSnapshot | registerId | fail | recover => exact hsame rfl h

/-- What an orderly change brings waits with the rest. -/
theorem Delivers.undergo {waiting : List Chunk}
    (h : b.Delivers receiver (waiting.map Chunk.event))
    (hc : change.IsOrderly receiver.session ref) :
    (b.undergo change).Delivers receiver
      ((waiting ++ (change.arrival? b receiver.session).toList).map Chunk.event) := by
  have hevent := h.undergo_event change
  rw [BackendChange.event?_eq_map b hc] at hevent
  rw [List.map_append]
  cases hchunk : change.arrival? b receiver.session <;> simpa [hchunk] using hevent

theorem Resolves.undergo (hb : b.Resolves ref) (hc : change.IsOrderly session ref) :
    (b.undergo change).Resolves ref := by
  cases change with
  | registerId id o =>
    refine ⟨hb.healthy, fun id' o' ho => ?_⟩
    simp only [Backend.undergo, registerId, Table.find?_set]
    split
    · rename_i hid
      rw [hc o' (hid ▸ ho)]
    · exact hb.known id' o' ho
  | fail => exact hc.elim
  | recover op => exact ⟨by simp [Backend.undergo, recover, hb.healthy], hb.known⟩
  | _ => exact ⟨hb.healthy, hb.known⟩

theorem undergo_patches (b : Backend) (change : BackendChange) :
    (b.undergo change).patches = b.patches := by
  cases change <;> rfl

/-- Orderly changes only add to the log. -/
theorem log_prefix_undergo (hc : change.IsOrderly session ref) :
    (b.log session).toList <+: ((b.undergo change).log session).toList := by
  have hadd (session' : Text) (data : List UInt8) :
      (b.log session).toList <+: ((b.appendSilently session' data).log session).toList := by
    simp only [appendSilently, Backend.log, Table.find?_set]
    split
    · rename_i hs
      subst hs
      simp
    · exact List.prefix_refl _
  cases change with
  | append session' data => exact hadd session' data
  | appendSilently session' data => exact hadd session' data
  | truncate session' =>
    have hc : session' ≠ session := hc
    simp [undergo, Backend.truncate, broadcast, Backend.log, Table.find?_set, hc]
  | _ => exact List.prefix_refl _

/-- Nothing has changed that has to do with notifications, ids or patches. -/
structure Undisturbed (b b' : Backend) : Prop where
  logs : b'.logs = b.logs
  feeds : b'.feeds = b.feeds
  ids : b'.ids = b.ids
  failing : b'.failing = b.failing
  patches : b'.patches = b.patches

namespace Undisturbed

theorem refl (b : Backend) : b.Undisturbed b := ⟨rfl, rfl, rfl, rfl, rfl⟩

theorem trans {a b c : Backend} (h : a.Undisturbed b) (h' : b.Undisturbed c) : a.Undisturbed c :=
  ⟨h'.logs.trans h.logs, h'.feeds.trans h.feeds, h'.ids.trans h.ids, h'.failing.trans h.failing,
    h'.patches.trans h.patches⟩

end Undisturbed

theorem undisturbed_sendInput (b : Backend) (session : Text) (data : List UInt8) :
    b.Undisturbed (b.sendInput session data).2 := by
  unfold sendInput
  dsimp only
  split <;> exact ⟨rfl, rfl, rfl, rfl, rfl⟩

theorem settled_undisturbed (b : Backend) : Settled b.Undisturbed where
  saveSnapshot b' session kind s h := h.trans <| by
    unfold saveSnapshot
    dsimp only
    split <;> exact ⟨rfl, rfl, rfl, rfl, rfl⟩
  setSize b' session size h := h.trans ⟨rfl, rfl, rfl, rfl, rfl⟩
  resync b' session size h := h.trans <| by
    unfold resync
    dsimp only
    split <;> exact ⟨rfl, rfl, rfl, rfl, rfl⟩

/-- What listeners are notified of depends on nothing but the logs. -/
theorem logs_undergo (h : b'.logs = b.logs) (change : BackendChange) :
    (b'.undergo change).logs = (b.undergo change).logs := by
  cases change <;>
    simp [undergo, append, truncate, broadcast, appendSilently, storeSnapshot, registerId, fail,
      recover, Backend.log, h]

theorem arrivals_congr (h : b'.logs = b.logs) (changes : List BackendChange) :
    b'.arrivals session changes = b.arrivals session changes := by
  induction changes generalizing b b' with
  | nil => rfl
  | cons change changes ih =>
    have harrival : change.arrival? b' session = change.arrival? b session := by
      cases change <;> simp [BackendChange.arrival?, Backend.log, h]
    rw [arrivals, arrivals, harrival, ih (logs_undergo h change)]

end Backend

/-! ### One call -/

namespace Session

/-- Nothing has changed that has to do with what the session has read. -/
structure SamePlace (s s' : Session) : Prop where
  id_eq : s'.id = s.id
  settings_eq : s'.timer.settings = s.timer.settings
  receiver_eq : s'.receiver = s.receiver
  disposed_eq : s'.disposed = s.disposed
  output_eq : s'.output.resetSinceSnapshot = s.output.resetSinceSnapshot
  decoder_eq : s'.surface.map Surface.decoder = s.surface.map Surface.decoder

namespace SamePlace

variable {s s' : Session}

theorem position_eq (h : s.SamePlace s') : s'.output.position = s.output.position :=
  (congrArg OutputStream.position h.output_eq :)

theorem loaded_eq (h : s.SamePlace s') : s'.output.loaded = s.output.loaded :=
  (congrArg OutputStream.loaded h.output_eq :)

theorem held_eq (h : s.SamePlace s') : s'.output.held = s.output.held :=
  (congrArg OutputStream.held h.output_eq :)

theorem snapshotStale_eq (h : s.SamePlace s') : s'.output.snapshotStale = s.output.snapshotStale :=
  (congrArg OutputStream.snapshotStale h.output_eq :)

end SamePlace

/-- A call that leaves notifications and history alone does not move the session. -/
theorem samePlace_perform (s : Session) (b : Backend) {c : SessionCall} (hc : c.isAside = true) :
    s.SamePlace (s.perform b c).1 := by
  have h := resized_perform s b hc
  refine ⟨h.id_eq, h.settings_eq, h.receiver_eq, h.disposed_eq, h.output_eq, ?_⟩
  obtain ⟨sizes, hsizes⟩ := h.surface_eq
  -- Resizing does nothing to the decoder.
  have hdecoder (surface : Surface) :
      (sizes.foldl Display.resize surface).decoder = surface.decoder := by
    clear hsizes
    induction sizes generalizing surface with
    | nil => rfl
    | cons size sizes ih => exact ih _
  rw [hsizes, Option.map_map]
  exact congrFun (congrArg Option.map (funext hdecoder)) s.surface

theorem undisturbed_perform {σ : Type} [Display σ] (s : Session σ) (b : Backend) {c : SessionCall}
    (hc : c.isAside = true) : b.Undisturbed (s.perform b c).2 :=
  perform_settled (fun _ session data h => h.trans (Backend.undisturbed_sendInput _ session data))
    b.settled_undisturbed s hc (.refl b)

end Session

end TermSession
