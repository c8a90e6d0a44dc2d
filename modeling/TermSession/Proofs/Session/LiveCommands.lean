import TermSession.Proofs.Session.Reading

/-!
# Commands take effect once, and only live

A session applies the commands of output that it is told of, and none of the history that it loads:
those had their effect when they were new.  However the log is cut into notifications, which may
come before or after loading, overlap the history and come twice, each command that ends beyond the
history takes effect exactly once, in order.

* `LoadingRun`: a run with a load in it; `LoadingRun.history`: what the session reads;
* `LoadingRun.IsLossless`: nothing is lost on the way;
* `LoadingRun.live_commands`: the effects are those of the live commands.
-/

namespace TermSession

/-- A run of a session that loads in it: events before, the load, and events after. -/
structure LoadingRun where
  before : List HostEvent
  now : Nat
  meanwhile : List BackendChange
  after : List HostEvent
  deriving Repr, Inhabited

namespace LoadingRun

variable (w : LoadingRun) (h : Host)

/-- Everything that happens. -/
def events : List HostEvent := w.before ++ .call (.load w.now w.meanwhile) :: w.after

/-- When the load begins. -/
def loading : Host := h.advanceAll w.before

/-- The backend as it is when the history is read. -/
def found : Backend := ((w.loading h).perform .processEvents).backend.undergoAll w.meanwhile

/-- When the load is over. -/
def loaded : Host := (w.loading h).perform (.load w.now w.meanwhile)

/-- At the end. -/
def final : Host := (w.loaded h).advanceAll w.after

/-- What the session is notified of. -/
def arrivals : List Chunk := h.arrivals h.session.id w.events

/-- What the session reads: the snapshot that it starts from, the log as it is in the end, and how
much of that is history. -/
def history (size : Size) : History :=
  (w.found h).history h.session.id h.session.timer.settings.kind size (w.final h).log

/-- The log is never restarted and no call fails; the notifications are pieces of the log and leave
no gap beyond the history; the snapshot lies within the history; and the ids of live commands stand
for objects. -/
structure IsLossless (ref : Text → Option ObjectRef) (y : History) : Prop where
  unloaded : ∀ e ∈ w.before, e.isLoad = false
  orderly : ∀ e ∈ w.events, ∀ change ∈ e.changes, change.IsOrderly h.session.id ref
  pieces : ∀ c ∈ w.arrivals h, c.IsPieceOf y.log
  gapless : Gapless y.tail (w.arrivals h)
  start_le : y.start ≤ y.tail
  resolved : ∀ c ∈ y.completions, y.tail ≤ c.1 → MetaEffect.Resolved h.session.id ref c.2

variable {w h}

theorem arrivals_eq : w.arrivals h = h.arrivals h.session.id w.before ++
    ((w.loading h).backend.arrivals h.session.id w.meanwhile ++
      (w.loaded h).arrivals h.session.id w.after) := by
  rw [arrivals, events, Host.arrivals_append]
  rfl

/-- A session that is live when it loads reads the history and goes on from there. -/
theorem reads_loaded {id kind : Text} {ref : Text → Option ObjectRef} {receiver : Receiver}
    {held waiting : List Chunk} {made : List (ObjectRef × Json.Object)} {size : Size} {y : History}
    (hid : h.session.id = id) (a : Host.Awaits id kind ref receiver (w.loading h) held waiting made)
    (hheld : held ++ waiting = h.arrivals id w.before)
    (hy : (w.found h).history id kind size y.log = y) (hw : w.IsLossless h ref y)
    (hlog : ((w.found h).log id).toList <+: y.log)
    (hresolved : ∀ c ∈ y.commandsUpTo y.log.length, MetaEffect.Resolved id ref c) :
    Host.Reads id kind ref receiver y made (w.loaded h)
        ((w.loading h).backend.arrivals id w.meanwhile) ∧
      (w.loaded h).session.output.position = reach y.tail (h.arrivals id w.before) := by
  subst hid
  have hpieces := hw.pieces
  have hgap := hw.gapless
  rw [arrivals_eq] at hpieces hgap
  have horderly : ∀ change ∈ w.meanwhile, change.IsOrderly h.session.id ref :=
    hw.orderly (.call (.load w.now w.meanwhile)) (List.mem_append_right _ List.mem_cons_self)
  have a₁ := a.processEvents
  have l := a₁.toListens.undergoAll w.meanwhile horderly
  rw [List.nil_append, Backend.arrivals_congr (Host.logs_processEvents _)] at l
  obtain ⟨d, hposition⟩ := Host.Awaits.loadHistory
    { l with
      unloaded := a₁.unloaded
      position_eq := a₁.position_eq
      fresh := a₁.fresh
      held_eq := a₁.held_eq
      decoder_eq := a₁.decoder_eq } w.now size hlog hy hw.start_le
    (fun c hc => hpieces c (List.mem_append_left _ (hheld ▸ hc)))
    (hheld ▸ (gapless_append.1 hgap).1) hresolved
  have hloaded : w.loaded h = _ := Host.perform_load a.live w.now w.meanwhile
  rw [hloaded]
  exact ⟨d, hheld ▸ hposition⟩

/-- The entries of the live commands that end before a position. -/
def liveEntries (id : Text) (ref : Text → Option ObjectRef) (y : History) (position : Nat) :
    List (ObjectRef × Json.Object) :=
  MetaEffect.entries id ref
    ((y.completions.filter fun c => y.tail ≤ c.1 ∧ c.1 < position).map Prod.snd)

theorem liveEntries_eq {id : Text} {ref : Text → Option ObjectRef} {y : History} {position : Nat}
    (hstart : y.start ≤ y.tail) (htail : y.tail ≤ position) (hlog : position ≤ y.log.length) :
    liveEntries id ref y position = MetaEffect.entries id ref (y.commandsUpTo position) := by
  rw [History.commandsUpTo_eq hstart htail hlog, liveEntries]

/-- Before anything is read no command is live. -/
theorem liveEntries_zero (id : Text) (ref : Text → Option ObjectRef) (y : History) :
    liveEntries id ref y 0 = [] := by
  simp [liveEntries, MetaEffect.entries]

/-- What the history is read from, the log still holds in the end. -/
theorem found_prefix {id : Text} {ref : Text → Option ObjectRef}
    (hid : (w.final h).session.id = id) (hlive : (w.loading h).session.disposed = false)
    (hafter : ∀ e ∈ w.after, ∀ change ∈ e.changes, change.IsOrderly id ref) :
    ((w.found h).log id).toList <+: (w.final h).log := by
  have hlogs : (w.loaded h).backend.logs = (w.found h).logs := by
    rw [loaded, Host.perform_load hlive]
    exact Session.loadHistory_stable (Backend.stable_logs (· = (w.found h).logs)) _ _ rfl
  have hloaded : ((w.loaded h).backend.log id).toList = ((w.found h).log id).toList := by
    rw [Backend.log, hlogs]
    rfl
  rw [Host.log, hid, ← hloaded]
  exact (w.loaded h).log_prefix_advanceAll hafter

variable {id kind : Text} {ref : Text → Option ObjectRef} {receiver : Receiver}
  {made : List (ObjectRef × Json.Object)} {size : Size} {y : History}

theorem IsLossless.resolved_commandsUpTo (hw : w.IsLossless h ref y)
    (htail : y.tail ≤ y.log.length) :
    ∀ c ∈ y.commandsUpTo y.log.length, MetaEffect.Resolved h.session.id ref c := by
  rw [History.commandsUpTo_eq hw.start_le htail (Nat.le_refl _)]
  intro c hc
  obtain ⟨e, he, rfl⟩ := List.mem_map.1 hc
  obtain ⟨he, hlive⟩ := List.mem_filter.1 he
  exact hw.resolved e he (of_decide_eq_true hlive).1

/-- A session that reads on after loading: at the end every live command up to its position has made
its entry, and if it was not disposed of, it has read all that it was notified of. -/
theorem patches_of_reads (hid : h.session.id = id) (hw : w.IsLossless h ref y)
    (d : Host.Reads id kind ref receiver y made (w.loaded h)
      ((w.loading h).backend.arrivals id w.meanwhile))
    (hposition : (w.loaded h).session.output.position = reach y.tail (h.arrivals id w.before))
    (hafter : ∀ e ∈ w.after, ∀ change ∈ e.changes, change.IsOrderly id ref)
    (hresolved : ∀ c ∈ y.commandsUpTo y.log.length, MetaEffect.Resolved id ref c) :
    (w.final h).backend.patches.toList =
      made ++ liveEntries id ref y (w.final h).session.output.position ∧
    ((w.final h).session.disposed = false → (w.final h).waiting = [] →
      (w.final h).session.output.position = reach y.tail (w.arrivals h) ∧
        (w.final h).session.output.position ≤ y.log.length) := by
  subst hid
  have hpieces := hw.pieces
  have hgap := hw.gapless
  rw [arrivals_eq] at hpieces hgap
  have hrest := (gapless_append.1 hgap).2
  rw [← hposition] at hrest
  rcases d.advanceAll hafter (fun c hc => hpieces c (List.mem_append_right _ hc)) hrest hresolved
    with ⟨waiting, d', hreach⟩ | ⟨p, hp, hp', z⟩
  · obtain ⟨surface, -, hread⟩ := d'.hasRead
    constructor
    · rw [final, liveEntries_eq d'.start_le d'.tail_le hread.le_length]
      exact d'.patches
    · intro _ hwaiting
      have hnone : waiting = [] := by
        have hdelivered := d'.delivers.waiting
        rw [Host.waiting, final, d'.receiver_eq] at hwaiting
        exact List.map_eq_nil_iff.1 (hdelivered.symm.trans hwaiting)
      rw [hnone, reach_nil, hposition, ← reach_append, ← arrivals_eq] at hreach
      exact ⟨hreach, hread.le_length⟩
  · -- The session was disposed of on the way.
    have hfinal : (w.final h).session.output.position = p := z.position_eq
    constructor
    · rw [hfinal, liveEntries_eq d.start_le hp hp']
      exact z.patches
    · intro hlive
      rw [show (w.final h).session.disposed = true from z.disposed] at hlive
      cases hlive

/-- At the end every live command up to the session's position has made its entry; a session that
was disposed of before it loaded has the position 0. -/
theorem patches_final (a₀ : Host.Awaits id kind ref receiver h [] [] made)
    (hy : w.history h size = y) (hw : w.IsLossless h ref y) :
    (w.loading h).backend.patches.toList = made ∧
    (w.final h).backend.patches.toList =
      made ++ liveEntries id ref y (w.final h).session.output.position ∧
    ((w.final h).session.disposed = false → (w.final h).waiting = [] →
      (w.final h).session.output.position = reach y.tail (w.arrivals h) ∧
        (w.final h).session.output.position ≤ y.log.length) := by
  obtain rfl := a₀.id_eq
  obtain rfl := a₀.kind_eq
  have hid : (w.final h).session.id = h.session.id := by
    have hloaded := Host.advanceAll_fixed h (w.before ++ [.call (.load w.now w.meanwhile)])
    rw [Host.advanceAll_append] at hloaded
    exact (Host.advanceAll_fixed _ w.after).1.trans hloaded.1
  have hbefore : ∀ e ∈ w.before, ∀ change ∈ e.changes, change.IsOrderly h.session.id ref :=
    fun e he => hw.orderly e (List.mem_append_left _ he)
  have hafter : ∀ e ∈ w.after, ∀ change ∈ e.changes, change.IsOrderly h.session.id ref :=
    fun e he => hw.orderly e (List.mem_append_right _ (List.mem_cons_of_mem _ he))
  rcases a₀.advanceAll hw.unloaded hbefore with ⟨held, waiting, a, hheld⟩ | z
  · have hlog : ((w.found h).log h.session.id).toList <+: y.log := by
      rw [← hy]
      exact found_prefix hid a.live hafter
    have htail : y.tail ≤ y.log.length := by
      have hlength := hlog.length_le
      rw [OutputLog.length_toList] at hlength
      rwa [← hy] at hlength ⊢
    have hresolved := hw.resolved_commandsUpTo htail
    obtain ⟨d, hposition⟩ := reads_loaded rfl a hheld (by rw [← hy]; rfl) hw hlog hresolved
    exact ⟨a.patches, patches_of_reads rfl hw d hposition hafter hresolved⟩
  · -- The session was disposed of before it loaded.
    have z' := (z.advance (.call (.load w.now w.meanwhile))).advanceAll w.after
    refine ⟨z.patches, ?_, fun hlive => ?_⟩
    · rw [show (w.final h).session.output.position = 0 from z'.position_eq, liveEntries_zero,
        List.append_nil]
      exact z'.patches
    · rw [show (w.final h).session.disposed = true from z'.disposed] at hlive
      cases hlive

/-- Whatever the run, the session makes no entry before it loads, and then exactly those of the
commands that end beyond the history, in order and each once, as far as it has read.  Once it has
read all of the log, these are all the commands that end beyond the history.  The commands are those
that one surface finds in the snapshot and the log. -/
theorem live_commands {b : Backend} {ref : Text → Option ObjectRef} (hb : b.Resolves ref)
    (id : Text) (size : Size) (config : Config) (w : LoadingRun) (size' : Size) :
    let h := Host.start id (Surface.new size) config b
    let y := w.history h size'
    w.IsLossless h ref y →
      y.completions.map Prod.snd = (y.origin.write (y.log.drop y.start)).2 ∧
      (w.loading h).backend.patches.toList = b.patches.toList ∧
      (w.final h).backend.patches.toList =
        b.patches.toList ++ liveEntries id ref y (w.final h).session.output.position ∧
      ((w.final h).session.disposed = false → (w.final h).waiting = [] →
        y.log.length ≤ reach y.tail (w.arrivals h) →
        (w.final h).backend.patches.toList = b.patches.toList ++
          MetaEffect.entries id ref ((y.completions.filter (y.tail ≤ ·.1)).map Prod.snd)) := by
  intro h y hw
  obtain ⟨hloading, hfinal, hcaught⟩ :=
    patches_final (Host.awaits_start hb id size config) (y := y) rfl hw
  refine ⟨Surface.map_snd_completions _ _ _, hloading, hfinal, ?_⟩
  intro hlive hwaiting hall
  obtain ⟨hposition, hlog⟩ := hcaught hlive hwaiting
  have hend : (w.final h).session.output.position = y.log.length :=
    Nat.le_antisymm hlog (hposition ▸ hall)
  have htail : y.tail ≤ y.log.length := by
    rw [← hend, hposition]
    exact le_reach _ _
  rw [hfinal, hend, liveEntries]
  congr 3
  -- Every command ends inside the log.
  refine List.filter_congr fun c hc => ?_
  have hbounds := Surface.bounds_of_mem_completions hc
  rw [List.length_drop] at hbounds
  have hstart := hw.start_le
  simp only [decide_eq_decide, and_iff_left_iff_imp]
  intro _
  omega

/-- One directory is reported in the history and another from the history on into what comes twice
later; only the latter takes effect, once. -/
theorem live_commands_ab :
    let w : LoadingRun :=
      { before := [.backend (.append [] [0x1B, 0x5D, 0x37, 0x3B, 0x2F, 0x61, 0x07, 0x1B, 0x5D])]
        now := 0
        meanwhile := [.append [] [0x37, 0x3B]]
        after := [.backend (.append [] [0x2F, 0x62]), .backend (.appendSilently [] [0x07]),
          .backend (.notify [] (.append 12 [0x62, 0x07])),
          .backend (.notify [] (.append 12 [0x62, 0x07])), .call .processEvents] }
    let h := Host.start [] (Surface.new ⟨1, 8⟩) {} {}
    (w.final h).backend.patches.toList =
      [(.block [], [("cmd:cwd".toList, .str "/b".toList)])] := by
  intro w h
  have hcompletions : (w.history h ⟨1, 8⟩).completions =
      [(6, ⟨7, "/a".toList⟩), (13, ⟨7, "/b".toList⟩)] := by with_unfolding_all decide
  have hw : w.IsLossless h (fun _ => none) (w.history h ⟨1, 8⟩) :=
    { unloaded := by decide
      orderly := by decide
      pieces := by with_unfolding_all decide
      gapless := by decide
      start_le := by decide
      resolved := by
        intro c hc
        rw [hcompletions] at hc
        revert c
        decide }
  have hb : ({} : Backend).Resolves fun _ => none := ⟨rfl, by simp⟩
  obtain ⟨-, -, -, hall⟩ := live_commands hb [] ⟨1, 8⟩ {} w ⟨1, 8⟩ hw
  rw [hall (by decide) (by with_unfolding_all decide) (by with_unfolding_all decide), hcompletions,
    show (w.history h ⟨1, 8⟩).tail = 11 by decide]
  rfl

/-- A snapshot without data counts as none, whatever its offset.  Had the history started at the
offset of such a snapshot, inside a command, the command would not have been found. -/
theorem live_commands_unlike_empty_snapshot :
    let b := (({} : Backend).appendSilently [] [0x1B, 0x5D, 0x37, 0x3B, 0x2F, 0x61]).storeSnapshot
      [] "full".toList (Thunk.pure ⟨[], 3, none⟩)
    let w : LoadingRun :=
      { before := []
        now := 0
        meanwhile := []
        after := [.backend (.append [] [0x62, 0x07]), .call .processEvents] }
    let h := Host.start [] (Surface.new ⟨1, 8⟩) {} b
    let y : History :=
      { origin := ((Surface.new ⟨1, 8⟩).write (Utf8.encode [])).1
        start := 3
        log := (w.final h).log
        tail := ((w.found h).log []).size }
    (w.found h).snapshot? [] "full".toList = some ⟨[], 3, none⟩ ∧
      w.IsLossless h (fun _ => none) y ∧
      (w.final h).session.disposed = false ∧ (w.final h).waiting = [] ∧
      y.log.length ≤ reach y.tail (w.arrivals h) ∧
      (w.final h).backend.patches.toList ≠ b.patches.toList ++
        MetaEffect.entries [] (fun _ => none)
          ((y.completions.filter (y.tail ≤ ·.1)).map Prod.snd) := by
  intro b w h y
  have hcompletions : y.completions = [] := by with_unfolding_all decide
  refine ⟨by decide, ?_, by decide, by with_unfolding_all decide, by with_unfolding_all decide, ?_⟩
  · exact
      { unloaded := by decide
        orderly := by decide
        pieces := by with_unfolding_all decide
        gapless := by decide
        start_le := by decide
        resolved := by simp [hcompletions] }
  · intro heq
    rw [hcompletions] at heq
    have hlength : (w.final h).backend.patches.toList.length = 1 := by with_unfolding_all decide
    rw [heq] at hlength
    cases hlength

end LoadingRun

end TermSession
