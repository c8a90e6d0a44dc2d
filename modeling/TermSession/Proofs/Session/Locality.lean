import TermSession.Proofs.Backend.Sharing
import TermSession.Proofs.Session.Disposal

/-!
# What a session asks of its backend

Every call of a session is local to it: what it makes of the session and what it gives back depend
on no more of the backend than what the backend keeps for that session, and nothing else of the
backend changes.

* `Rendering.isLocal_load`, `SnapshotTimer.isLocal_flush`, `Resizing.isLocal_apply`: the parts that
  talk to the backend;
* `Session.isLocal_processEvents`, `Session.isLocal_submit`, …: each call of a session;
* `Session.isLocal_perform`: any call but loading;
* `SessionCall.without`, `Session.perform_own`, `Session.perform_others`: any call at all, while the
  backend changes.
-/

namespace TermSession

open Backend (IsLocal Alike)

variable {σ : Type} [Display σ]

theorem Rendering.isLocal_restored (r : Rendering σ) (id kind : Text) :
    IsLocal id (fun b => r.restored b id kind) (fun b => b) :=
  .read fun b b' h => by
    have hsnapshot := ((Backend.isLocal_fetchSnapshot id kind).own b b' h).1
    simp only [restored, startingSnapshot?, hsnapshot]

theorem Rendering.isLocal_load (r : Rendering σ) (id kind : Text) :
    IsLocal id (fun b => ((r.load b id kind).1, (r.load b id kind).2.1))
      (fun b => (r.load b id kind).2.2) := by
  cases hl : r.output.loaded with
  | true => exact .of_idle (r, []) fun b => by simp [load, hl]
  | false =>
    have htail (r : Rendering σ) := Backend.isLocal_fetchLog id r.output.position
    constructor
    · intro b b' h
      obtain ⟨hrestored, -⟩ := (r.isLocal_restored id kind).own b b' h
      obtain ⟨htail, hb⟩ := (htail (r.restored b id kind)).own b b' h
      simp only [load, hl, hrestored, htail, Bool.false_eq_true, ↓reduceIte]
      exact ⟨trivial, hb⟩
    · intro id' hid b
      simp only [load, hl]
      exact (htail (r.restored b id kind)).others id' hid b

theorem SnapshotTimer.isLocal_flush (t : SnapshotTimer) (r : Rendering σ) (id : Text)
    (force : Bool) :
    IsLocal id (fun b => ((t.flush r b id force).1, (t.flush r b id force).2.1))
      (fun b => (t.flush r b id force).2.2) := by
  cases hw : t.wants r.output force with
  | true =>
    exact ((Backend.isLocal_saveSnapshot id t.settings.kind (snapshotOf r)).map fun _ =>
      (true, { r with output := r.output.resetSinceSnapshot })).congr
        (by simp [flush, hw]) (by simp [flush, hw])
  | false =>
    exact .of_idle (false, r) fun b => by simp [flush, hw]

theorem Resizing.isLocal_apply (z : Resizing) (size : Size) (surface : σ) (id : Text) :
    IsLocal id
      (fun b => ((z.apply size surface b id).1, (z.apply size surface b id).2.1,
        (z.apply size surface b id).2.2.1))
      (fun b => (z.apply size surface b id).2.2.2) := by
  have hset (told : Prop) [Decidable told] (new : Size) :
      IsLocal id (fun _ => ()) (fun b => if told then b.setSize id new else b) := by
    split
    · exact Backend.isLocal_setSize id new
    · exact .pure id ()
  have hresync (new : Size) :
      IsLocal id (fun _ => ()) (fun b => if z.hasResized then b else (b.resync id new).2) := by
    split
    · exact .pure id ()
    · exact (Backend.isLocal_resync id new).map fun _ => ()
  by_cases hp : size.isPositive
  · simp only [Resizing.apply, hp, if_true]
    exact ((hset _ _).bind fun _ _ => hresync _).map fun _ => (_, _, _)
  · exact .of_idle (⟨Display.size surface, false, false⟩, z, surface) fun b => by
      simp [Resizing.apply, hp]

namespace Session

theorem isLocal_handleEvents (id : Text) (events : List LogEvent) (r : Rendering σ) :
    IsLocal id (fun b => (events.foldl (handleEvent id) (r, b)).1)
      (fun b => (events.foldl (handleEvent id) (r, b)).2) := by
  induction events generalizing r with
  | nil => exact .pure id r
  | cons e events ih =>
    exact (Backend.isLocal_dispatch id _ _).bind fun _ _ => ih (r.handle e).1

variable {s : Session σ}

theorem isLocal_processEvents (hr : ∀ r ∈ s.receiver, r.session = s.id) :
    IsLocal s.id (fun b => ((s.processEvents b).1, (s.processEvents b).2.1))
      (fun b => (s.processEvents b).2.2) := by
  cases hs : s.surface with
  | none =>
    exact .of_idle (0, s) fun b => by simp [processEvents, hs]
  | some surface =>
    cases hreceiver : s.receiver with
    | none =>
      exact .of_idle (0, s) fun b => by simp [processEvents, hs, hreceiver]
    | some receiver =>
      have hreceive := Backend.isLocal_receiveAll receiver
      rw [hr receiver hreceiver] at hreceive
      refine (hreceive.bind fun events _ => (isLocal_handleEvents s.id events
        ⟨s.output, surface⟩).map fun r => (events.length, s.withRendering r)).congr
        (fun b => ?_) (fun b => ?_)
      · simp [processEvents, hs, hreceiver, withRendering]
      · simp only [processEvents, hs, hreceiver]

theorem isLocal_loadHistory (s : Session σ) (now : Nat) :
    IsLocal s.id (fun b => (s.loadHistory b now).1) (fun b => (s.loadHistory b now).2) := by
  cases hl : s.isLoaded with
  | true => exact .of_idle s fun b => by simp [loadHistory, hl]
  | false =>
    cases hs : s.surface with
    | none =>
      exact .of_idle s fun b => by simp [loadHistory, hl, hs]
    | some surface =>
      refine ((Rendering.isLocal_load ⟨s.output, surface⟩ s.id s.timer.settings.kind).bind
        fun found _ => (Backend.isLocal_dispatch s.id found.2 true).map fun _ =>
          { s.withRendering found.1 with timer := s.timer.start now }).congr (fun b => ?_)
            (fun b => ?_)
      · simp [loadHistory, hl, hs]
      · simp [loadHistory, hl, hs]

theorem isLocal_flush (s : Session σ) :
    IsLocal s.id (fun b => ((s.flush b).1, (s.flush b).2.1)) (fun b => (s.flush b).2.2) := by
  cases hs : s.surface with
  | none => exact .of_idle (false, s) fun b => by simp [flush, hs]
  | some surface =>
    exact ((s.timer.isLocal_flush ⟨s.output, surface⟩ s.id true).map fun p =>
      (p.1, s.withRendering p.2)).congr (by simp [flush, hs]) (by simp [flush, hs])

theorem isLocal_fit (s : Session σ) (size : Size) :
    IsLocal s.id (fun b => ((s.fit size b).1, (s.fit size b).2.1))
      (fun b => (s.fit size b).2.2) := by
  cases hs : s.surface with
  | none => exact .of_idle (none, s) fun b => by simp [fit, hs]
  | some surface =>
    exact ((s.resizing.isLocal_apply size surface s.id).map fun p =>
      (some p.1, { s with resizing := p.2.1, surface := some p.2.2 })).congr
        (by simp [fit, hs]) (by simp [fit, hs])

theorem isLocal_pollResizing (s : Session σ) (now : Nat) :
    IsLocal s.id (fun b => (s.pollResizing b now).1) (fun b => (s.pollResizing b now).2) := by
  cases hs : s.surface with
  | none => exact .of_idle s fun b => by simp [pollResizing, hs]
  | some surface =>
    rcases hd : s.resizing.debouncer.poll now with ⟨_ | size, debouncer⟩
    · exact .of_idle { s with surface := some surface } fun b => by
        simp [pollResizing, hs, Resizing.poll, hd]
    · exact ((Resizing.isLocal_apply { s.resizing with debouncer } size surface s.id).map
        fun p => { s with resizing := p.2.1, surface := some p.2.2 }).congr
          (by simp [pollResizing, hs, Resizing.poll, hd])
          (by simp [pollResizing, hs, Resizing.poll, hd])

theorem isLocal_pollSnapshots (s : Session σ) (now : Nat) :
    IsLocal s.id (fun b => (s.pollSnapshots b now).1) (fun b => (s.pollSnapshots b now).2) := by
  cases hs : s.surface with
  | none => exact .of_idle s fun b => by simp [pollSnapshots, hs]
  | some surface =>
    cases hd : s.timer.isDue now with
    | false =>
      exact .of_idle (s.withRendering ⟨s.output, surface⟩) fun b => by
        simp [pollSnapshots, hs, SnapshotTimer.poll, hd, withRendering]
    | true =>
      exact ((s.timer.isLocal_flush ⟨s.output, surface⟩ s.id false).map fun p =>
        { s.withRendering p.2 with timer := s.timer.start now }).congr
          (by simp [pollSnapshots, hs, SnapshotTimer.poll, hd, withRendering])
          (by simp [pollSnapshots, hs, SnapshotTimer.poll, hd])

theorem isLocal_pollTimers (s : Session σ) (now : Nat) :
    IsLocal s.id (fun b => (s.pollTimers b now).1) (fun b => (s.pollTimers b now).2) := by
  have hid : (s.expirePaste now).id = s.id := by
    unfold expirePaste
    split <;> rfl
  have hresizing := (s.expirePaste now).isLocal_pollResizing now
  rw [hid] at hresizing
  have hsnapshots (s' : Session σ) (hs' : ∃ b, ((s.expirePaste now).pollResizing b now).1 = s') :
      IsLocal s.id (fun b => (s'.pollSnapshots b now).1) (fun b => (s'.pollSnapshots b now).2) := by
    obtain ⟨b, rfl⟩ := hs'
    have hid' : ((s.expirePaste now).pollResizing b now).1.id = s.id := by
      rw [← hid]
      unfold pollResizing
      split <;> rfl
    rw [← hid']
    exact isLocal_pollSnapshots _ now
  exact hresizing.bind hsnapshots

section Input

omit [Display σ]

theorem isLocal_dispose {s : Session σ} (hr : ∀ r ∈ s.receiver, r.session = s.id) :
    IsLocal s.id (fun b => (s.dispose b).1) (fun b => (s.dispose b).2) := by
  cases hd : s.disposed with
  | true => exact .of_idle s fun b => by simp [dispose, hd]
  | false =>
    cases hreceiver : s.receiver with
    | none =>
      exact .of_idle (s.dispose {}).1 fun b => by simp [dispose, hd, hreceiver]
    | some receiver =>
      have hleave := Backend.isLocal_updateSubscriber receiver fun s =>
        { s with connected := false, queue := [] }
      rw [hr receiver hreceiver] at hleave
      exact (hleave.map fun _ => (s.dispose {}).1).congr (fun b => by simp [dispose, hd])
        (fun b => by simp [dispose, hd, hreceiver, Backend.unsubscribe])

theorem isLocal_send (s : Session σ) (data : List UInt8) :
    IsLocal s.id (fun b => (s.send b data).1) (fun b => (s.send b data).2) :=
  (Backend.isLocal_sendInput s.id data).map Except.isOk

theorem isLocal_submit (s : Session σ) (t : Text) (now : Nat) :
    IsLocal s.id (fun b => ((s.submit b t now).1, (s.submit b t now).2.1))
      (fun b => (s.submit b t now).2.2) := by
  by_cases hi : (t.isEmpty || !s.isLoaded) = true
  · exact .of_idle (false, s) fun b => by simp only [submit, hi, if_true, and_self]
  · rcases hcheck : s.filter.check t now s.composition with ⟨_ | _ | _, filter⟩
    · exact ((s.isLocal_send (Utf8.encode t)).map fun sent => (sent, { s with filter })).congr
        (fun b => by simp only [submit, hi, hcheck]; rfl)
        (fun b => by simp only [submit, hi, hcheck]; rfl)
    all_goals
      exact .of_idle (false, { s with filter }) fun b => by
        simp only [submit, hi, hcheck]
        exact ⟨rfl, rfl⟩

theorem isLocal_write (s : Session σ) (data : List UInt8) :
    IsLocal s.id (fun b => (s.write b data).1) (fun b => (s.write b data).2) := by
  by_cases hi : (s.disposed || data.isEmpty || s.composition.isComposing) = true
  · exact .of_idle false fun b => by simp only [write, hi, if_true, and_self]
  · exact (s.isLocal_send data).congr (fun b => by simp only [write, hi]; rfl)
      (fun b => by simp only [write, hi]; rfl)

theorem isLocal_data (s : Session σ) (t : Text) (now : Nat) :
    IsLocal s.id (fun b => ((s.data b t now).1, (s.data b t now).2.1))
      (fun b => (s.data b t now).2.2) := by
  cases hd : s.disposed with
  | true => exact .of_idle (false, s) fun b => by simp [Session.data, hd]
  | false =>
    refine ((s.isLocal_submit t now).map fun p =>
      if p.1 && p.2.pasteUntil.any (now < ·) then
        (p.1, { p.2 with pasteUntil := none }.mirror t)
      else p).congr (fun b => ?_) (fun b => ?_)
    all_goals
      simp only [Session.data, hd, Bool.false_eq_true, ↓reduceIte]
      split <;> rfl

theorem isLocal_paste (s : Session σ) (t : Text) (now : Nat) :
    IsLocal s.id (fun b => ((s.paste b t now).1, (s.paste b t now).2.1))
      (fun b => (s.paste b t now).2.2) := by
  cases hd : s.disposed with
  | true => exact .of_idle (false, s) fun b => by simp [paste, hd]
  | false =>
    exact ((isLocal_data { s with pasteUntil := some (now + s.pasteWindow) } t now).map
      fun p => (p.1, if p.1 then p.2 else { p.2 with pasteUntil := none })).congr
        (fun b => by simp [paste, hd]) (fun b => by simp [paste, hd])

theorem isLocal_compositionEnd (s : Session σ) (t : Text) (now : Nat) :
    IsLocal s.id (fun b => ((s.compositionEnd b t now).1, (s.compositionEnd b t now).2.1))
      (fun b => (s.compositionEnd b t now).2.2) := by
  cases hd : s.disposed with
  | true => exact .of_idle (false, s) fun b => by simp [compositionEnd, hd]
  | false =>
    cases hc : Composition.committed t with
    | none =>
      exact .of_idle (false, { s with composition := .idle }) fun b => by
        simp [compositionEnd, hd, hc]
    | some t =>
      exact (isLocal_submit { s with composition := .idle } t now).congr
        (fun b => by simp [compositionEnd, hd, hc]) (fun b => by simp [compositionEnd, hd, hc])

end Input

theorem isLocal_typeKey (s : Session σ) (e : KeyEvent) (now : Nat) :
    IsLocal s.id (fun b => ((s.typeKey b e now).1, (s.typeKey b e now).2.1))
      (fun b => (s.typeKey b e now).2.2) := by
  cases hc : s.composition.isComposing with
  | true => exact .of_idle (false, s) fun b => by simp [typeKey, hc]
  | false =>
    cases he : e.encode s.modes with
    | none => exact .of_idle (false, s) fun b => by simp [typeKey, hc, he]
    | some bytes =>
      cases ht : Utf8.read? bytes with
      | some t =>
        exact ((s.isLocal_submit t now).map fun (sent, s) =>
          (sent, if sent then s.mirror t else s)).congr
            (fun b => by simp [typeKey, hc, he, ht]) (fun b => by simp [typeKey, hc, he, ht])
      | none =>
        cases hl : s.isLoaded with
        | true =>
          exact ((s.isLocal_send bytes).map fun sent => (sent, s)).congr
            (fun b => by simp [typeKey, hc, he, ht, hl])
            (fun b => by simp [typeKey, hc, he, ht, hl])
        | false => exact .of_idle (false, s) fun b => by simp [typeKey, hc, he, ht, hl]

theorem isLocal_key (s : Session σ) (e : KeyEvent) (now : Nat) :
    IsLocal s.id (fun b => ((s.key b e now).1, (s.key b e now).2.1))
      (fun b => (s.key b e now).2.2) := by
  by_cases hi : (s.disposed || decide (e.motion = .release)) = true
  · exact .of_idle (false, s) fun b => by simp only [key, hi, if_true, and_self]
  · cases hroute : e.route s.platform with
    | inputToggle =>
      exact .of_idle (false, s.forceIdle) fun b => by
        simp only [key, hi, hroute]
        exact ⟨rfl, rfl⟩
    | unhandled =>
      exact (s.isLocal_typeKey e now).congr (fun b => by simp only [key, hi, hroute]; rfl)
        (fun b => by simp only [key, hi, hroute]; rfl)
    | mapped action =>
      by_cases hc : (s.composition.isComposing || !s.isLoaded) = true
      · exact .of_idle (false, s) fun b => by
          simp only [key, hi, hroute, hc]
          exact ⟨rfl, rfl⟩
      · exact ((s.isLocal_send action.bytes).map fun sent => (sent, s)).congr
          (fun b => by simp only [key, hi, hroute, hc]; rfl)
          (fun b => by simp only [key, hi, hroute, hc]; rfl)

/-- Every call but loading, during which the backend may change. -/
theorem isLocal_perform {s : Session σ} (hr : ∀ r ∈ s.receiver, r.session = s.id)
    {c : SessionCall} (hc : ∀ now meanwhile, c ≠ .load now meanwhile) :
    IsLocal s.id (fun b => (s.answer b c, (s.perform b c).1)) (fun b => (s.perform b c).2) := by
  cases c with
  | load now meanwhile => exact absurd rfl (hc now meanwhile)
  | processEvents => exact (isLocal_processEvents hr).map fun x => (Answer.count x.1, x.2)
  | flush => exact s.isLocal_flush.map fun x => (Answer.flag x.1, x.2)
  | pollTimers now => exact (s.isLocal_pollTimers now).map fun s => (Answer.nothing, s)
  | fit size => exact (s.isLocal_fit size).map fun x => (Answer.outcome x.1, x.2)
  | write data => exact (s.isLocal_write data).map fun sent => (Answer.flag sent, s)
  | key e now => exact (s.isLocal_key e now).map fun x => (Answer.flag x.1, x.2)
  | data t now => exact (s.isLocal_data t now).map fun x => (Answer.flag x.1, x.2)
  | paste t now => exact (s.isLocal_paste t now).map fun x => (Answer.flag x.1, x.2)
  | compositionEnd t now =>
    exact (s.isLocal_compositionEnd t now).map fun x => (Answer.flag x.1, x.2)
  | dispose => exact (isLocal_dispose hr).map fun s => (Answer.nothing, s)
  | requestSize | compositionStart | compositionUpdate | focusLost | setFilterEnabled
  | setMirroring => exact .pure s.id (Answer.nothing, _)

end Session

/-- The call, without what happens meanwhile that is about a session. -/
def SessionCall.without (session : Text) : SessionCall → SessionCall
  | .load now meanwhile => .load now (BackendChange.leaveOut session meanwhile)
  | c => c

theorem SessionCall.changes_without (session : Text) (c : SessionCall) :
    (c.without session).changes = BackendChange.leaveOut session c.changes := by
  cases c <;> rfl

/-- Something else may happen while a session loads, and during no other call. -/
theorem SessionCall.load_or_quiet (c : SessionCall) :
    (∃ now meanwhile, c = .load now meanwhile) ∨
      (∀ now meanwhile, c ≠ .load now meanwhile) ∧ c.changes = [] ∧
        ∀ session, c.without session = c := by
  cases c with
  | load now meanwhile => exact .inl ⟨now, meanwhile, rfl⟩
  | _ => exact .inr ⟨fun _ _ => nofun, rfl, fun _ => rfl⟩

namespace Session

variable {s : Session σ} {b b' : Backend} {session : Text}

/-- A session becomes the same and answers the same over two backends that are alike for it,
although one of them does not undergo what is about another session. -/
theorem perform_own (hr : ∀ r ∈ s.receiver, r.session = s.id) (h : Alike s.id b b')
    (hs : session ≠ s.id) (c : SessionCall) :
    s.answer b' (c.without session) = s.answer b c ∧
      (s.perform b' (c.without session)).1 = (s.perform b c).1 ∧
      Alike s.id (s.perform b c).2 (s.perform b' (c.without session)).2 := by
  rcases c.load_or_quiet with ⟨now, meanwhile, rfl⟩ | ⟨hload, -, hsame⟩
  · refine ⟨rfl, ?_⟩
    simp only [SessionCall.without, perform, load]
    split
    · exact ⟨rfl, h.undergoAll_leaveOut hs meanwhile⟩
    · -- The notifications, what happens meanwhile, and the history.
      obtain ⟨htaken, hfound⟩ := (isLocal_processEvents hr).own b b' h
      have htaken' : (s.processEvents b').2.1 = (s.processEvents b).2.1 := congrArg Prod.snd htaken
      have hid : (s.processEvents b).2.1.id = s.id := (sameInput_processEvents s b).id_eq
      have hhistory := isLocal_loadHistory (s.processEvents b).2.1 now
      rw [hid] at hhistory
      simp only [htaken']
      exact hhistory.own _ _ (hfound.undergoAll_leaveOut hs meanwhile)
  · obtain ⟨hval, hnext⟩ := (isLocal_perform hr hload).own b b' h
    rw [hsame]
    exact ⟨congrArg Prod.fst hval, congrArg Prod.snd hval, hnext⟩

/-- To another session a call is what happens to the backend meanwhile. -/
theorem perform_others (hr : ∀ r ∈ s.receiver, r.session = s.id) (hs : session ≠ s.id)
    (b : Backend) (c : SessionCall) :
    Alike session (b.undergoAll c.changes) (s.perform b c).2 := by
  rcases c.load_or_quiet with ⟨now, meanwhile, rfl⟩ | ⟨hload, hquiet, -⟩
  · simp only [SessionCall.changes, perform, load]
    split
    · exact .refl session _
    · have htaken := (isLocal_processEvents hr).others session hs b
      have hid : (s.processEvents b).2.1.id = s.id := (sameInput_processEvents s b).id_eq
      have hhistory := isLocal_loadHistory (s.processEvents b).2.1 now
      rw [hid] at hhistory
      exact (htaken.undergoAll meanwhile).trans (hhistory.others session hs _)
  · rw [hquiet]
    exact (isLocal_perform hr hload).others session hs b

end Session

end TermSession
