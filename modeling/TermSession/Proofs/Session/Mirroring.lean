import TermSession.Proofs.Keyboard.KeyText
import TermSession.Proofs.Session.InputGate

/-!
# What is handed to other sessions

Typed and pasted text is also handed to other sessions.  For typed text this goes with the sending;
a paste opens a window in which the next text that is sent as data counts as pasted, and if windows
have a length the paste closes it again before it returns.

* `SessionCall.isShared`: the calls whose text is handed on;
* `Session.submitShared`: sending a text and handing it on, which is what these calls come to;
* `Session.Shares`, `Session.Unshared`: what a call hands on; `exists_shares_perform`,
  `unshared_perform`;
* `Host.delivered`, `Host.shared`: what the calls of a run have sent;
* `Host.mirrored_eq_shared`: in every run this is what was handed on.
-/

namespace TermSession

variable {σ : Type}

/-- Is what the call sends also handed to other sessions?  So are the keys that no chord claims, and
pastes. -/
def SessionCall.isShared (platform : Platform) : SessionCall → Bool
  | .key e _ => e.route platform = .unhandled
  | .paste _ _ => true
  | _ => false

namespace Backend

theorem inputs_sendInput (b : Backend) (session : Text) (data : List UInt8) :
    (b.sendInput session data).2.inputs.toList =
      b.inputs.toList ++ if (b.sendInput session data).1.isOk then [(session, data)] else [] := by
  unfold sendInput
  dsimp only
  split
  · exact (List.append_nil _).symm
  · simp [Except.isOk, Except.toBool]

end Backend

namespace Session

/-! ### Sending a text and handing it on -/

/-- Sends text that the filter lets through, and hands it on if it was sent. -/
def submitShared (s : Session σ) (b : Backend) (t : Text) (now : Nat) :
    Bool × Session σ × Backend :=
  let (sent, s, b) := s.submit b t now
  (sent, if sent then s.mirror t else s, b)

theorem submit_inputs (s : Session σ) (b : Backend) (t : Text) (now : Nat) :
    ∃ filter, (s.submit b t now).2.1 = { s with filter } ∧
      (s.submit b t now).2.2.inputs.toList =
        b.inputs.toList ++ if (s.submit b t now).1 then [(s.id, Utf8.encode t)] else [] := by
  unfold submit
  split
  · exact ⟨s.filter, rfl, (List.append_nil _).symm⟩
  · split
    · exact ⟨_, rfl, b.inputs_sendInput s.id (Utf8.encode t)⟩
    · exact ⟨_, rfl, (List.append_nil _).symm⟩

/-- In a call that takes a session from `s` to `s'`, the texts are sent and, if other sessions are
handed any, handed on.  No window is open before or after. -/
structure Shares (s : Session σ) (b : Backend) (s' : Session σ) (b' : Backend)
    (texts : List Text) : Prop where
  inputs_eq : b'.inputs.toList = b.inputs.toList ++ texts.map fun t => (s.id, Utf8.encode t)
  mirrored_eq : s'.mirrored.toList = s.mirrored.toList ++ if s.mirroring then texts else []
  pasteUntil_eq : s'.pasteUntil = none
  pasteWindow_eq : s'.pasteWindow = s.pasteWindow

/-- Nothing is sent, and nothing handed on. -/
theorem Shares.refl {s : Session σ} (hp : s.pasteUntil = none) (b : Backend) :
    s.Shares b s b [] where
  inputs_eq := (List.append_nil _).symm
  mirrored_eq := by simp
  pasteUntil_eq := hp
  pasteWindow_eq := rfl

theorem exists_shares_submitShared {s : Session σ} (hp : s.pasteUntil = none) (b : Backend)
    (t : Text) (now : Nat) :
    ∃ texts, s.Shares b (s.submitShared b t now).2.1 (s.submitShared b t now).2.2 texts := by
  obtain ⟨filter, hsession, hinputs⟩ := s.submit_inputs b t now
  simp only [submitShared, hsession]
  cases hsent : (s.submit b t now).1 with
  | true =>
    rw [hsent] at hinputs
    refine ⟨[t], hinputs, ?_, ?_, ?_⟩ <;> cases s.mirroring <;> simp [mirror, hp]
  | false =>
    rw [hsent] at hinputs
    exact ⟨[], hinputs, by simp, hp, rfl⟩

/-- Sending a text has nothing to do with the window of a paste. -/
theorem submit_pasteUntil (s : Session σ) (until? : Option Nat) (b : Backend) (t : Text)
    (now : Nat) :
    { s with pasteUntil := until? }.submit b t now =
      let (sent, s, b) := s.submit b t now
      (sent, { s with pasteUntil := until? }, b) := by
  have hloaded : { s with pasteUntil := until? }.isLoaded = s.isLoaded := rfl
  cases ht : t.isEmpty || !s.isLoaded with
  | true => simp only [submit, hloaded, ht, if_true]
  | false =>
    cases hf : s.filter.check t now s.composition with
    | mk decision filter =>
      cases decision <;> simp only [submit, hloaded, ht, hf, send, Bool.false_eq_true, if_false]

/-- A paste sends its text and hands it on, if windows have a length: then the window is still open
when the text comes as data. -/
theorem paste_eq_submitShared {s : Session σ} (hlive : s.disposed = false)
    (hp : s.pasteUntil = none) (hw : 0 < s.pasteWindow) (b : Backend) (t : Text) (now : Nat) :
    s.paste b t now = s.submitShared b t now := by
  have hopen : now < now + s.pasteWindow := Nat.lt_add_of_pos_right hw
  obtain ⟨filter, hsession, -⟩ := s.submit_inputs b t now
  have hclosed : { s with filter, pasteUntil := none } = { s with filter } := by rw [← hp]
  rw [paste, if_neg (by simp [hlive]), Session.data, if_neg (by simp [hlive]), submit_pasteUntil]
  simp only [submitShared, hsession]
  cases (s.submit b t now).1 <;> simp [hopen, hclosed]

/-! ### Handing nothing on -/

/-- Nothing is handed on, and no window opens. -/
structure Unshared (s s' : Session σ) : Prop where
  mirrored_eq : s'.mirrored = s.mirrored
  pasteUntil_eq : s.pasteUntil = none → s'.pasteUntil = none
  pasteWindow_eq : s'.pasteWindow = s.pasteWindow

namespace Unshared

theorem of_eq {s s' : Session σ} (hm : s'.mirrored = s.mirrored)
    (hp : s'.pasteUntil = s.pasteUntil) (hw : s'.pasteWindow = s.pasteWindow) : s.Unshared s' :=
  ⟨hm, hp.trans, hw⟩

theorem refl (s : Session σ) : s.Unshared s := .of_eq rfl rfl rfl

theorem trans {s s' s'' : Session σ} (h : s.Unshared s') (h' : s'.Unshared s'') : s.Unshared s'' :=
  ⟨h'.mirrored_eq.trans h.mirrored_eq, h'.pasteUntil_eq ∘ h.pasteUntil_eq,
    h'.pasteWindow_eq.trans h.pasteWindow_eq⟩

end Unshared

theorem unshared_submit (s : Session σ) (b : Backend) (t : Text) (now : Nat) :
    s.Unshared (s.submit b t now).2.1 := by
  obtain ⟨filter, hsession, -⟩ := s.submit_inputs b t now
  rw [hsession]
  exact .of_eq rfl rfl rfl

/-- Without an open window, text that comes as data is not handed on. -/
theorem unshared_data {s : Session σ} (hp : s.pasteUntil = none) (b : Backend) (t : Text)
    (now : Nat) : s.Unshared (s.data b t now).2.1 := by
  have hsubmit := s.unshared_submit b t now
  simp only [Session.data, hsubmit.pasteUntil_eq hp, Option.any_none, Bool.and_false,
    Bool.false_eq_true, if_false]
  split
  · exact .refl s
  · exact hsubmit

theorem unshared_compositionEnd (s : Session σ) (b : Backend) (t : Text) (now : Nat) :
    s.Unshared (s.compositionEnd b t now).2.1 := by
  have hidle : s.Unshared { s with composition := .idle } := .of_eq rfl rfl rfl
  unfold compositionEnd
  split
  · exact .refl s
  · dsimp only
    split
    · exact hidle.trans (unshared_submit _ _ _ _)
    · exact hidle

theorem unshared_expirePaste (s : Session σ) (now : Nat) : s.Unshared (s.expirePaste now) := by
  unfold expirePaste
  split
  · exact ⟨rfl, fun _ => rfl, rfl⟩
  · exact .refl s

/-! ### Calls -/

variable [Display σ]

/-- A key that no chord claims sends a text and hands it on, or does nothing. -/
theorem exists_shares_typeKey {s : Session σ} (hp : s.pasteUntil = none) (b : Backend)
    (e : KeyEvent) (now : Nat) :
    ∃ texts, s.Shares b (s.typeKey b e now).2.1 (s.typeKey b e now).2.2 texts := by
  unfold typeKey
  split
  · exact ⟨[], .refl hp b⟩
  · split
    · exact ⟨[], .refl hp b⟩
    · rename_i bytes hbytes
      obtain ⟨t, ht, -⟩ := (KeyEvent.isText_encode hbytes).exists_read?
      rw [ht]
      exact exists_shares_submitShared hp b t now

/-- What a call sends whose text is handed on, it hands on. -/
theorem exists_shares_perform {s : Session σ} (hp : s.pasteUntil = none) (hw : 0 < s.pasteWindow)
    (b : Backend) {c : SessionCall} (hc : c.isShared s.platform = true) :
    ∃ texts, s.Shares b (s.perform b c).1 (s.perform b c).2 texts := by
  cases c with
  | key e now =>
    have hroute : e.route s.platform = .unhandled := of_decide_eq_true hc
    simp only [perform, key, hroute]
    split
    · exact ⟨[], .refl hp b⟩
    · exact exists_shares_typeKey hp b e now
  | paste t now =>
    cases hd : s.disposed with
    | true =>
      have hnone : s.perform b (.paste t now) = (s, b) := by simp [perform, paste, hd]
      rw [hnone]
      exact ⟨[], .refl hp b⟩
    | false =>
      simp only [perform, paste_eq_submitShared hd hp hw]
      exact exists_shares_submitShared hp b t now
  | _ => cases hc

/-- A key that a chord claims is sent and not handed on. -/
theorem unshared_key {s : Session σ} {e : KeyEvent} (hroute : e.route s.platform ≠ .unhandled)
    (b : Backend) (now : Nat) : s.Unshared (s.key b e now).2.1 := by
  unfold key
  split
  · exact .refl s
  · split
    · exact .of_eq rfl rfl rfl
    · split <;> exact .refl s
    · contradiction

theorem unshared_processEvents (s : Session σ) (b : Backend) :
    s.Unshared (s.processEvents b).2.1 := by
  unfold processEvents
  split <;> exact .of_eq rfl rfl rfl

theorem unshared_load (s : Session σ) (b : Backend) (now : Nat) (meanwhile : Backend → Backend) :
    s.Unshared (s.load b now meanwhile).1 := by
  have hhistory (s : Session σ) (b : Backend) : s.Unshared (s.loadHistory b now).1 := by
    unfold loadHistory
    split
    · exact .refl s
    · split <;> exact .of_eq rfl rfl rfl
  unfold load
  split
  · exact .refl s
  · exact (unshared_processEvents s b).trans (hhistory _ _)

theorem unshared_pollTimers (s : Session σ) (b : Backend) (now : Nat) :
    s.Unshared (s.pollTimers b now).1 := by
  have hresizing (s : Session σ) : s.Unshared (s.pollResizing b now).1 := by
    unfold pollResizing
    split <;> exact .of_eq rfl rfl rfl
  have hsnapshots (s : Session σ) (b : Backend) : s.Unshared (s.pollSnapshots b now).1 := by
    unfold pollSnapshots
    split <;> exact .of_eq rfl rfl rfl
  exact (s.unshared_expirePaste now).trans ((hresizing _).trans (hsnapshots _ _))

/-- Every other call hands nothing on. -/
theorem unshared_perform {s : Session σ} (hp : s.pasteUntil = none) (b : Backend) {c : SessionCall}
    (hc : c.isShared s.platform = false) : s.Unshared (s.perform b c).1 := by
  cases c with
  | load now meanwhile => exact s.unshared_load b now _
  | processEvents => exact s.unshared_processEvents b
  | pollTimers now => exact s.unshared_pollTimers b now
  | key e now => exact unshared_key (of_decide_eq_false hc) b now
  | paste => cases hc
  | data t now => exact unshared_data hp b t now
  | compositionEnd t now => exact s.unshared_compositionEnd b t now
  | flush =>
    simp only [perform, flush]
    split <;> exact .of_eq rfl rfl rfl
  | fit size =>
    simp only [perform, fit]
    split <;> exact .of_eq rfl rfl rfl
  | requestSize | compositionStart | compositionUpdate | focusLost =>
    simp only [perform, requestSize, compositionStart, compositionUpdate, focusLost, forceIdle]
    split <;> exact .of_eq rfl rfl rfl
  | dispose =>
    simp only [perform, dispose]
    split
    · exact .refl s
    · exact ⟨rfl, fun _ => rfl, rfl⟩
  | write | setFilterEnabled | setMirroring => exact .of_eq rfl rfl rfl

end Session

/-! ### Runs -/

namespace Host

variable [Display σ]

/-- What a call sends to shells, and to which. -/
def delivered (h : Host σ) (c : SessionCall) : List (Text × List UInt8) :=
  (h.perform c).backend.inputs.toList.drop h.backend.inputs.toList.length

/-- What an event sends that is also for other sessions: while they are handed text, what is sent by
a key that no chord claims, or by a paste. -/
def sharedIn (h : Host σ) : HostEvent → List (Text × List UInt8)
  | .call c =>
    if h.session.mirroring && c.isShared h.session.platform then h.delivered c else []
  | .backend _ => []

/-- What the events of a run send that is also for other sessions, in order. -/
def shared (h : Host σ) : List HostEvent → List (Text × List UInt8)
  | [] => []
  | e :: events => h.sharedIn e ++ (h.advance e).shared events

/-- The texts handed to other sessions, as bytes for the session's own shell. -/
def handedOn (h : Host σ) : List (Text × List UInt8) :=
  h.session.mirrored.toList.map fun t => (h.session.id, Utf8.encode t)

/-- Between calls no paste is going on, and windows have a length. -/
structure IsBetween (h : Host σ) : Prop where
  pasteUntil_eq : h.session.pasteUntil = none
  window_pos : 0 < h.session.pasteWindow

/-- In one event exactly what it sends for others is handed on. -/
theorem IsBetween.advance {h : Host σ} (a : h.IsBetween) (e : HostEvent) :
    (h.advance e).IsBetween ∧ (h.advance e).handedOn = h.handedOn ++ h.sharedIn e := by
  cases e with
  | backend change => exact ⟨⟨a.pasteUntil_eq, a.window_pos⟩, (List.append_nil _).symm⟩
  | call c =>
    have hid : (h.advance (.call c)).session.id = h.session.id :=
      (h.session.perform_fixed h.backend c).1
    cases hc : c.isShared h.session.platform with
    | true =>
      obtain ⟨texts, t⟩ :=
        Session.exists_shares_perform a.pasteUntil_eq a.window_pos h.backend hc
      have hdelivered :
          h.delivered c = texts.map fun t => (h.session.id, Utf8.encode t) := by
        have hinputs := t.inputs_eq
        unfold delivered perform
        rw [hinputs, List.drop_left]
      refine ⟨⟨t.pasteUntil_eq, t.pasteWindow_eq ▸ a.window_pos⟩, ?_⟩
      have hmirrored : (h.advance (.call c)).session.mirrored.toList =
          h.session.mirrored.toList ++ if h.session.mirroring then texts else [] := t.mirrored_eq
      simp only [handedOn, hid, hmirrored, sharedIn, hc, Bool.and_true, hdelivered]
      cases h.session.mirroring <;> simp
    | false =>
      have t := Session.unshared_perform a.pasteUntil_eq h.backend hc
      refine ⟨⟨t.pasteUntil_eq a.pasteUntil_eq, t.pasteWindow_eq ▸ a.window_pos⟩, ?_⟩
      have hmirrored : (h.advance (.call c)).session.mirrored = h.session.mirrored := t.mirrored_eq
      simp [handedOn, hid, hmirrored, sharedIn, hc]

theorem IsBetween.advanceAll {h : Host σ} (a : h.IsBetween) (events : List HostEvent) :
    (h.advanceAll events).handedOn = h.handedOn ++ h.shared events := by
  induction events generalizing h with
  | nil => exact (List.append_nil _).symm
  | cons e events ih =>
    obtain ⟨a', hstep⟩ := a.advance e
    rw [advanceAll_cons, ih a', hstep, shared, List.append_assoc]

/-- **What is handed to other sessions is what was typed and pasted.**  Take any run of a session
whose paste windows have a length.  The texts handed on are, in order and each once, exactly what
was sent to the session's shell, while other sessions are handed text, by keys that no chord claims
and by pastes.  So nothing is handed on that was filtered, that could not be sent, or that came as data.
What chords send is not handed on either. -/
theorem mirrored_eq_shared (id : Text) (display : σ) {config : Config}
    (hw : 0 < config.input.pasteWindow) (b : Backend) (events : List HostEvent) :
    let h := start id display config b
    (h.advanceAll events).session.mirrored.toList.map (fun t => (id, Utf8.encode t)) =
      h.shared events := by
  intro h
  have a : h.IsBetween := ⟨rfl, hw⟩
  have hid : (h.advanceAll events).session.id = id := (h.advanceAll_fixed events).1
  have hrun := a.advanceAll events
  rw [handedOn, hid] at hrun
  exact hrun

/-- A key and a paste are handed on.  The text that comes as data is not, nor is the paste that the
filter drops for repeating it. -/
theorem mirrored_eq_shared_qhi :
    let h := start [] (Surface.new ⟨1, 8⟩) {} {}
    let events : List HostEvent :=
      [.call (.load 0 []), .call (.setMirroring true), .call (.key { code := .char 'q' } 0),
        .call (.paste ['h', 'i'] 100), .call (.data ['z'] 200), .call (.paste ['z'] 210)]
    0 < (Config.input {}).pasteWindow ∧
      (h.advanceAll events).session.mirrored.toList.map (fun t => ([], Utf8.encode t)) =
        h.shared events ∧
      h.shared events = [([], [0x71]), ([], [0x68, 0x69])] :=
  ⟨by decide, mirrored_eq_shared [] (Surface.new ⟨1, 8⟩) (by decide) {} _,
    by with_unfolding_all decide⟩

/-- Control and `w` together are a chord: the shell is sent its action, the other sessions are
handed nothing. -/
theorem chord_not_handed_on :
    let h := (start [] (Surface.new ⟨1, 8⟩) {} {}).advanceAll
      [.call (.load 0 []), .call (.setMirroring true)]
    let chord : SessionCall := .key { code := .char 'w', held := [.ctrl] } 0
    h.session.mirroring = true ∧ h.delivered chord = [([], [0x17])] ∧
      (h.perform chord).handedOn = [] := by
  decide

end Host

end TermSession
