import TermSession.Proofs.Session.Calls
import TermSession.Proofs.Text.Utf8

/-!
# What reaches the shell

Input comes in by several calls, some of which pass the duplicate filter and some of which do not.
Whatever the run: a call sends at most one piece of input, that piece is the call's own, and it is
sent only by a live session in which no composition is going on.

* `Backend.Silent`, `Backend.Sent`: what was to be sent, and what was;
* `SessionCall.payload?`, `Session.Admits`: what a call may send, and when;
* `Session.exists_sent_perform`: each call keeps to it;
* `Host.input_gate`: so does every run, and nothing is sent during a composition.
-/

namespace TermSession

/-! ### Sending -/

namespace Backend

/-- Nothing is sent to a shell. -/
structure Silent (b b' : Backend) : Prop where
  attempts : b'.inputAttempts.toList = b.inputAttempts.toList
  inputs : b'.inputs.toList = b.inputs.toList

namespace Silent

theorem refl (b : Backend) : b.Silent b := ⟨rfl, rfl⟩

theorem trans {a b c : Backend} (h : a.Silent b) (h' : b.Silent c) : a.Silent c :=
  ⟨h'.attempts.trans h.attempts, h'.inputs.trans h.inputs⟩

end Silent

/-- `sent`, if it is anything, was to be sent to the shell of a session, and nothing else was to be
sent.  It was sent unless sending fails. -/
structure Sent (b b' : Backend) (session : Text) (sent : Option (List UInt8)) : Prop where
  attempts : b'.inputAttempts.toList = b.inputAttempts.toList ++ (sent.map (session, ·)).toList
  inputs : b'.inputs.toList =
    b.inputs.toList ++ if b.fails .sendInput then [] else (sent.map (session, ·)).toList

theorem Silent.sent {b b' : Backend} (h : b.Silent b') (session : Text) :
    b.Sent b' session none where
  attempts := by simp [h.attempts]
  inputs := by simp [h.inputs]

theorem Sent.silent {b b' : Backend} {session : Text} (h : b.Sent b' session none) :
    b.Silent b' where
  attempts := by simpa using h.attempts
  inputs := by simpa using h.inputs

theorem sent_sendInput (b : Backend) (session : Text) (data : List UInt8) :
    b.Sent (b.sendInput session data).2 session (some data) := by
  unfold sendInput
  by_cases hf : b.fails .sendInput
  · have hf' : ({ b with inputAttempts := b.inputAttempts.add (session, data) } : Backend).fails
        .sendInput = true := hf
    simp only [hf', if_true]
    exact ⟨by simp, by simp [hf]⟩
  · have hf' : ¬ ({ b with inputAttempts := b.inputAttempts.add (session, data) } : Backend).fails
        .sendInput = true := hf
    simp only [hf']
    exact ⟨by simp, by simp [hf]⟩

theorem silent_undergo (b : Backend) (change : BackendChange) : b.Silent (b.undergo change) := by
  cases change <;> exact ⟨rfl, rfl⟩

/-- A session sends nothing by the way. -/
theorem stable_silent (b : Backend) : Stable b.Silent where
  updateSubscriber _ _ _ h := h.trans ⟨rfl, rfl⟩
  updateMeta _ _ _ h := h.trans <| by
    unfold updateMeta
    split <;> exact ⟨rfl, rfl⟩
  fetchLog _ _ _ h := h.trans ⟨rfl, rfl⟩
  saveSnapshot _ _ _ _ h := h.trans <| by
    simp only [saveSnapshot]
    split <;> exact ⟨rfl, rfl⟩
  setSize _ _ _ h := h.trans ⟨rfl, rfl⟩
  resync _ _ _ h := h.trans <| by
    unfold resync
    dsimp only
    split <;> exact ⟨rfl, rfl⟩

end Backend

/-! ### What a call may send, and when -/

namespace SessionCall

/-- Does the call send bytes as they are? -/
def isWrite : SessionCall → Bool
  | write _ => true
  | _ => false

/-- Does the call end a composition with a text? -/
def isCompositionEnd : SessionCall → Bool
  | compositionEnd _ _ => true
  | _ => false

/-- Does the call close a composition, by its end or by giving it up? -/
def closesComposition (platform : Platform) : SessionCall → Bool
  | compositionEnd _ _ | focusLost | dispose => true
  | key e _ => e.motion ≠ .release ∧ e.route platform = .inputToggle
  | _ => false

variable {σ : Type} [Display σ]

/-- The bytes that a call has for the shell: its own text or data, and for a key those of its action
or of its encoding. -/
def payload? (s : Session σ) : SessionCall → Option (List UInt8)
  | write bytes => some bytes
  | data t _ | paste t _ | compositionEnd t _ => some (Utf8.encode t)
  | key e _ =>
    match e.route s.platform with
    | .mapped action => some action.bytes
    | .inputToggle => none
    | .unhandled => e.encode s.modes
  | _ => none

end SessionCall

namespace Session

variable {σ : Type}

/-- What is true when a call that takes a session from `s` to `s'` sends `data`. -/
structure Admits [Display σ] (s : Session σ) (c : SessionCall) (s' : Session σ)
    (data : List UInt8) : Prop where
  live : s.disposed = false ∧ s'.disposed = false
  idle_after : s'.composition = .idle
  idle_before : c.isCompositionEnd = false → s.composition = .idle
  loaded : c.isWrite = false → s.isLoaded = true
  payload_eq : c.payload? s = some data

theorem idle_of_not_isComposing {c : Composition} (h : c.isComposing = false) : c = .idle := by
  cases c with
  | idle => rfl
  | composing t => cases h

/-- Text that is submitted is sent as a whole, and only to a loaded session with no composition
going on.  Nothing but the filter remembers it. -/
theorem exists_sent_submit (s : Session σ) (b : Backend) (t : Text) (now : Nat) :
    ∃ sent filter, b.Sent (s.submit b t now).2.2 s.id sent ∧
      (s.submit b t now).2.1 = { s with filter } ∧
      ∀ data ∈ sent, s.composition = .idle ∧ s.isLoaded = true ∧ data = Utf8.encode t := by
  unfold submit
  split
  · exact ⟨none, s.filter, (Backend.Silent.refl b).sent _, rfl, by simp⟩
  · rename_i hguard
    have hloaded : s.isLoaded = true := by
      by_contra h
      simp [h] at hguard
    unfold DuplicateFilter.check
    by_cases hc : s.composition.isComposing
    · rw [if_pos hc]
      exact ⟨none, s.filter, (Backend.Silent.refl b).sent _, rfl, by simp⟩
    · rw [if_neg hc]
      have hidle := idle_of_not_isComposing (Bool.eq_false_iff.2 hc)
      split
      · rename_i filter hdecision
        refine ⟨some (Utf8.encode t), filter, Backend.sent_sendInput _ _ _, rfl, ?_⟩
        intro data hdata
        exact ⟨hidle, hloaded, (Option.mem_some.1 hdata).symm⟩
      · rename_i filter _ hdecision
        exact ⟨none, filter, (Backend.Silent.refl b).sent _, rfl, by simp⟩

@[simp] theorem mirror_disposed (s : Session σ) (t : Text) :
    (s.mirror t).disposed = s.disposed := by
  unfold mirror
  split <;> rfl

@[simp] theorem mirror_composition (s : Session σ) (t : Text) :
    (s.mirror t).composition = s.composition := by
  unfold mirror
  split <;> rfl

/-- Text that comes as data is submitted, and mirrored if a paste is going on. -/
theorem exists_sent_data (s : Session σ) (b : Backend) (t : Text) (now : Nat) :
    ∃ sent, b.Sent (s.data b t now).2.2 s.id sent ∧
      (s.data b t now).2.1.disposed = s.disposed ∧
      (s.data b t now).2.1.composition = s.composition ∧
      ∀ data ∈ sent, s.disposed = false ∧ s.composition = .idle ∧ s.isLoaded = true ∧
        data = Utf8.encode t := by
  unfold Session.data
  split
  · exact ⟨none, (Backend.Silent.refl b).sent _, rfl, rfl, by simp⟩
  · rename_i hlive
    obtain ⟨sent, filter, hsent, hsession, hadmits⟩ := exists_sent_submit s b t now
    have hadmits' : ∀ data ∈ sent, s.disposed = false ∧ s.composition = .idle ∧
        s.isLoaded = true ∧ data = Utf8.encode t :=
      fun data hdata => ⟨Bool.eq_false_iff.2 hlive, hadmits data hdata⟩
    dsimp only
    split <;> exact ⟨sent, hsent, by simp [hsession], by simp [hsession], hadmits'⟩

variable [Display σ]

/-- A call during which nothing is sent. -/
theorem sent_none {s : Session σ} {b b' : Backend} {c : SessionCall} {s' : Session σ}
    (h : b.Silent b') :
    ∃ sent, b.Sent b' s.id sent ∧ ∀ data ∈ sent, s.Admits c s' data :=
  ⟨none, h.sent _, by simp⟩

theorem exists_sent_write (s : Session σ) (b : Backend) (data : List UInt8) :
    ∃ sent, b.Sent (s.perform b (.write data)).2 s.id sent ∧
      ∀ d ∈ sent, s.Admits (.write data) (s.perform b (.write data)).1 d := by
  simp only [perform, write]
  split
  · exact sent_none (.refl b)
  · rename_i hguard
    simp only [Bool.or_eq_true, not_or, Bool.not_eq_true] at hguard
    refine ⟨some data, Backend.sent_sendInput _ _ _, ?_⟩
    intro d hd
    have hidle := idle_of_not_isComposing hguard.2
    exact
      { live := ⟨hguard.1.1, hguard.1.1⟩
        idle_after := hidle
        idle_before := fun _ => hidle
        loaded := by simp [SessionCall.isWrite]
        payload_eq := hd }

/-- A key that no chord claims is submitted as the text of its bytes, or sent as it is if they are
no text. -/
theorem exists_sent_typeKey (s : Session σ) (b : Backend) (e : KeyEvent) (now : Nat) :
    ∃ sent, b.Sent (s.typeKey b e now).2.2 s.id sent ∧
      (s.typeKey b e now).2.1.disposed = s.disposed ∧
      (s.typeKey b e now).2.1.composition = s.composition ∧
      ∀ data ∈ sent, s.composition = .idle ∧ s.isLoaded = true ∧ e.encode s.modes = some data := by
  have hnone : ∃ sent, b.Sent b s.id sent ∧ s.disposed = s.disposed ∧
      s.composition = s.composition ∧ ∀ data ∈ sent, s.composition = .idle ∧ s.isLoaded = true ∧
        e.encode s.modes = some data :=
    ⟨none, (Backend.Silent.refl b).sent _, rfl, rfl, by simp⟩
  unfold typeKey
  split
  · exact hnone
  · rename_i hidle
    have hidle := idle_of_not_isComposing (Bool.eq_false_iff.2 hidle)
    split
    · exact hnone
    · rename_i bytes hbytes
      split
      · rename_i t ht
        obtain ⟨sent, filter, hsent, hsession, hadmits⟩ := exists_sent_submit s b t now
        refine ⟨sent, hsent, ?_, ?_, ?_⟩
        · dsimp only
          split <;> simp [hsession]
        · dsimp only
          split <;> simp [hsession]
        · intro data hdata
          obtain ⟨-, hloaded, hdata⟩ := hadmits data hdata
          exact ⟨hidle, hloaded, by rw [hbytes, hdata, Utf8.encode_of_read? ht]⟩
      · split
        · rename_i hloaded
          refine ⟨some bytes, Backend.sent_sendInput _ _ _, rfl, rfl, ?_⟩
          intro data hdata
          exact ⟨hidle, hloaded, hbytes.trans hdata⟩
        · exact hnone

theorem exists_sent_key (s : Session σ) (b : Backend) (e : KeyEvent) (now : Nat) :
    ∃ sent, b.Sent (s.perform b (.key e now)).2 s.id sent ∧
      ∀ data ∈ sent, s.Admits (.key e now) (s.perform b (.key e now)).1 data := by
  simp only [perform, key]
  split
  · exact sent_none (.refl b)
  · rename_i hguard
    simp only [Bool.or_eq_true, not_or, Bool.not_eq_true] at hguard
    have hlive := hguard.1
    split
    · exact sent_none (.refl b)
    · rename_i action hroute
      split
      · exact sent_none (.refl b)
      · rename_i hopen
        simp only [Bool.or_eq_true, not_or, Bool.not_eq_true, Bool.not_eq_false'] at hopen
        refine ⟨some action.bytes, Backend.sent_sendInput _ _ _, ?_⟩
        intro data hdata
        have hidle := idle_of_not_isComposing hopen.1
        exact
          { live := ⟨hlive, hlive⟩
            idle_after := hidle
            idle_before := fun _ => hidle
            loaded := fun _ => by simpa using hopen.2
            payload_eq := by simpa [SessionCall.payload?, hroute] using hdata }
    · rename_i hroute
      obtain ⟨sent, hsent, hdisposed, hcomposition, hadmits⟩ := exists_sent_typeKey s b e now
      refine ⟨sent, hsent, ?_⟩
      intro data hdata
      obtain ⟨hidle, hloaded, hbytes⟩ := hadmits data hdata
      exact
        { live := ⟨hlive, hdisposed.trans hlive⟩
          idle_after := hcomposition.trans hidle
          idle_before := fun _ => hidle
          loaded := fun _ => hloaded
          payload_eq := by simpa [SessionCall.payload?, hroute] using hbytes }

theorem exists_sent_paste (s : Session σ) (b : Backend) (t : Text) (now : Nat) :
    ∃ sent, b.Sent (s.perform b (.paste t now)).2 s.id sent ∧
      ∀ data ∈ sent, s.Admits (.paste t now) (s.perform b (.paste t now)).1 data := by
  simp only [perform, paste]
  split
  · exact sent_none (.refl b)
  · obtain ⟨sent, hsent, hlive, hcomposition, hadmits⟩ :=
      exists_sent_data { s with pasteUntil := some (now + s.pasteWindow) } b t now
    refine ⟨sent, hsent, ?_⟩
    intro data hdata
    obtain ⟨hd, hidle, hloaded, hdata⟩ := hadmits data hdata
    exact
      { live := ⟨hd, by dsimp only; split <;> exact hlive.trans hd⟩
        idle_after := by dsimp only; split <;> exact hcomposition.trans hidle
        idle_before := fun _ => hidle
        loaded := fun _ => hloaded
        payload_eq := congrArg some hdata.symm }

theorem exists_sent_compositionEnd (s : Session σ) (b : Backend) (t : Text) (now : Nat) :
    ∃ sent, b.Sent (s.perform b (.compositionEnd t now)).2 s.id sent ∧
      ∀ data ∈ sent, s.Admits (.compositionEnd t now)
        (s.perform b (.compositionEnd t now)).1 data := by
  simp only [perform, compositionEnd]
  split
  · exact sent_none (.refl b)
  · rename_i hlive
    have hlive := Bool.eq_false_iff.2 hlive
    split
    · rename_i committed hcommitted
      obtain rfl : t = committed := by
        unfold Composition.committed at hcommitted
        split at hcommitted
        · cases hcommitted
        · exact Option.some.inj hcommitted
      obtain ⟨sent, filter, hsent, hsession, hadmits⟩ :=
        exists_sent_submit { s with composition := .idle } b t now
      refine ⟨sent, hsent, ?_⟩
      intro data hdata
      obtain ⟨-, hloaded, hdata⟩ := hadmits data hdata
      exact
        { live := ⟨hlive, by rw [hsession]; exact hlive⟩
          idle_after := by rw [hsession]
          idle_before := by simp [SessionCall.isCompositionEnd]
          loaded := fun _ => hloaded
          payload_eq := congrArg some hdata.symm }
    · exact sent_none (.refl b)

/-- A call sends at most one piece of input, which is its own, and only when it may. -/
theorem exists_sent_perform (s : Session σ) (b : Backend) (c : SessionCall) :
    ∃ sent, b.Sent (s.perform b c).2 s.id sent ∧
      ∀ data ∈ sent, s.Admits c (s.perform b c).1 data := by
  cases hinput : c.isInput with
  | false =>
    exact sent_none (perform_stable b.stable_silent s hinput
      (fun change _ b' h => h.trans (b'.silent_undergo change)) (.refl b))
  | true =>
    cases c with
    | write data => exact exists_sent_write s b data
    | key e now => exact exists_sent_key s b e now
    | data t now =>
      obtain ⟨sent, hsent, hlive, hcomposition, hadmits⟩ := exists_sent_data s b t now
      refine ⟨sent, hsent, ?_⟩
      intro data hdata
      obtain ⟨hd, hidle, hloaded, hdata⟩ := hadmits data hdata
      exact
        { live := ⟨hd, hlive.trans hd⟩
          idle_after := hcomposition.trans hidle
          idle_before := fun _ => hidle
          loaded := fun _ => hloaded
          payload_eq := congrArg some hdata.symm }
    | paste t now => exact exists_sent_paste s b t now
    | compositionEnd t now => exact exists_sent_compositionEnd s b t now
    | _ => cases hinput

/-! ### Compositions -/

/-- No input is taken: the session is disposed of, or a composition is going on. -/
def IsClosed (s : Session σ) : Prop := s.disposed = true ∨ s.composition.isComposing = true

theorem Admits.not_isClosed {s s' : Session σ} {c : SessionCall} {data : List UInt8}
    (h : s.Admits c s' data) (hc : c.isCompositionEnd = false) : ¬ s.IsClosed := by
  rintro (hd | hcomposing)
  · rw [h.live.1] at hd
    cases hd
  · rw [h.idle_before hc] at hcomposing
    cases hcomposing

/-- Once disposed of, always disposed of. -/
theorem perform_disposed {s : Session σ} (b : Backend) (c : SessionCall) (h : s.disposed = true) :
    (s.perform b c).1.disposed = true := by
  cases ho : c.isOutput with
  | true => exact (sameInput_perform s b ho).disposed_eq.trans h
  | false =>
    by_cases hd : c = .dispose
    · subst hd
      simp [perform, dispose, h]
    · exact (sameOutput_perform s b ho hd).disposed_eq.trans h

/-- A composition goes on until a call closes it. -/
theorem perform_isComposing {s : Session σ} (b : Backend) {c : SessionCall}
    (hc : c.closesComposition s.platform = false) (h : s.composition.isComposing = true) :
    (s.perform b c).1.composition.isComposing = true := by
  cases ho : c.isOutput with
  | true => rw [(sameInput_perform s b ho).composition_eq, h]
  | false =>
    cases c with
    | write data => exact h
    | key e now =>
      simp only [perform, key]
      split
      · exact h
      · rename_i hguard
        simp only [Bool.or_eq_true, not_or, Bool.not_eq_true, decide_eq_true_eq] at hguard
        split
        · rename_i hroute
          -- The input toggle is a call that closes it.
          simp [SessionCall.closesComposition, hroute, hguard.2] at hc
        · split <;> exact h
        · obtain ⟨-, -, -, hcomposition, -⟩ := exists_sent_typeKey s b e now
          rw [hcomposition, h]
    | data t now =>
      obtain ⟨-, -, -, hcomposition, -⟩ := exists_sent_data s b t now
      exact (congrArg Composition.isComposing hcomposition).trans h
    | paste t now =>
      simp only [perform, paste]
      split
      · exact h
      · obtain ⟨-, -, -, hcomposition, -⟩ :=
          exists_sent_data { s with pasteUntil := some (now + s.pasteWindow) } b t now
        dsimp only
        split <;> exact (congrArg Composition.isComposing hcomposition).trans h
    | compositionStart =>
      simp only [perform, compositionStart]
      split
      · exact h
      · rfl
    | compositionUpdate t =>
      simp only [perform, compositionUpdate]
      split
      · exact h
      · cases hs : s.composition with
        | idle => simp [hs, Composition.isComposing] at h
        | composing _ => rfl
    | setFilterEnabled | setMirroring => exact h
    | compositionEnd | focusLost | dispose => cases hc
    | load | processEvents | flush | pollTimers | requestSize | fit => cases ho

theorem IsClosed.perform {s : Session σ} (h : s.IsClosed) (b : Backend) {c : SessionCall}
    (hc : c.closesComposition s.platform = false) : (s.perform b c).1.IsClosed :=
  h.imp (perform_disposed b c) (perform_isComposing b hc)

omit [Display σ] in
theorem isClosed_compositionStart (s : Session σ) : s.compositionStart.IsClosed := by
  unfold compositionStart
  split
  · exact .inl ‹_›
  · exact .inr rfl

/-- While no input is taken nothing is sent, unless a composition ends. -/
theorem IsClosed.silent_perform {s : Session σ} (h : s.IsClosed) (b : Backend) {c : SessionCall}
    (hc : c.isCompositionEnd = false) : b.Silent (s.perform b c).2 := by
  obtain ⟨sent, hsent, hadmits⟩ := exists_sent_perform s b c
  cases sent with
  | none => exact hsent.silent
  | some data => exact absurd h ((hadmits data rfl).not_isClosed hc)

end Session

/-! ### Runs -/

namespace Host

variable {σ : Type} [Display σ]

/-- Does the event close a composition? -/
def closesComposition (platform : Platform) : HostEvent → Bool
  | .call c => c.closesComposition platform
  | .backend _ => false

/-- While no input is taken, an event that closes no composition sends nothing, and still no input
is taken. -/
theorem silent_advance {h : Host σ} (hclosed : h.session.IsClosed) {e : HostEvent}
    (he : closesComposition h.session.platform e = false) :
    (h.advance e).session.IsClosed ∧ h.backend.Silent (h.advance e).backend := by
  cases e with
  | call c =>
    refine ⟨hclosed.perform h.backend he, hclosed.silent_perform h.backend ?_⟩
    cases c with
    | compositionEnd => cases he
    | _ => rfl
  | backend change => exact ⟨hclosed, h.backend.silent_undergo change⟩

theorem silent_advanceAll {h : Host σ} (hclosed : h.session.IsClosed) (events : List HostEvent)
    (he : ∀ e ∈ events, closesComposition h.session.platform e = false) :
    h.backend.Silent (h.advanceAll events).backend := by
  induction events generalizing h with
  | nil => exact .refl _
  | cons e events ih =>
    obtain ⟨hclosed', hsilent⟩ := silent_advance hclosed (he e (by simp))
    refine hsilent.trans (ih hclosed' ?_)
    intro e' he'
    rw [show (h.advance e).session.platform = h.session.platform from (advanceAll_fixed h [e]).2]
    exact he e' (by simp [he'])

/-- The state that a run of a session reaches: whatever the call that comes next, it sends at most
one piece of input, its own, and only when it may.  From the start of a composition on nothing is
sent until an event closes it. -/
theorem input_gate (id : Text) (display : σ) (config : Config) (b : Backend)
    (before : List HostEvent) :
    let h := (start id display config b).advanceAll before
    (∀ c, ∃ sent, h.backend.Sent (h.perform c).backend id sent ∧
      ∀ data ∈ sent, h.session.Admits c (h.perform c).session data) ∧
    ∀ during : List HostEvent,
      (∀ e ∈ during, closesComposition config.platform.resolve e = false) →
      h.backend.Silent ((h.perform .compositionStart).advanceAll during).backend := by
  intro h
  obtain ⟨hid, hplatform⟩ : h.session.id = id ∧ h.session.platform = config.platform.resolve :=
    advanceAll_fixed (start id display config b) before
  constructor
  · intro c
    rw [← hid]
    exact h.session.exists_sent_perform h.backend c
  · intro during hduring
    have hclosed : (h.perform .compositionStart).session.IsClosed :=
      h.session.isClosed_compositionStart
    refine silent_advanceAll hclosed during ?_
    rwa [show (h.perform .compositionStart).session.platform = config.platform.resolve from
      (h.session.perform_fixed h.backend .compositionStart).2.trans hplatform]

/-- Text that is typed before a composition is sent; text typed meanwhile is not. -/
theorem input_gate_ab :
    let h := (start [] (Surface.new ⟨1, 4⟩) {} {}).advanceAll [.call (.load 0 [])]
    let during : List HostEvent :=
      [.call (.compositionUpdate ['b']), .call (.data ['b'] 1)]
    (∃ sent, h.backend.Sent (h.perform (.data ['a'] 1)).backend [] sent ∧ sent = some [0x61]) ∧
      (∀ e ∈ during, closesComposition (Config.platform {}).resolve e = false) ∧
      h.backend.Silent ((h.perform .compositionStart).advanceAll during).backend := by
  intro h during
  obtain ⟨hcall, hcomposition⟩ :=
    input_gate [] (Surface.new ⟨1, 4⟩) {} {} [.call (.load 0 [])]
  have hduring : ∀ e ∈ during, closesComposition (Config.platform {}).resolve e = false := by
    decide
  refine ⟨?_, hduring, hcomposition during hduring⟩
  obtain ⟨sent, hsent, -⟩ := hcall (.data ['a'] 1)
  refine ⟨sent, hsent, ?_⟩
  have hattempts : (sent.map (([] : Text), ·)).toList = [([], [0x61])] :=
    hsent.attempts.symm
  cases sent with
  | none => cases hattempts
  | some data => simpa using hattempts

end Host

end TermSession
