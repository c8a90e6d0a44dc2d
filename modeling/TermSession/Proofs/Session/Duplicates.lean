import TermSession.Proofs.Input.FilterHistory
import TermSession.Proofs.Session.InputGate

/-!
# What the duplicate filter remembers

Typed, pasted and committed text passes the filter on its way to the shell, and the filter drops
what repeats the last text it let through.  The record is made before the text is sent, so it does
not know whether sending failed.

* `Session.offered?`: what a call has for the filter; `Session.perform_offered`: what becomes of it;
* `Host.Remembers`: in a run a text was let through, and nothing came between;
* `Host.dropped_iff_duplicates`: what is dropped, and after what;
* `Host.committed_once`: the text that a composition commits.
-/

namespace TermSession

/-! ### What a call has for the filter -/

variable {σ : Type}

/-- The text that a call brings for the filter, and when.  Bytes that are sent as they are and
those of a chord's action do not pass it. -/
def SessionCall.typed? [Display σ] (s : Session σ) : SessionCall → Option Passed
  | data t now | paste t now | compositionEnd t now => some ⟨t, now⟩
  | key e now =>
    match e.route s.platform with
    | .unhandled => ((e.encode s.modes).bind Utf8.read?).map (⟨·, now⟩)
    | .mapped _ | .inputToggle => none
  | _ => none

namespace Session

/-- What becomes of the filter and the backend when the filter is offered a text. -/
def pass (s : Session σ) (b : Backend) (p : Passed) : DuplicateFilter × Backend :=
  if s.filter.drops p then (s.filter, b)
  else (s.filter.remember p, (b.sendInput s.id (Utf8.encode p.text)).2)

/-- May text be offered?  None is before loading or during a composition. -/
def isOpen (s : Session σ) : Bool := s.isLoaded && !s.composition.isComposing

/-- What becomes of them when a text is submitted.  Nothing does if there is nothing to the text or
the session takes none. -/
def offer (s : Session σ) (b : Backend) (p : Passed) : DuplicateFilter × Backend :=
  if s.isOpen && !p.text.isEmpty then s.pass b p else (s.filter, b)

theorem submit_eq_offer (s : Session σ) (b : Backend) (t : Text) (now : Nat) :
    (s.submit b t now).2 =
      ({ s with filter := (s.offer b ⟨t, now⟩).1 }, (s.offer b ⟨t, now⟩).2) := by
  have hcheck := s.filter.check_eq ⟨t, now⟩ s.composition
  unfold submit offer isOpen pass
  rw [hcheck]
  cases t.isEmpty <;> cases s.isLoaded <;> cases s.composition.isComposing <;>
    cases s.filter.drops ⟨t, now⟩ <;> rfl

/-- The session that a call's text comes to: the end of a composition first closes it. -/
def facing (s : Session σ) (c : SessionCall) : Session σ :=
  if c.isCompositionEnd then { s with composition := .idle } else s

variable [Display σ]

/-- The text that a call offers to the filter: what it brings, if there is anything to it and the
session takes input. -/
def offered? (s : Session σ) (c : SessionCall) : Option Passed :=
  if s.disposed || !(s.facing c).isOpen then none
  else (c.typed? s).filter (!·.text.isEmpty)

/-- The text that a call gets past the filter. -/
def passed? (s : Session σ) (c : SessionCall) : Option Passed :=
  (s.offered? c).filter (!s.filter.drops ·)

/-- Is the filter on after a call? -/
def switchedOn (s : Session σ) : SessionCall → Bool
  | .setFilterEnabled on => on
  | _ => s.filter.enabled

/-- Does the filter forget in a call what it has let through?  It does when it is switched on and
when a composition is given up. -/
def forgets (s : Session σ) : SessionCall → Bool
  | .setFilterEnabled on => on
  | .focusLost | .dispose => !s.disposed
  | .key e _ => !s.disposed && e.motion ≠ .release && e.route s.platform = .inputToggle
  | _ => false

theorem offered?_eq_some {s : Session σ} {c : SessionCall} {p : Passed} :
    s.offered? c = some p ↔ s.disposed = false ∧ (s.facing c).isOpen = true ∧
      c.typed? s = some p ∧ p.text ≠ [] := by
  unfold offered?
  split
  · rename_i hguard
    simp only [Bool.or_eq_true, Bool.not_eq_true'] at hguard
    constructor
    · intro h
      cases h
    · rintro ⟨hlive, hopen, -, -⟩
      rw [hlive, hopen] at hguard
      simp at hguard
  · rename_i hguard
    simp only [Bool.or_eq_true, Bool.not_eq_true', not_or, Bool.not_eq_true, Bool.not_eq_false]
      at hguard
    simp [hguard, Option.filter_eq_some_iff]

/-- What a composition commits is offered also if another one was going on. -/
theorem offered?_compositionEnd {s : Session σ} (hlive : s.disposed = false)
    (hloaded : s.isLoaded = true) {t : Text} (ht : t ≠ []) (now : Nat) :
    s.offered? (.compositionEnd t now) = some ⟨t, now⟩ := by
  have hopen : (s.facing (.compositionEnd t now)).isOpen = true := by
    rw [← hloaded]
    exact Bool.and_true _
  exact offered?_eq_some.2 ⟨hlive, hopen, rfl, ht⟩

theorem passed?_eq_some {s : Session σ} {c : SessionCall} {p : Passed} :
    s.passed? c = some p ↔ s.offered? c = some p ∧ s.filter.drops p = false := by
  simp [passed?, Option.filter_eq_some_iff]

/-! ### What a call does to the filter -/

omit [Display σ] in
@[simp] theorem mirror_filter (s : Session σ) (t : Text) : (s.mirror t).filter = s.filter := by
  unfold mirror
  split <;> rfl

omit [Display σ] in
theorem data_eq_offer {s : Session σ} (hlive : s.disposed = false) (b : Backend) (t : Text)
    (now : Nat) :
    ((s.data b t now).2.1.filter, (s.data b t now).2.2) = s.offer b ⟨t, now⟩ := by
  have hsubmit := submit_eq_offer s b t now
  unfold Session.data
  rw [if_neg (by simp [hlive])]
  dsimp only
  split <;> simp [hsubmit]

omit [Display σ] in
theorem paste_eq_offer {s : Session σ} (hlive : s.disposed = false) (b : Backend) (t : Text)
    (now : Nat) :
    ((s.paste b t now).2.1.filter, (s.paste b t now).2.2) = s.offer b ⟨t, now⟩ := by
  have hdata := data_eq_offer (s := { s with pasteUntil := some (now + s.pasteWindow) }) hlive b t
    now
  unfold paste
  rw [if_neg (by simp [hlive])]
  dsimp only
  split <;> exact hdata

theorem typeKey_eq_offer {s : Session σ} (b : Backend) {e : KeyEvent} {t : Text}
    (h : (e.encode s.modes).bind Utf8.read? = some t) (now : Nat) :
    ((s.typeKey b e now).2.1.filter, (s.typeKey b e now).2.2) = s.offer b ⟨t, now⟩ := by
  obtain ⟨bytes, hbytes, ht⟩ := Option.bind_eq_some_iff.1 h
  have hsubmit := submit_eq_offer s b t now
  unfold typeKey
  split
  · rename_i hcomposing
    simp [offer, isOpen, hcomposing]
  · simp only [hbytes, ht]
    split <;> simp [hsubmit]

theorem typeKey_filter {s : Session σ} {e : KeyEvent}
    (h : (e.encode s.modes).bind Utf8.read? = none) (b : Backend) (now : Nat) :
    (s.typeKey b e now).2.1.filter = s.filter := by
  unfold typeKey
  split
  · rfl
  · split
    · rfl
    · rename_i bytes hbytes
      rw [hbytes, Option.bind_some] at h
      rw [h]
      dsimp only
      split <;> rfl

omit [Display σ] in
theorem compositionEnd_eq_offer {s : Session σ} (hlive : s.disposed = false) (b : Backend)
    (t : Text) (now : Nat) :
    ((s.compositionEnd b t now).2.1.filter, (s.compositionEnd b t now).2.2) =
      { s with composition := .idle }.offer b ⟨t, now⟩ := by
  unfold compositionEnd Composition.committed
  rw [if_neg (by simp [hlive])]
  cases t with
  | nil => simp [offer]
  | cons c t => simp [submit_eq_offer]

omit [Display σ] in
theorem compositionEnd_idle {s : Session σ} (hlive : s.disposed = false) (b : Backend) (t : Text)
    (now : Nat) : (s.compositionEnd b t now).2.1.composition = .idle := by
  unfold compositionEnd
  rw [if_neg (by simp [hlive])]
  dsimp only
  split
  · rw [submit_eq_offer]
  · rfl

/-- A call that brings a text offers it, as the session is when the text comes. -/
theorem perform_typed {s : Session σ} (hlive : s.disposed = false) (b : Backend) {c : SessionCall}
    {p : Passed} (hp : c.typed? s = some p) :
    ((s.perform b c).1.filter, (s.perform b c).2) = (s.facing c).offer b p := by
  cases c with
  | data t now =>
    obtain rfl := Option.some.inj hp
    exact data_eq_offer hlive b t now
  | paste t now =>
    obtain rfl := Option.some.inj hp
    exact paste_eq_offer hlive b t now
  | compositionEnd t now =>
    obtain rfl := Option.some.inj hp
    exact compositionEnd_eq_offer hlive b t now
  | key e now =>
    simp only [SessionCall.typed?] at hp
    split at hp
    · rename_i hroute
      obtain ⟨t, ht, rfl⟩ := Option.map_eq_some_iff.1 hp
      have hmotion : e.motion ≠ .release := by
        intro hm
        simp [KeyEvent.encode, hm] at ht
      simp only [perform, key, hlive, hmotion, hroute]
      exact typeKey_eq_offer b ht now
    · cases hp
    · cases hp
  | _ => cases hp

/-- A call that brings no text may have the filter forget, and may switch it. -/
theorem perform_untyped {s : Session σ} (b : Backend) {c : SessionCall}
    (hc : c.typed? s = none ∨ s.disposed = true) :
    (s.perform b c).1.filter =
      { s.filter with
        enabled := s.switchedOn c
        last := if s.forgets c then none else s.filter.last } := by
  cases ho : c.isOutput with
  | true =>
    rw [(sameInput_perform s b ho).filter_eq]
    cases c <;> first | rfl | cases ho
  | false =>
    cases c with
    | data t now | paste t now | compositionEnd t now =>
      have hdisposed : s.disposed = true := hc.resolve_left (by simp [SessionCall.typed?])
      simp [perform, Session.data, paste, compositionEnd, hdisposed, forgets, switchedOn]
    | key e now =>
      simp only [perform, key, forgets, switchedOn]
      split
      · rename_i hguard
        rcases Bool.or_eq_true_iff.1 hguard with hdisposed | hmotion
        · simp [hdisposed]
        · simp [of_decide_eq_true hmotion]
      · rename_i hguard
        simp only [Bool.or_eq_true, not_or, Bool.not_eq_true, decide_eq_true_eq] at hguard
        split
        · rename_i hroute
          simp [hroute, hguard, forceIdle, DuplicateFilter.reset]
        · rename_i hroute
          split <;> simp [hroute]
        · rename_i hroute
          have htext : (e.encode s.modes).bind Utf8.read? = none := by
            simpa [SessionCall.typed?, hroute, hguard.1] using hc
          simp [typeKey_filter htext, hroute]
    | dispose | focusLost =>
      cases hd : s.disposed <;>
        simp [perform, dispose, focusLost, forceIdle, forgets, switchedOn, hd,
          DuplicateFilter.reset]
    | compositionStart | compositionUpdate =>
      simp only [perform, compositionStart, compositionUpdate]
      split <;> rfl
    | setFilterEnabled on => cases on <;> rfl
    | write | setMirroring => rfl
    | load | processEvents | flush | pollTimers | requestSize | fit => cases ho

/-- A text that is offered passes, or is dropped. -/
theorem perform_offered {s : Session σ} (b : Backend) {c : SessionCall} {p : Passed}
    (h : s.offered? c = some p) :
    ((s.perform b c).1.filter, (s.perform b c).2) = s.pass b p := by
  obtain ⟨hlive, hopen, htyped, hne⟩ := offered?_eq_some.1 h
  have hfacing : (s.facing c).pass b p = s.pass b p := by
    unfold facing
    split <;> rfl
  rw [perform_typed hlive b htyped, ← hfacing]
  simp [offer, hopen, hne]

theorem perform_passed {s : Session σ} (b : Backend) {c : SessionCall} {p : Passed}
    (h : s.passed? c = some p) :
    (s.perform b c).1.filter = s.filter.remember p ∧
      (s.perform b c).2 = (b.sendInput s.id (Utf8.encode p.text)).2 := by
  obtain ⟨hoffered, hdrops⟩ := passed?_eq_some.1 h
  have hpass := perform_offered b hoffered
  rw [pass, hdrops] at hpass
  exact Prod.mk.inj hpass

theorem about_typed {s : Session σ} {c : SessionCall} {p : Passed} (h : c.typed? s = some p) :
    s.forgets c = false ∧ s.switchedOn c = s.filter.enabled := by
  cases c with
  | key e now =>
    refine ⟨?_, rfl⟩
    have hroute : e.route s.platform ≠ .inputToggle := by
      intro hroute
      simp [SessionCall.typed?, hroute] at h
    simp [forgets, hroute]
  | _ => first | exact ⟨rfl, rfl⟩ | cases h

theorem perform_not_passed {s : Session σ} (b : Backend) {c : SessionCall}
    (h : s.passed? c = none) :
    (s.perform b c).1.filter =
      { s.filter with
        enabled := s.switchedOn c
        last := if s.forgets c then none else s.filter.last } := by
  cases hc : c.typed? s with
  | none => exact perform_untyped b (.inl hc)
  | some p =>
    cases hd : s.disposed with
    | true => exact perform_untyped b (.inr hd)
    | false =>
      obtain ⟨hforgets, hon⟩ := about_typed hc
      rw [hforgets, hon]
      cases hp : s.offered? c with
      | some p' =>
        have hdrops : s.filter.drops p' = true := by simpa [passed?, hp] using h
        have hpass := perform_offered b hp
        rw [pass, if_pos hdrops] at hpass
        exact (Prod.mk.inj hpass).1
      | none =>
        have hoffer := perform_typed hd b hc
        have hclosed : ((s.facing c).isOpen && !p.text.isEmpty) = false := by
          by_contra hopen
          have hoffered := (offered?_eq_some (c := c) (p := p)).2
            ⟨hd, by simp_all, hc, by simp_all⟩
          simp [hp] at hoffered
        rw [offer, hclosed] at hoffer
        refine (Prod.mk.inj hoffer).1.trans ?_
        unfold facing
        split <;> rfl

theorem perform_settings (s : Session σ) (b : Backend) (c : SessionCall) :
    (s.perform b c).1.filter.settings = s.filter.settings := by
  cases h : s.passed? c with
  | none => rw [perform_not_passed b h]
  | some p => rw [(perform_passed b h).1, DuplicateFilter.remember_settings]

theorem perform_enabled (s : Session σ) (b : Backend) (c : SessionCall) :
    (s.perform b c).1.filter.enabled = s.switchedOn c := by
  cases h : s.passed? c with
  | none => rw [perform_not_passed b h]
  | some p =>
    have htyped := (offered?_eq_some.1 (passed?_eq_some.1 h).1).2.2.1
    rw [(perform_passed b h).1, DuplicateFilter.remember_enabled, (about_typed htyped).2]

end Session

/-! ### Runs -/

namespace Host

variable [Display σ]

/-- The text that gets past the filter in an event. -/
def passed? (h : Host σ) : HostEvent → Option Passed
  | .call c => h.session.passed? c
  | .backend _ => none

/-- Does the filter forget in an event what it has let through? -/
def forgets (h : Host σ) : HostEvent → Bool
  | .call c => h.session.forgets c
  | .backend _ => false

/-- In a run the filter lets nothing through and forgets nothing. -/
def Quiet (h : Host σ) : List HostEvent → Prop
  | [] => True
  | e :: events => (h.passed? e = none ∧ h.forgets e = false) ∧ (h.advance e).Quiet events

/-- In the first event of a run a text gets past the filter, on its way to the shell; in those that
follow the filter lets nothing through and forgets nothing. -/
structure LastPassed (h : Host σ) (e : HostEvent) (since : List HostEvent) (q : Passed) : Prop where
  passed : h.passed? e = some q
  sent : h.backend.Sent (h.advance e).backend h.session.id (some (Utf8.encode q.text))
  quiet : (h.advance e).Quiet since

/-- The last text that got past the filter in a run, if the filter has not forgotten it. -/
def Remembers (h : Host σ) (events : List HostEvent) (q : Passed) : Prop :=
  ∃ before e since, events = before ++ e :: since ∧ (h.advanceAll before).LastPassed e since q

theorem lastPassed_iff {h : Host σ} {e : HostEvent} {since : List HostEvent} {q : Passed} :
    h.LastPassed e since q ↔ h.passed? e = some q ∧ (h.advance e).Quiet since := by
  constructor
  · intro l
    exact ⟨l.passed, l.quiet⟩
  · rintro ⟨hpassed, hquiet⟩
    refine ⟨hpassed, ?_, hquiet⟩
    cases e with
    | call c =>
      have hsend := (Session.perform_passed h.backend hpassed).2
      change h.backend.Sent (h.session.perform h.backend c).2 _ _
      rw [hsend]
      exact Backend.sent_sendInput _ _ _
    | backend change => cases hpassed

theorem remembers_cons {h : Host σ} {e : HostEvent} {events : List HostEvent} {q : Passed} :
    h.Remembers (e :: events) q ↔ h.LastPassed e events q ∨ (h.advance e).Remembers events q := by
  constructor
  · rintro ⟨before, e', since, hevents, hlast⟩
    cases before with
    | nil =>
      obtain ⟨rfl, rfl⟩ := List.cons.inj hevents
      exact .inl hlast
    | cons d before =>
      obtain ⟨rfl, rfl⟩ := List.cons.inj hevents
      exact .inr ⟨before, e', since, rfl, hlast⟩
  · rintro (hlast | ⟨before, e', since, rfl, hlast⟩)
    · exact ⟨[], e, events, rfl, hlast⟩
    · exact ⟨e :: before, e', since, rfl, hlast⟩

/-- What the filter remembers after an event, if it is on then. -/
theorem last_advance {h : Host σ} {e : HostEvent}
    (hon : (h.advance e).session.filter.enabled = true) (q : Passed) :
    (h.advance e).session.filter.last = some q ↔
      h.passed? e = some q ∨
        (h.passed? e = none ∧ h.forgets e = false) ∧ h.session.filter.last = some q := by
  cases e with
  | backend change => simp [passed?, forgets, advance]
  | call c =>
    change (h.session.perform h.backend c).1.filter.enabled = true at hon
    change (h.session.perform h.backend c).1.filter.last = some q ↔
      h.session.passed? c = some q ∨
        (h.session.passed? c = none ∧ h.session.forgets c = false) ∧ h.session.filter.last = some q
    cases hp : h.session.passed? c with
    | some p =>
      have hfilter := (Session.perform_passed h.backend hp).1
      rw [hfilter, DuplicateFilter.remember_enabled] at hon
      rw [hfilter, DuplicateFilter.remember_last hon]
      simp
    | none =>
      rw [Session.perform_not_passed h.backend hp]
      cases h.session.forgets c <;> simp

theorem enabled_of_advance {h : Host σ} {e : HostEvent} (hforgets : h.forgets e = false)
    (hon : (h.advance e).session.filter.enabled = true) : h.session.filter.enabled = true := by
  cases e with
  | backend change => exact hon
  | call c =>
    change (h.session.perform h.backend c).1.filter.enabled = true at hon
    rw [Session.perform_enabled] at hon
    cases c with
    | setFilterEnabled on =>
      -- Switching on has the filter forget.
      obtain rfl : on = true := hon
      cases hforgets
    | _ => exact hon

theorem Quiet.enabled {h : Host σ} {events : List HostEvent} (hquiet : h.Quiet events)
    (hon : (h.advanceAll events).session.filter.enabled = true) :
    h.session.filter.enabled = true := by
  induction events generalizing h with
  | nil => exact hon
  | cons e events ih => exact enabled_of_advance hquiet.1.2 (ih hquiet.2 hon)

/-- A filter that is on remembers the last text that got past it in the run, or what it remembered
before if the run was quiet. -/
theorem last_eq_some_iff {h : Host σ} {events : List HostEvent}
    (hon : (h.advanceAll events).session.filter.enabled = true) (q : Passed) :
    (h.advanceAll events).session.filter.last = some q ↔
      h.Remembers events q ∨ h.session.filter.last = some q ∧ h.Quiet events := by
  induction events generalizing h with
  | nil => simp [Remembers, Quiet]
  | cons e events ih =>
    rw [advanceAll_cons, ih hon, remembers_cons, lastPassed_iff]
    by_cases hquiet : (h.advance e).Quiet events
    · rw [last_advance (hquiet.enabled hon)]
      simp only [Quiet]
      tauto
    · simp only [Quiet]
      tauto

theorem advanceAll_settings (h : Host σ) (events : List HostEvent) :
    (h.advanceAll events).session.filter.settings = h.session.filter.settings := by
  induction events generalizing h with
  | nil => rfl
  | cons e events ih =>
    refine (ih _).trans ?_
    cases e with
    | call c => exact h.session.perform_settings h.backend c
    | backend change => rfl

/-- After a run a text is a duplicate: the filter is on, and the text that it remembers is the same,
from less than the text's window ago. -/
def Duplicates (h : Host σ) (events : List HostEvent) (p : Passed) : Prop :=
  (h.advanceAll events).session.filter.enabled = true ∧
    ∃ q, h.Remembers events q ∧ h.session.filter.settings.Repeats q p

theorem drops_iff (id : Text) (display : σ) (config : Config) (b : Backend)
    (events : List HostEvent) (p : Passed) :
    ((start id display config b).advanceAll events).session.filter.drops p = true ↔
      (start id display config b).Duplicates events p := by
  rw [DuplicateFilter.drops_iff, advanceAll_settings]
  refine and_congr_right fun hon => exists_congr fun q => and_congr_left fun _ => ?_
  rw [last_eq_some_iff hon q]
  -- A new session's filter remembers nothing.
  refine or_iff_left ?_
  rintro ⟨hlast, -⟩
  cases hlast

/-- Whatever the run: a text that a call offers to the filter is sent, once and as a whole, or it is
dropped; and it is dropped if and only if it is a duplicate.  What it repeats was on its way to the
shell, and was delivered unless sending failed just then. -/
theorem dropped_iff_duplicates (id : Text) (display : σ) (config : Config) (b : Backend)
    (events : List HostEvent) (c : SessionCall) (p : Passed) :
    let h₀ := start id display config b
    let h := h₀.advanceAll events
    h.session.offered? c = some p →
      ∃ sent, h.backend.Sent (h.perform c).backend id sent ∧
        (sent = none ∧ h₀.Duplicates events p ∨
          sent = some (Utf8.encode p.text) ∧ ¬ h₀.Duplicates events p) := by
  intro h₀ h hoffered
  have hid : h.session.id = id := (advanceAll_fixed h₀ events).1
  have hpass : (h.perform c).backend = (h.session.pass h.backend p).2 :=
    congrArg Prod.snd (Session.perform_offered h.backend hoffered)
  have hdrops := drops_iff id display config b events p
  rw [hpass, Session.pass]
  split
  · rename_i hd
    exact ⟨none, (Backend.Silent.refl _).sent id, .inl ⟨rfl, hdrops.1 hd⟩⟩
  · rename_i hd
    refine ⟨some (Utf8.encode p.text), ?_, .inr ⟨rfl, fun hdup => hd (hdrops.2 hdup)⟩⟩
    rw [← hid]
    exact Backend.sent_sendInput _ _ _

/-- A text is typed twice in a row, and once more after another one. -/
theorem dropped_iff_duplicates_aba :
    let h₀ := start [] (Surface.new ⟨1, 4⟩) {} {}
    let events : List HostEvent := [.call (.load 0 []), .call (.data ['a'] 0)]
    h₀.Duplicates events ⟨['a'], 10⟩ ∧
      ¬ h₀.Duplicates (events ++ [.call (.data ['b'] 10)]) ⟨['a'], 20⟩ := by
  intro h₀ events
  constructor
  · obtain ⟨sent, hsent, hcases⟩ :=
      dropped_iff_duplicates [] (Surface.new ⟨1, 4⟩) {} {} events (.data ['a'] 10) ⟨['a'], 10⟩
        (by decide)
    rcases hcases with ⟨-, hdup⟩ | ⟨rfl, -⟩
    · exact hdup
    · exact absurd hsent.attempts (by decide)
  · obtain ⟨sent, hsent, hcases⟩ :=
      dropped_iff_duplicates [] (Surface.new ⟨1, 4⟩) {} {}
        (events ++ [.call (.data ['b'] 10)]) (.data ['a'] 20) ⟨['a'], 20⟩ (by decide)
    rcases hcases with ⟨rfl, -⟩ | ⟨-, hnew⟩
    · exact absurd hsent.attempts (by decide)
    · exact hnew

/-- The record is made before the text is sent.  The only time that this text got past the filter
sending failed, and it is dropped though sending works again: the shell never gets it. -/
theorem dropped_after_failure :
    let h := (start [] (Surface.new ⟨1, 4⟩) {} {}).advanceAll
      [.call (.load 0 []), .backend (.fail .sendInput), .call (.data ['a'] 0),
        .backend (.recover .sendInput)]
    h.session.offered? (.data ['a'] 10) = some ⟨['a'], 10⟩ ∧
      h.backend.fails .sendInput = false ∧ h.backend.inputs.toList = [] ∧
      (h.perform (.data ['a'] 10)).backend.inputAttempts = h.backend.inputAttempts ∧
      (h.perform (.data ['a'] 10)).backend.inputs.toList = [] := by
  decide

/-! ### Commits -/

/-- Whatever the run: when a composition ends with a text in a session that takes input, none is
going on any more, and if sending works the text is sent, once and as a whole, unless it is a
duplicate. -/
theorem committed_once (id : Text) (display : σ) (config : Config) (b : Backend)
    (events : List HostEvent) (t : Text) (now : Nat) :
    let h₀ := start id display config b
    let h := h₀.advanceAll events
    let h' := h.perform (.compositionEnd t now)
    h.session.disposed = false → h.session.isLoaded = true → h.backend.fails .sendInput = false →
    t ≠ [] →
      h'.session.composition = .idle ∧
        (h₀.Duplicates events ⟨t, now⟩ ∧ h.backend.Silent h'.backend ∨
          ¬ h₀.Duplicates events ⟨t, now⟩ ∧
            h'.backend.inputAttempts.toList =
              h.backend.inputAttempts.toList ++ [(id, Utf8.encode t)] ∧
            h'.backend.inputs.toList = h.backend.inputs.toList ++ [(id, Utf8.encode t)]) := by
  intro h₀ h h' hlive hloaded hsends hne
  have hid : h.session.id = id := (advanceAll_fixed h₀ events).1
  have hoffered := Session.offered?_compositionEnd hlive hloaded hne now
  have hpass : h'.backend = (h.session.pass h.backend ⟨t, now⟩).2 :=
    congrArg Prod.snd (Session.perform_offered h.backend hoffered)
  have hdrops := drops_iff id display config b events ⟨t, now⟩
  refine ⟨Session.compositionEnd_idle hlive h.backend t now, ?_⟩
  rw [hpass, Session.pass]
  split
  · rename_i hd
    exact .inl ⟨hdrops.1 hd, .refl _⟩
  · rename_i hd
    have hsent := Backend.sent_sendInput h.backend h.session.id (Utf8.encode t)
    refine .inr ⟨fun hdup => hd (hdrops.2 hdup), ?_, ?_⟩
    · simpa [hid] using hsent.attempts
    · simpa [hid, hsends] using hsent.inputs

/-- A text is typed, and another one composed and committed right after it. -/
theorem committed_once_ab :
    let events : List HostEvent :=
      [.call (.load 0 []), .call (.data ['a'] 0), .call .compositionStart]
    let h := (start [] (Surface.new ⟨1, 4⟩) {} {}).advanceAll events
    let h' := h.perform (.compositionEnd ['b'] 1)
    h'.session.composition = .idle ∧
      h'.backend.inputs.toList = [([], [0x61]), ([], [0x62])] := by
  intro events h h'
  obtain ⟨hidle, hcases⟩ :=
    committed_once [] (Surface.new ⟨1, 4⟩) {} {} events ['b'] 1 (by decide) (by decide) (by decide)
      (by decide)
  refine ⟨hidle, ?_⟩
  rcases hcases with ⟨-, hsilent⟩ | ⟨-, -, hinputs⟩
  · exact absurd hsilent.attempts (by decide)
  · exact hinputs

/-- A text is typed, and the same one composed and committed soon after it: the commit is lost. -/
theorem committed_text_lost :
    let h := (start [] (Surface.new ⟨1, 4⟩) {} {}).advanceAll
      [.call (.load 0 []), .call (.data ['a'] 0), .call .compositionStart]
    let h' := h.perform (.compositionEnd ['a'] 100)
    h.session.disposed = false ∧ h.session.isLoaded = true ∧
      h.backend.fails .sendInput = false ∧ h'.session.composition = .idle ∧
      h'.backend.inputAttempts = h.backend.inputAttempts ∧
      h'.backend.inputs = h.backend.inputs := by
  decide

end Host

end TermSession
