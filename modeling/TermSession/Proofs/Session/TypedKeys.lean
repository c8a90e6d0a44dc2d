import TermSession.Proofs.Session.Duplicates
import TermSession.Proofs.Session.Mirroring

/-!
# Typed keys

A key that no chord claims has a text for the shell, or nothing.  So there is one way only for it to
the shell: its text is put to the duplicate filter, and if that lets it through it is sent and
handed on to other sessions.

* `Session.typed?`: the text of a key;
* `Session.passing?`, `Session.Offers`: what becomes of a text that is put to the filter;
* `Session.key_filtered`: of a key that no chord claims, exactly this.
-/

namespace TermSession

namespace Backend

theorem isOk_sendInput (b : Backend) (session : Text) (data : List UInt8) :
    (b.sendInput session data).1.isOk = !b.fails .sendInput := by
  have hfails : ({ b with inputAttempts := b.inputAttempts.add (session, data) } : Backend).fails
      .sendInput = b.fails .sendInput := rfl
  unfold sendInput
  simp only [hfails]
  cases b.fails .sendInput <;> rfl

end Backend

namespace Session

variable {σ : Type}

/-! ### Putting a text to the filter -/

/-- The bytes of a text that is sent to a loaded session and that the filter lets through. -/
def passing? (s : Session σ) (t : Text) (now : Nat) : Option (List UInt8) :=
  if s.isLoaded ∧ (s.filter.check t now s.composition).1 = .forward then some (Utf8.encode t)
  else none

/-- A text is put to the filter in a call that says whether it was sent and takes session and
backend to `s'` and `b'`. -/
structure Offers (s : Session σ) (b : Backend) (t : Text) (now : Nat) (sent : Bool)
    (s' : Session σ) (b' : Backend) : Prop where
  /-- Only what passes the filter is to be sent. -/
  passes : b.Sent b' s.id (s.passing? t now)
  sent_eq : sent = ((s.passing? t now).isSome && !b.fails .sendInput)
  /-- What the filter has let through it remembers. -/
  filter_eq : s'.filter = if s.isLoaded then (s.filter.check t now s.composition).2 else s.filter
  /-- What was sent is handed on. -/
  mirrored_eq : s'.mirrored.toList = s.mirrored.toList ++ if sent && s.mirroring then [t] else []

theorem mirror_mirrored (s : Session σ) (t : Text) :
    (s.mirror t).mirrored.toList = s.mirrored.toList ++ if s.mirroring then [t] else [] := by
  unfold mirror
  split <;> simp_all

/-- A text that is submitted and handed on is put to the filter. -/
theorem offers_submitShared (s : Session σ) (b : Backend) {t : Text} (ht : t ≠ []) (now : Nat) :
    s.Offers b t now (s.submitShared b t now).1 (s.submitShared b t now).2.1
      (s.submitShared b t now).2.2 := by
  have hempty : t.isEmpty = false := List.isEmpty_eq_false_iff.2 ht
  cases hloaded : s.isLoaded with
  | false =>
    have hnone : s.submitShared b t now = (false, s, b) := by
      simp [submitShared, submit, hloaded]
    have hpassing : s.passing? t now = none := by simp [passing?, hloaded]
    rw [hnone]
    exact ⟨hpassing ▸ (Backend.Silent.refl b).sent s.id, by simp [hpassing], by simp [hloaded],
      by simp⟩
  | true =>
    cases hcheck : s.filter.check t now s.composition with
    | mk decision filter =>
      cases decision with
      | forward =>
        -- The filter has taken the text in already, whether or not the backend then accepts it.
        have hpassing : s.passing? t now = some (Utf8.encode t) := by
          simp [passing?, hloaded, hcheck]
        have hsent := b.isOk_sendInput s.id (Utf8.encode t)
        have hshared : s.submitShared b t now = (!b.fails .sendInput,
            if !b.fails .sendInput then { s with filter }.mirror t else { s with filter },
            (b.sendInput s.id (Utf8.encode t)).2) := by
          simp [submitShared, submit, send, hempty, hloaded, hcheck, hsent]
        rw [hshared]
        refine ⟨hpassing ▸ b.sent_sendInput s.id _, by simp [hpassing], ?_, ?_⟩
        · cases b.fails .sendInput <;> simp [hloaded, hcheck]
        · cases b.fails .sendInput <;> simp [mirror_mirrored]
      | dropComposing | dropDuplicate =>
        have hpassing : s.passing? t now = none := by simp [passing?, hcheck]
        have hdropped : s.submitShared b t now = (false, { s with filter }, b) := by
          simp [submitShared, submit, hempty, hloaded, hcheck]
        rw [hdropped]
        exact ⟨hpassing ▸ (Backend.Silent.refl b).sent s.id, by simp [hpassing],
          by simp [hloaded, hcheck], by simp⟩

/-! ### Keys -/

variable [Display σ]

/-- The text of a key that no chord claims.  It has none in a session that is disposed of, during a
composition, when it is released, and if it means nothing to a terminal. -/
def typed? (s : Session σ) (e : KeyEvent) : Option Text :=
  if s.disposed || e.motion = .release || s.composition.isComposing then none
  else (e.encode s.modes).bind Utf8.read?

/-- Bytes that are no text never come up. -/
theorem typeKey_eq (s : Session σ) (b : Backend) (e : KeyEvent) (now : Nat) :
    s.typeKey b e now =
      match (if s.composition.isComposing then none else (e.encode s.modes).bind Utf8.read?) with
      | some t => s.submitShared b t now
      | none => (false, s, b) := by
  unfold typeKey
  split
  · rfl
  · cases hbytes : e.encode s.modes with
    | none => rfl
    | some bytes =>
      obtain ⟨t, -, hread, -⟩ := KeyEvent.exists_text hbytes
      simp only [Option.bind_some, hread]
      rfl

theorem key_eq {s : Session σ} {e : KeyEvent} (h : e.route s.platform = .unhandled) (b : Backend)
    (now : Nat) :
    s.key b e now =
      match s.typed? e with
      | some t => s.submitShared b t now
      | none => (false, s, b) := by
  unfold key typed?
  cases hdead : s.disposed || e.motion = .release with
  | true => rfl
  | false => simp only [h, typeKey_eq, Bool.false_or, Bool.false_eq_true, if_false]

theorem encode_of_typed? {s : Session σ} {e : KeyEvent} {t : Text} (h : s.typed? e = some t) :
    t ≠ [] ∧ e.encode s.modes = some (Utf8.encode t) := by
  unfold typed? at h
  split at h
  · cases h
  · obtain ⟨bytes, hbytes, hread⟩ := Option.bind_eq_some_iff.1 h
    obtain ⟨u, hne, hread', hencode⟩ := KeyEvent.exists_text hbytes
    obtain rfl : u = t := Option.some.inj (hread'.symm.trans hread)
    exact ⟨hne, hencode ▸ hbytes⟩

/-- **What a key sends is text, and filtered.**  Whatever the key, its modifiers and the modes of
the terminal: bytes that it sends are the UTF-8 of a text, and there are some.  So in every state of
a session, a key that no chord claims either does nothing or has a text, that of its bytes, which is
put to the filter: it is sent only if it passes, and is handed on if it was sent. -/
theorem key_filtered (s : Session σ) (b : Backend) (e : KeyEvent) (now : Nat) :
    (∀ modes bytes, e.encode modes = some bytes →
      bytes ≠ [] ∧ ∃ t, Utf8.read? bytes = some t ∧ Utf8.encode t = bytes) ∧
    (e.route s.platform = .unhandled →
      (s.typed? e = none ∧ s.key b e now = (false, s, b)) ∨
      ∃ t, s.typed? e = some t ∧ e.encode s.modes = some (Utf8.encode t) ∧
        s.Offers b t now (s.key b e now).1 (s.key b e now).2.1 (s.key b e now).2.2) := by
  constructor
  · intro modes bytes hbytes
    obtain ⟨t, -, hread, hencode⟩ := KeyEvent.exists_text hbytes
    exact ⟨KeyEvent.encode_ne_nil hbytes, t, hread, hencode⟩
  · intro hroute
    rw [key_eq hroute]
    cases htyped : s.typed? e with
    | none => exact .inl ⟨rfl, rfl⟩
    | some t =>
      obtain ⟨hne, hencode⟩ := encode_of_typed? htyped
      exact .inr ⟨t, rfl, hencode, s.offers_submitShared b hne now⟩

/-- Alt and a letter beyond ASCII: the bytes are those of a text, which passes the filter and is
handed on. -/
theorem key_filtered_alt :
    let h := (Host.start [] (Surface.new ⟨1, 8⟩) {} {}).advanceAll
      [.call (.load 0 []), .call (.setMirroring true)]
    let e : KeyEvent := { code := .char 'é', held := [.alt] }
    let r := h.session.key h.backend e 0
    e.encode h.session.modes = some [0x1B, 0xC3, 0xA9] ∧
      (∃ t, Utf8.read? [0x1B, 0xC3, 0xA9] = some t ∧ Utf8.encode t = [0x1B, 0xC3, 0xA9]) ∧
      e.route h.session.platform = .unhandled ∧
      (∃ t, h.session.typed? e = some t ∧ h.session.Offers h.backend t 0 r.1 r.2.1 r.2.2) ∧
      r.1 = true ∧ r.2.1.mirrored.toList = [['\x1b', 'é']] := by
  intro h e r
  have hbytes : e.encode h.session.modes = some [0x1B, 0xC3, 0xA9] := by decide
  have hroute : e.route h.session.platform = .unhandled := by decide
  obtain ⟨htext, hkey⟩ := key_filtered h.session h.backend e 0
  refine ⟨hbytes, (htext _ _ hbytes).2, hroute, ?_, by with_unfolding_all decide,
    by with_unfolding_all decide⟩
  obtain ⟨hnone, -⟩ | ⟨t, htyped, -, hoffers⟩ := hkey hroute
  · exact absurd hnone (by with_unfolding_all decide)
  · exact ⟨t, htyped, hoffers⟩

end Session

end TermSession
