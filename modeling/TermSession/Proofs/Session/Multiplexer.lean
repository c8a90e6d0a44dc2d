import Mathlib.Logic.Function.Basic
import TermSession.Proofs.Session.Disposal
import TermSession.Proofs.Session.Hearing

/-!
# Many sessions over one backend

Sessions of any ids come, are called and are disposed of, while the backend that they share changes.

* `Session.perform_feeds`: a call touches no subscription but the session's own;
* `Multiplexer`, `MultiplexerStep`, `Multiplexer.step`, `Multiplexer.run`;
* `Session.HearsUntilSpent`; `HearsUntilSpent.perform`, `HearsUntilSpent.of_delivers`: its own
  calls, and everything else;
* `Multiplexer.Wired`: every session hears until it is spent, and no two have one receiver;
  `Wired.step`, `wired_run`.
-/

namespace TermSession

variable {σ : Type}

/-! ### Subscriptions -/

namespace Session

variable [Display σ] {P Q : Backend → Prop} {b : Backend}

theorem processEvents_feeds (hP : ∀ b b', b'.feeds = b.feeds → P b → P b') (s : Session σ)
    (hown : ∀ r ∈ s.receiver, ∀ b f, P b → P (b.updateSubscriber r f)) (h : P b) :
    P (s.processEvents b).2.2 := by
  cases hs : s.surface with
  | none => simpa only [processEvents, hs] using h
  | some surface =>
    cases hr : s.receiver with
    | none => simpa only [processEvents, hs, hr] using h
    | some receiver =>
      have hkeeps := (foldl_handleEvent s.id (b.waiting receiver) ⟨s.output, surface⟩
        (b.receiveAll receiver).2).2
      rw [processEvents_eq hs hr]
      exact hP _ _ hkeeps.feeds (hown receiver hr _ _ h)

/-- A call touches no subscription but the session's own.  `P` says what is true of the
subscriptions before the backend changes meanwhile, and `Q` what is true after. -/
theorem perform_feeds (hP : ∀ b b', b'.feeds = b.feeds → P b → P b')
    (hQ : ∀ b b', b'.feeds = b.feeds → Q b → Q b') (s : Session σ) {c : SessionCall}
    (hown : ∀ r ∈ s.receiver, ∀ b f, P b → P (b.updateSubscriber r f))
    (hm : ∀ b, P b → Q (b.undergoAll c.changes)) (h : P b) : Q (s.perform b c).2 := by
  cases c with
  | processEvents => exact hm _ (processEvents_feeds hP s hown h)
  | load now meanwhile =>
    simp only [perform, load]
    split
    · exact hm _ h
    · exact hQ _ _ (feeds_loadHistory _ _ now) (hm _ (processEvents_feeds hP s hown h))
  | dispose =>
    simp only [perform, dispose]
    split
    · exact hm _ h
    · dsimp only
      split
      · rename_i r hr
        exact hm _ (hown r hr _ _ h)
      · exact hm _ h
  | _ => exact hm _ (hP _ _ (s.undisturbed_perform b rfl).feeds h)

end Session

/-! ### Runs -/

/-- The sessions of each id in the order they came, what they have answered, and the backend that
all of them share. -/
structure Multiplexer (σ : Type := Surface) where
  backend : Backend
  sessions : Text → List (Session σ) := fun _ => []
  /-- What calls gave back, oldest first. -/
  answers : Text → List Answer := fun _ => []

/-- One step of a run. -/
inductive MultiplexerStep (σ : Type := Surface) where
  /-- A session subscribes. -/
  | create (id : Text) (display : σ) (config : Config)
  /-- A session of an id is called. -/
  | call (id : Text) (i : Nat) (c : SessionCall)
  /-- The backend changes. -/
  | change (change : BackendChange)

/-- What happens to the backend in a step, apart from the calls of sessions. -/
def MultiplexerStep.changes : MultiplexerStep σ → List BackendChange
  | .create _ _ _ => []
  | .call _ _ c => c.changes
  | .change c => [c]

namespace Multiplexer

/-- A backend without sessions. -/
def start (b : Backend) : Multiplexer σ := { backend := b }

/-- A session of an id. -/
def session? (m : Multiplexer σ) (id : Text) (i : Nat) : Option (Session σ) := (m.sessions id)[i]?

variable [Display σ]

/-- What a step does. -/
def step (m : Multiplexer σ) : MultiplexerStep σ → Multiplexer σ
  | .create id display config =>
    let (s, backend) := Session.new id display config m.backend
    { m with backend, sessions := Function.update m.sessions id (m.sessions id ++ [s]) }
  | .call id i c =>
    match m.session? id i with
    | some s =>
      let (s', backend) := s.perform m.backend c
      { backend
        sessions := Function.update m.sessions id ((m.sessions id).set i s')
        answers := Function.update m.answers id (m.answers id ++ [s.answer m.backend c]) }
    | none => { m with backend := m.backend.undergoAll c.changes }
  | .change change => { m with backend := m.backend.undergo change }

/-- Steps in order. -/
def run (m : Multiplexer σ) (steps : List (MultiplexerStep σ)) : Multiplexer σ := steps.foldl step m

@[simp] theorem run_nil (m : Multiplexer σ) : m.run [] = m := rfl

@[simp] theorem run_cons (m : Multiplexer σ) (step : MultiplexerStep σ)
    (steps : List (MultiplexerStep σ)) : m.run (step :: steps) = (m.step step).run steps := rfl

theorem run_append (m : Multiplexer σ) (steps steps' : List (MultiplexerStep σ)) :
    m.run (steps ++ steps') = (m.run steps).run steps' :=
  List.foldl_append

variable {m : Multiplexer σ} {id : Text} {i : Nat} {s : Session σ}

/-- A session that is called is there, and moves on; the others are as they were. -/
theorem session?_call (hs : m.session? id i = some s) (c : SessionCall) (id' : Text) (j : Nat) :
    (m.step (.call id i c)).session? id' j =
      if id' = id ∧ j = i then some (s.perform m.backend c).1 else m.session? id' j := by
  have hi : i < (m.sessions id).length := (List.getElem?_eq_some_iff.1 hs).1
  simp only [step, hs]
  unfold session?
  by_cases hid : id' = id
  · subst hid
    by_cases hj : j = i
    · simp [hj, hi]
    · simp [List.getElem?_set_ne (Ne.symm hj), hj]
  · simp [hid]

theorem backend_call (hs : m.session? id i = some s) (c : SessionCall) :
    (m.step (.call id i c)).backend = (s.perform m.backend c).2 := by
  simp only [step, hs]

/-- The session that comes is the last of its id; the others are as they were. -/
theorem session?_create (m : Multiplexer σ) (id : Text) (display : σ) (config : Config)
    {id' : Text} {j : Nat} {s : Session σ}
    (hj : (m.step (.create id display config)).session? id' j = some s) :
    m.session? id' j = some s ∨
      id' = id ∧ j = (m.sessions id).length ∧ s = (Session.new id display config m.backend).1 := by
  change (Function.update m.sessions id _ id')[j]? = some s at hj
  by_cases hid : id' = id
  · subst hid
    rw [Function.update_self, List.getElem?_append] at hj
    split at hj
    · exact .inl hj
    · rw [List.getElem?_singleton] at hj
      split at hj
      · exact .inr ⟨rfl, by omega, (Option.some.inj hj).symm⟩
      · cases hj
  · rw [Function.update_of_ne hid] at hj
    exact .inl hj

theorem session?_create_of_some (hs : m.session? id i = some s) (id' : Text) (display : σ)
    (config : Config) : (m.step (.create id' display config)).session? id i = some s := by
  have hi : i < (m.sessions id).length := (List.getElem?_eq_some_iff.1 hs).1
  change (Function.update m.sessions id' _ id)[i]? = some s
  by_cases hid : id = id'
  · subst hid
    rw [Function.update_self, List.getElem?_append_left hi]
    exact hs
  · rw [Function.update_of_ne hid]
    exact hs

end Multiplexer

/-! ### What is true of every state -/

/-- The session hears of its log until it is spent. -/
def Session.HearsUntilSpent (id : Text) (b : Backend) (s : Session σ) : Prop :=
  s.id = id ∧ (s.IsSpent ∨ ∃ receiver queue, Host.Hears id receiver ⟨s, b⟩ queue)

namespace Session.HearsUntilSpent

variable {id : Text} {b b' : Backend} {s : Session σ}

/-- Whatever happens to the backend, if the session still hears. -/
theorem of_delivers (h : s.HearsUntilSpent id b)
    (hd : ∀ r queue, s.receiver = some r → r.session = id → b.Delivers r queue →
      ∃ queue', b'.Delivers r queue') : s.HearsUntilSpent id b' := by
  obtain ⟨hid, hspent | ⟨receiver, queue, l⟩⟩ := h
  · exact ⟨hid, .inl hspent⟩
  · obtain ⟨queue', hqueue'⟩ := hd receiver queue l.receiver_eq l.receiver_session l.delivers
    exact ⟨hid, .inr ⟨receiver, queue', { l with delivers := hqueue' }⟩⟩

theorem undergo (h : s.HearsUntilSpent id b) (change : BackendChange) :
    s.HearsUntilSpent id (b.undergo change) :=
  h.of_delivers fun _ _ _ _ hd => ⟨_, hd.undergo_event change⟩

variable [Display σ]

/-- Whatever the session is called with. -/
theorem perform (h : s.HearsUntilSpent id b) (c : SessionCall) :
    (s.perform b c).1.HearsUntilSpent id (s.perform b c).2 := by
  refine ⟨(s.perform_fixed b c).1.trans h.1, ?_⟩
  obtain ⟨-, hspent | ⟨receiver, queue, l⟩⟩ := h
  · rw [hspent.perform]
    exact .inl (hspent.switched c)
  · by_cases hc : c = .dispose
    · subst hc
      exact .inl (spent_dispose l.live b)
    · have hadvance := (Host.lasting_hears id receiver).advance (e := .call c)
        (fun _ _ => trivial) (fun _ _ => trivial) ⟨queue, l⟩
      rcases hadvance with o | ⟨queue', l'⟩
      · have hlive : (s.perform b c).1.disposed = false := (s.perform_live b hc).trans l.live
        exact absurd (hlive.symm.trans o.disposed) (by simp)
      · exact .inr ⟨receiver, queue', l'⟩

/-- Whatever a session with another receiver is called with. -/
theorem perform_other (h : s.HearsUntilSpent id b) (s' : Session σ) (c : SessionCall)
    (hr : ∀ r, s.receiver = some r → s'.receiver ≠ some r) :
    s.HearsUntilSpent id (s'.perform b c).2 :=
  h.of_delivers fun r queue hs _ hd => by
    let P (b : Backend) : Prop := ∃ queue, b.Delivers r queue
    have hP (b b' : Backend) (hfeeds : b'.feeds = b.feeds) : P b → P b' :=
      fun ⟨queue, hd⟩ => ⟨queue, hd.of_feeds_eq hfeeds⟩
    refine s'.perform_feeds hP hP (fun r' hr' b f => ?_) (fun b => ?_) ⟨queue, hd⟩
    · rintro ⟨queue, hd⟩
      exact ⟨queue, hd.updateSubscriber_of_ne (fun heq => hr r hs (heq ▸ hr')) f⟩
    · exact Backend.undergoAll_induction fun change _ _ ⟨_, hd⟩ => ⟨_, hd.undergo_event change⟩

end Session.HearsUntilSpent

namespace Multiplexer

variable {m : Multiplexer σ}

/-- Every session hears until it is spent, and no two have one receiver. -/
structure Wired (m : Multiplexer σ) : Prop where
  hears : ∀ id i s, m.session? id i = some s → s.HearsUntilSpent id m.backend
  distinct : ∀ id i s id' j s' r, m.session? id i = some s → m.session? id' j = some s' →
    s.receiver = some r → s'.receiver = some r → id = id' ∧ i = j

namespace Wired

theorem undergo (w : m.Wired) (change : BackendChange) :
    Wired { m with backend := m.backend.undergo change } where
  hears id i s hs := (w.hears id i s hs).undergo change
  distinct := w.distinct

theorem undergoAll (w : m.Wired) (changes : List BackendChange) :
    Wired { m with backend := m.backend.undergoAll changes } :=
  Backend.undergoAll_induction (P := fun b => Wired { m with backend := b })
    (fun change _ _ w => w.undergo change) w

/-- What hears has no receiver but one that is subscribed. -/
theorem receiver_ne (w : m.Wired) {id : Text} {i : Nat} {s : Session σ}
    (hs : m.session? id i = some s) (session : Text) :
    s.receiver ≠ some (m.backend.subscribe session).1 := by
  intro hr
  obtain ⟨-, hspent | ⟨receiver, queue, l⟩⟩ := w.hears id i s hs
  · exact absurd (hr.symm.trans hspent.receiver_eq) (by simp)
  · exact l.delivers.ne_subscribe session (Option.some.inj (l.receiver_eq.symm.trans hr))

variable [Display σ]

theorem create (w : m.Wired) (id : Text) (display : σ) (config : Config) :
    (m.step (.create id display config)).Wired where
  hears id' i s hs := by
    rcases m.session?_create id display config hs with hs | ⟨rfl, -, rfl⟩
    · exact (w.hears id' i s hs).of_delivers fun _ queue _ _ hd => ⟨queue, hd.subscribe id⟩
    · exact ⟨rfl, .inr ⟨_, [], Host.hears_start id' display config m.backend⟩⟩
  distinct id₁ i s id₂ j s' r hs hs' hr hr' := by
    rcases m.session?_create id display config hs with hold | ⟨hid, hi, rfl⟩ <;>
      rcases m.session?_create id display config hs' with hold' | ⟨hid', hj, rfl⟩
    · exact w.distinct id₁ i s id₂ j s' r hold hold' hr hr'
    · exact absurd (hr.trans hr'.symm) (w.receiver_ne hold id)
    · exact absurd (hr'.trans hr.symm) (w.receiver_ne hold' id)
    · exact ⟨hid.trans hid'.symm, hi.trans hj.symm⟩

/-- The session that is called has no receiver that it had not, and the others hear as before. -/
theorem call (w : m.Wired) (id : Text) (i : Nat) (c : SessionCall) :
    (m.step (.call id i c)).Wired := by
  cases hs : m.session? id i with
  | none =>
    simp only [step, hs]
    exact w.undergoAll c.changes
  | some s =>
    have hbefore (id' : Text) (j : Nat) (s' : Session σ) (r : Receiver)
        (hj : (m.step (.call id i c)).session? id' j = some s') (hr : s'.receiver = some r) :
        ∃ s₀, m.session? id' j = some s₀ ∧ s₀.receiver = some r := by
      rw [session?_call hs] at hj
      split at hj
      · rename_i heq
        obtain ⟨rfl, rfl⟩ := heq
        obtain rfl := Option.some.inj hj
        exact ⟨s, hs, Session.receiver_of_perform hr⟩
      · exact ⟨s', hj, hr⟩
    refine ⟨fun id' j s' hj => ?_, fun id₁ j₁ s₁ id₂ j₂ s₂ r h₁ h₂ hr₁ hr₂ => ?_⟩
    · rw [backend_call hs]
      rw [session?_call hs] at hj
      split at hj
      · rename_i heq
        obtain ⟨rfl, rfl⟩ := heq
        obtain rfl := Option.some.inj hj
        exact (w.hears id' j s hs).perform c
      · rename_i hne
        refine (w.hears id' j s' hj).perform_other s c fun r hr hr' => ?_
        exact hne (w.distinct id' j s' id i s r hj hs hr hr')
    · obtain ⟨s₁', hs₁', hr₁'⟩ := hbefore id₁ j₁ s₁ r h₁ hr₁
      obtain ⟨s₂', hs₂', hr₂'⟩ := hbefore id₂ j₂ s₂ r h₂ hr₂
      exact w.distinct id₁ j₁ s₁' id₂ j₂ s₂' r hs₁' hs₂' hr₁' hr₂'

theorem step (w : m.Wired) (step : MultiplexerStep σ) : (m.step step).Wired := by
  cases step with
  | create id display config => exact w.create id display config
  | call id i c => exact w.call id i c
  | change change => exact w.undergo change

theorem run (w : m.Wired) (steps : List (MultiplexerStep σ)) : (m.run steps).Wired := by
  induction steps generalizing m with
  | nil => exact w
  | cons step steps ih => exact ih (w.step step)

end Wired

theorem wired_start (b : Backend) : (start b : Multiplexer σ).Wired :=
  ⟨by simp [start, session?], by simp [start, session?]⟩

end Multiplexer

end TermSession
