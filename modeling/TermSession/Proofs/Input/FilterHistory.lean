import Mathlib.Data.List.Induction
import Mathlib.Order.MinMax
import TermSession.Input.DuplicateFilter

/-!
# The duplicate filter and its history

The filter keeps one record of all that it was ever asked.  What it decides is nevertheless a
function of the whole history: of whether it is on, and of the latest text that it let through while
it was on, unless it has forgotten that text since.

* `DuplicateFilter.drops`, `DuplicateFilter.remember`: the two halves of a decision;
* `FilterCall`, `FilterSettings.filterAfter`, `FilterSettings.decision`: calls of a fresh filter;
* `FilterSettings.IsLatest`: the text of the history that a decision depends on;
  `last_filterAfter`: it is the one on record;
* `FilterSettings.decision_eq_history`: the decision after any calls.
-/

namespace TermSession

/-! ### One decision -/

namespace FilterSettings

/-- How long after a text was let through the same text is a duplicate. -/
def window (w : FilterSettings) (t : Text) : Nat :=
  min w.horizon (if Text.isSingleAlphanumeric t then max w.shortWindow w.alnumWindow
    else w.shortWindow)

/-- `p` is the text of `q` again, and too soon after it. -/
structure Repeats (w : FilterSettings) (q p : Passed) : Prop where
  text_eq : q.text = p.text
  soon : p.time - q.time < w.window p.text

theorem repeats_iff_windows {w : FilterSettings} {q p : Passed} :
    w.Repeats q p ↔ q.text = p.text ∧ p.time - q.time < w.horizon ∧
      (p.time - q.time < w.shortWindow ∨
        Text.isSingleAlphanumeric p.text = true ∧ p.time - q.time < w.alnumWindow) := by
  have hiff : w.Repeats q p ↔ q.text = p.text ∧ p.time - q.time < w.window p.text :=
    ⟨fun h => ⟨h.text_eq, h.soon⟩, fun h => ⟨h.1, h.2⟩⟩
  rw [hiff]
  unfold window
  cases Text.isSingleAlphanumeric p.text <;> simp

end FilterSettings

namespace DuplicateFilter

theorem repeats_iff (f : DuplicateFilter) (q p : Passed) :
    f.repeats q p.text p.time = true ↔ f.settings.Repeats q p := by
  rw [FilterSettings.repeats_iff_windows]
  simp only [repeats, Bool.and_eq_true, Bool.or_eq_true, decide_eq_true_eq]
  tauto

/-- Does the filter take a text for a duplicate? -/
def drops (f : DuplicateFilter) (p : Passed) : Bool :=
  f.enabled && f.last.any (f.repeats · p.text p.time)

/-- The filter after it has let a text through. -/
def remember (f : DuplicateFilter) (p : Passed) : DuplicateFilter :=
  if f.enabled then { f with last := some p } else f

theorem drops_iff (f : DuplicateFilter) (p : Passed) :
    f.drops p = true ↔ f.enabled = true ∧ ∃ q, f.last = some q ∧ f.settings.Repeats q p := by
  simp [drops, Option.any_eq_true, repeats_iff]

theorem check_eq (f : DuplicateFilter) (p : Passed) (c : Composition) :
    f.check p.text p.time c =
      if c.isComposing then (.dropComposing, f)
      else if f.drops p then (.dropDuplicate, f)
      else (.forward, f.remember p) := by
  unfold check drops remember
  cases c.isComposing <;> cases f.enabled <;> simp

@[simp] theorem remember_settings (f : DuplicateFilter) (p : Passed) :
    (f.remember p).settings = f.settings := by
  unfold remember
  split <;> rfl

@[simp] theorem remember_enabled (f : DuplicateFilter) (p : Passed) :
    (f.remember p).enabled = f.enabled := by
  unfold remember
  split <;> rfl

theorem remember_last {f : DuplicateFilter} (h : f.enabled = true) (p : Passed) :
    (f.remember p).last = some p := by
  simp [remember, h]

end DuplicateFilter

/-! ### Calls -/

/-- A call of the filter. -/
inductive FilterCall where
  | check (text : Text) (time : Nat) (composition : Composition)
  | reset
  | setEnabled (on : Bool)
  deriving DecidableEq, Repr, Inhabited

namespace FilterCall

/-- Does the filter forget in a call what it has let through?  It does when it is switched on. -/
def forgets : FilterCall → Bool
  | check .. => false
  | reset => true
  | setEnabled on => on

/-- The state into which a call switches the filter, if it does. -/
def switch? : FilterCall → Option Bool
  | setEnabled on => some on
  | _ => none

end FilterCall

namespace DuplicateFilter

/-- The filter after a call. -/
def perform (f : DuplicateFilter) : FilterCall → DuplicateFilter
  | .check t now c => (f.check t now c).2
  | .reset => f.reset
  | .setEnabled on => f.setEnabled on

theorem perform_settings (f : DuplicateFilter) (e : FilterCall) :
    (f.perform e).settings = f.settings := by
  cases e with
  | check t now c =>
    have hcheck := f.check_eq ⟨t, now⟩ c
    show (f.check t now c).2.settings = f.settings
    rw [hcheck]
    repeat' split
    · rfl
    · rfl
    · exact remember_settings f _
  | reset => rfl
  | setEnabled on => cases on <;> rfl

theorem perform_enabled (f : DuplicateFilter) (e : FilterCall) :
    (f.perform e).enabled = e.switch?.getD f.enabled := by
  cases e with
  | check t now c =>
    have hcheck := f.check_eq ⟨t, now⟩ c
    show (f.check t now c).2.enabled = f.enabled
    rw [hcheck]
    repeat' split
    · rfl
    · rfl
    · exact remember_enabled f _
  | reset => rfl
  | setEnabled on => cases on <;> rfl

/-- The filter is on, and it lets the text of a call through. -/
def Passes (f : DuplicateFilter) (e : FilterCall) (q : Passed) : Prop :=
  ∃ c, e = .check q.text q.time c ∧ f.enabled = true ∧ (f.check q.text q.time c).1 = .forward

theorem passes_check {f : DuplicateFilter} {t : Text} {now : Nat} {c : Composition} {q : Passed} :
    f.Passes (.check t now c) q ↔ q = ⟨t, now⟩ ∧ f.enabled = true ∧ c.isComposing = false ∧
      f.drops ⟨t, now⟩ = false := by
  have hforward (q : Passed) : (f.check q.text q.time c).1 = .forward ↔
      c.isComposing = false ∧ f.drops q = false := by
    rw [check_eq]
    cases c.isComposing <;> cases f.drops q <;> simp
  constructor
  · rintro ⟨c', he, hon, hpassed⟩
    obtain ⟨rfl, rfl, rfl⟩ := FilterCall.check.inj he
    exact ⟨rfl, hon, (hforward q).1 hpassed⟩
  · rintro ⟨rfl, hon, hpassed⟩
    exact ⟨c, rfl, hon, (hforward ⟨t, now⟩).2 hpassed⟩

/-- What is on record after a call: the text that the call lets through, or what was there before
if the filter has not forgotten it. -/
theorem last_perform {f : DuplicateFilter} {e : FilterCall} {q : Passed} :
    (f.perform e).last = some q ↔
      f.Passes e q ∨ (∀ p, ¬ f.Passes e p) ∧ e.forgets = false ∧ f.last = some q := by
  cases e with
  | reset => simp [perform, reset, Passes, FilterCall.forgets]
  | setEnabled on => cases on <;> simp [perform, setEnabled, Passes, FilterCall.forgets]
  | check t now c =>
    have hcheck := f.check_eq ⟨t, now⟩ c
    show (f.check t now c).2.last = some q ↔ _
    by_cases hpasses : f.enabled = true ∧ c.isComposing = false ∧ f.drops ⟨t, now⟩ = false
    · have hlast : (f.check t now c).2.last = some ⟨t, now⟩ := by
        simp [hcheck, hpasses, remember_last]
      rw [hlast]
      constructor
      · intro heq
        exact .inl (passes_check.2 ⟨(Option.some.inj heq).symm, hpasses⟩)
      · rintro (hq | ⟨hnone, -, -⟩)
        · rw [(passes_check.1 hq).1]
        · exact absurd (passes_check.2 ⟨rfl, hpasses⟩) (hnone ⟨t, now⟩)
    · have hnone (p : Passed) : ¬ f.Passes (.check t now c) p :=
        fun hp => hpasses (passes_check.1 hp).2
      have hlast : (f.check t now c).2.last = f.last := by
        rw [hcheck]
        repeat' split
        · rfl
        · rfl
        · -- A filter that is off lets a text through without a record.
          have hoff : f.enabled = false := by
            by_contra hon
            exact hpasses ⟨by simpa using hon, by simp_all, by simp_all⟩
          simp [remember, hoff]
      rw [hlast]
      simp [hnone, FilterCall.forgets]

end DuplicateFilter

/-! ### The history -/

namespace FilterSettings

variable (w : FilterSettings)

/-- A fresh filter with these settings, after calls. -/
def filterAfter (calls : List FilterCall) : DuplicateFilter :=
  calls.foldl DuplicateFilter.perform { settings := w }

/-- What the filter decides on a text after calls. -/
def decision (calls : List FilterCall) (t : Text) (now : Nat) (c : Composition) : Decision :=
  ((w.filterAfter calls).check t now c).1

/-- Is the filter on after calls?  It is what it was last switched to. -/
def isOn (calls : List FilterCall) : Bool :=
  (calls.filterMap FilterCall.switch?).getLast?.getD w.enabled

/-- After the calls `before`, and while it is on, the filter lets the text of a call through. -/
def LetsThrough (before : List FilterCall) (e : FilterCall) (q : Passed) : Prop :=
  ∃ c, e = .check q.text q.time c ∧ w.isOn before = true ∧
    w.decision before q.text q.time c = .forward

/-- In calls `q` is the latest that the filter let through while it was on, and the filter has
forgotten nothing since. -/
def IsLatest (calls : List FilterCall) (q : Passed) : Prop :=
  ∃ before e since, calls = before ++ e :: since ∧ w.LetsThrough before e q ∧
    (∀ e' ∈ since, e'.forgets = false) ∧
    ∀ s e' s' p, since = s ++ e' :: s' → ¬ w.LetsThrough (before ++ e :: s) e' p

theorem filterAfter_append (calls : List FilterCall) (e : FilterCall) :
    w.filterAfter (calls ++ [e]) = (w.filterAfter calls).perform e := by
  simp [filterAfter]

theorem filterAfter_settings (calls : List FilterCall) : (w.filterAfter calls).settings = w := by
  induction calls using List.reverseRecOn with
  | nil => rfl
  | append_singleton calls e ih => rw [filterAfter_append, DuplicateFilter.perform_settings, ih]

theorem isOn_append (calls : List FilterCall) (e : FilterCall) :
    w.isOn (calls ++ [e]) = e.switch?.getD (w.isOn calls) := by
  unfold isOn
  rw [List.filterMap_append]
  cases h : e.switch? with
  | none => simp [h]
  | some on => simp [h]

theorem filterAfter_enabled (calls : List FilterCall) :
    (w.filterAfter calls).enabled = w.isOn calls := by
  induction calls using List.reverseRecOn with
  | nil => rfl
  | append_singleton calls e ih =>
    rw [filterAfter_append, DuplicateFilter.perform_enabled, isOn_append, ih]

variable {w}

/-- The latest text is that of the last call, or the last call leaves it what it was. -/
theorem isLatest_append {calls : List FilterCall} {e : FilterCall} {q : Passed} :
    w.IsLatest (calls ++ [e]) q ↔ w.LetsThrough calls e q ∨
      (∀ p, ¬ w.LetsThrough calls e p) ∧ e.forgets = false ∧ w.IsLatest calls q := by
  constructor
  · rintro ⟨before, e₀, since, hcalls, hpassed, hkept, hlatest⟩
    rcases List.eq_nil_or_concat since with rfl | ⟨since, e', rfl⟩
    · obtain ⟨rfl, he⟩ := List.append_inj' hcalls rfl
      obtain rfl : e = e₀ := List.singleton_inj.1 he
      exact .inl hpassed
    · rw [List.concat_eq_append, ← List.cons_append, ← List.append_assoc] at hcalls
      obtain ⟨rfl, he⟩ := List.append_inj' hcalls rfl
      obtain rfl : e = e' := List.singleton_inj.1 he
      refine .inr ⟨fun p => hlatest since e [] p (by simp), hkept e (by simp), ?_⟩
      refine ⟨before, e₀, since, rfl, hpassed, fun e' he' => hkept e' (by simp [he']), ?_⟩
      intro s e' s' p hsince
      exact hlatest s e' (s' ++ [e]) p (by simp [hsince])
  · rintro (hpassed | ⟨hnone, hforgets, before, e₀, since, rfl, hpassed, hkept, hlatest⟩)
    · refine ⟨calls, e, [], rfl, hpassed, by simp, ?_⟩
      intro s e' s' p hnil
      simp at hnil
    · refine ⟨before, e₀, since ++ [e], by simp, hpassed, ?_, ?_⟩
      · intro e' he'
        rcases List.mem_append.1 he' with he' | he'
        · exact hkept e' he'
        · rwa [List.mem_singleton.1 he']
      · intro s e' s' p hsince
        rcases List.eq_nil_or_concat s' with rfl | ⟨s', e'', rfl⟩
        · obtain ⟨rfl, he⟩ := List.append_inj' hsince rfl
          obtain rfl : e = e' := List.singleton_inj.1 he
          exact hnone p
        · rw [List.concat_eq_append, ← List.cons_append, ← List.append_assoc] at hsince
          exact hlatest s e' s' p (List.append_inj' hsince rfl).1

theorem letsThrough_iff {calls : List FilterCall} {e : FilterCall} {q : Passed} :
    w.LetsThrough calls e q ↔ (w.filterAfter calls).Passes e q := by
  unfold LetsThrough DuplicateFilter.Passes decision
  rw [filterAfter_enabled]

/-- The filter has the latest text on record. -/
theorem last_filterAfter {calls : List FilterCall} {q : Passed} :
    (w.filterAfter calls).last = some q ↔ w.IsLatest calls q := by
  induction calls using List.reverseRecOn with
  | nil => simp [filterAfter, IsLatest]
  | append_singleton calls e ih =>
    rw [filterAfter_append, DuplicateFilter.last_perform, isLatest_append, ih]
    simp only [letsThrough_iff]

/-! ### Decisions -/

/-- The filter takes a text for a duplicate if it is on and the latest text is the same, from less
than the text's window ago. -/
theorem drops_filterAfter {calls : List FilterCall} {p : Passed} :
    (w.filterAfter calls).drops p = true ↔
      w.isOn calls = true ∧ ∃ q, w.IsLatest calls q ∧ w.Repeats q p := by
  rw [DuplicateFilter.drops_iff, filterAfter_enabled, filterAfter_settings]
  simp only [last_filterAfter]

theorem decision_eq (calls : List FilterCall) (p : Passed) (c : Composition) :
    w.decision calls p.text p.time c =
      if c.isComposing then .dropComposing
      else if (w.filterAfter calls).drops p then .dropDuplicate
      else .forward := by
  rw [decision, DuplicateFilter.check_eq]
  repeat' split
  all_goals rfl

theorem IsLatest.unique {calls : List FilterCall} {q q' : Passed} (h : w.IsLatest calls q)
    (h' : w.IsLatest calls q') : q = q' :=
  Option.some.inj ((last_filterAfter.2 h).symm.trans (last_filterAfter.2 h'))

/-- A text that is dropped leaves the latest text what it was. -/
theorem isLatest_of_dropped {calls : List FilterCall} {t : Text} {now : Nat} {c : Composition}
    (h : w.decision calls t now c ≠ .forward) (q : Passed) :
    w.IsLatest (calls ++ [.check t now c]) q ↔ w.IsLatest calls q := by
  have hnone (p : Passed) : ¬ w.LetsThrough calls (.check t now c) p := by
    rintro ⟨c', he, -, hforward⟩
    obtain ⟨rfl, rfl, rfl⟩ := FilterCall.check.inj he
    exact h hforward
  rw [isLatest_append]
  simp [hnone, FilterCall.forgets]

/-- Repeats of the latest text within its window leave it the latest. -/
theorem IsLatest.repeated {calls : List FilterCall} {q : Passed} (h : w.IsLatest calls q)
    (hon : w.isOn calls = true) {times : List Nat}
    (htimes : ∀ n ∈ times, n - q.time < w.window q.text) :
    w.IsLatest (calls ++ times.map (.check q.text · .idle)) q := by
  induction times generalizing calls with
  | nil => simpa using h
  | cons n times ih =>
    have hdrops : (w.filterAfter calls).drops ⟨q.text, n⟩ = true :=
      drops_filterAfter.2 ⟨hon, q, h, rfl, htimes n (by simp)⟩
    have hdecision : w.decision calls q.text n .idle ≠ .forward := by
      rw [decision_eq calls ⟨q.text, n⟩, hdrops]
      simp [Composition.isComposing]
    have hon' : w.isOn (calls ++ [.check q.text n .idle]) = true := by
      rw [isOn_append]
      exact hon
    have hlatest := ih ((isLatest_of_dropped hdecision q).2 h) hon' fun m hm =>
      htimes m (by simp [hm])
    simpa using hlatest

theorem isOn_append_checks (calls : List FilterCall) (t : Text) (times : List Nat) :
    w.isOn (calls ++ times.map (.check t · .idle)) = w.isOn calls := by
  have hnone : (times.map (FilterCall.check t · .idle)).filterMap FilterCall.switch? = [] := by
    simp [List.filterMap_eq_nil_iff, FilterCall.switch?]
  rw [isOn, List.filterMap_append, hnone, List.append_nil, isOn]

/-- Once its window has passed, the latest text gets through again, however often it was repeated
within the window. -/
theorem IsLatest.passes_again {calls : List FilterCall} {q : Passed} (h : w.IsLatest calls q)
    {times : List Nat} (htimes : ∀ n ∈ times, n - q.time < w.window q.text) {now : Nat}
    (hnow : w.window q.text ≤ now - q.time) :
    w.decision (calls ++ times.map (.check q.text · .idle)) q.text now .idle = .forward := by
  have hdrops : ¬ (w.filterAfter (calls ++ times.map (.check q.text · .idle))).drops
      ⟨q.text, now⟩ = true := by
    rw [drops_filterAfter, isOn_append_checks]
    rintro ⟨hon, q', hlatest, hrepeats⟩
    obtain rfl := (h.repeated hon htimes).unique hlatest
    exact absurd hrepeats.soon (Nat.not_lt.2 hnow)
  rw [decision_eq _ ⟨q.text, now⟩, if_neg (by simp [Composition.isComposing]), if_neg hdrops]

open Classical in
/-- Whatever a fresh filter was called with before: composition text is dropped; a filter that is
off lets all other text through; and one that is on drops what repeats the latest text that it let
through while it was on, if it has forgotten nothing since, within the horizon and within the short
window, or that for single letters and digits.  So another text than the latest is no duplicate,
what is dropped leaves the latest what it was, and the latest gets through again once its window has
passed, however often it was repeated meanwhile. -/
theorem decision_eq_history (w : FilterSettings) (calls : List FilterCall) (t : Text) (now : Nat)
    (c : Composition) :
    (w.decision calls t now c =
      if c.isComposing = true then .dropComposing
      else if w.isOn calls = false then .forward
      else if ∃ q, w.IsLatest calls q ∧ q.text = t ∧ now - q.time < w.horizon ∧
          (now - q.time < w.shortWindow ∨
            Text.isSingleAlphanumeric t = true ∧ now - q.time < w.alnumWindow) then .dropDuplicate
      else .forward) ∧
    (∀ q, w.IsLatest calls q → q.text ≠ t → w.decision calls t now c ≠ .dropDuplicate) ∧
    (w.decision calls t now c ≠ .forward →
      ∀ q, w.IsLatest (calls ++ [.check t now c]) q ↔ w.IsLatest calls q) ∧
    (∀ q, w.IsLatest calls q → ∀ times : List Nat,
      (∀ n ∈ times, n - q.time < w.window q.text) → ∀ later, w.window q.text ≤ later - q.time →
        w.decision (calls ++ times.map (.check q.text · .idle)) q.text later .idle = .forward) := by
  have hdecision := decision_eq (w := w) calls ⟨t, now⟩ c
  have hdrops : (w.filterAfter calls).drops ⟨t, now⟩ = true ↔ w.isOn calls = true ∧
      ∃ q, w.IsLatest calls q ∧ q.text = t ∧ now - q.time < w.horizon ∧
        (now - q.time < w.shortWindow ∨
          Text.isSingleAlphanumeric t = true ∧ now - q.time < w.alnumWindow) := by
    simp only [drops_filterAfter, repeats_iff_windows]
  refine ⟨?_, ?_, isLatest_of_dropped, ?_⟩
  · rw [hdecision]
    by_cases hon : w.isOn calls = true
    · simp only [hdrops, hon, true_and, Bool.true_eq_false, if_false]
    · have hkept : ¬ (w.filterAfter calls).drops ⟨t, now⟩ = true := fun h => hon (hdrops.1 h).1
      rw [Bool.not_eq_true] at hon
      simp only [hkept, hon, if_true, Bool.false_eq_true, if_false]
  · intro q hq hne heq
    have hdropped : (w.filterAfter calls).drops ⟨t, now⟩ = true := by
      by_contra hkept
      rw [hdecision, if_neg hkept] at heq
      split at heq <;> cases heq
    obtain ⟨-, q', hq', htext, -⟩ := hdrops.1 hdropped
    exact hne (hq.unique hq' ▸ htext)
  · intro q hq times htimes later hlater
    exact hq.passes_again htimes hlater

/-- A letter is typed twice in a row and dropped the second time; half a second after the first it
gets through again. -/
theorem decision_eq_history_aa :
    let w : FilterSettings := {}
    let calls : List FilterCall := [.check ['a'] 0 .idle]
    w.IsLatest calls ⟨['a'], 0⟩ ∧ w.decision calls ['a'] 40 .idle = .dropDuplicate ∧
      w.decision (calls ++ [40, 499].map (.check ['a'] · .idle)) ['a'] 500 .idle = .forward := by
  intro w calls
  have hlatest : w.IsLatest calls ⟨['a'], 0⟩ := last_filterAfter.1 (by decide)
  refine ⟨hlatest, ?_, ?_⟩
  · rw [(decision_eq_history w calls ['a'] 40 .idle).1, if_neg (by decide), if_neg (by decide),
      if_pos ⟨_, hlatest, rfl, by decide, by decide⟩]
  · exact (decision_eq_history w calls ['a'] 40 .idle).2.2.2 _ hlatest [40, 499] (by decide) 500
      (by decide)

end FilterSettings

end TermSession
