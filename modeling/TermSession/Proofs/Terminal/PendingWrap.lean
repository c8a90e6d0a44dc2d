import TermSession.Proofs.Terminal.Cleared
import TermSession.Proofs.Terminal.Pages
import TermSession.Proofs.Terminal.Tearing

/-!
# Wraps that wait

A wrap waits in the last column, where a character has filled the line.  Only going back to a
remembered cursor can make one wait elsewhere: the cursor was remembered with its wrap, and the grid
has become wider since then.

* `Screen.WaitsAtMargin`: a wrap waits in the last column or not at all;
* `ScreenAction.restores`, `Screen.remembersInnerWrap`: the actions that go back, and what they must
  not find; `Screen.waitsAtMargin_act_iff`: no other action makes a wrap wait elsewhere;
* `Surface.RevivesWrap`, `Surface.waitsAtMargin_iff`: so it is in every run.
-/

namespace TermSession

/-- Does an action go back to the remembered cursor? -/
def ScreenAction.restores : ScreenAction → Bool
  | .escaped byte => Char.ofNat byte.toNat == '8'
  | .execute isPrivate final _ => !isPrivate && final == 'u'
  | _ => false

theorem ScreenAction.IsInterim.restores_eq {a : ScreenAction} (h : a.IsInterim) :
    a.restores = false := by
  cases a with
  | put c => rfl
  | retitle t => rfl
  | _ => exact h.elim

namespace Screen

/-- A wrap waits in the last column or not at all. -/
def WaitsAtMargin (s : Screen) : Prop :=
  s.cursor.wrapPending = true → s.cursor.col + 1 = s.size.cols

/-- Has the remembered cursor a wrap that waits, in a column that is not the last one now? -/
def remembersInnerWrap (s : Screen) : Bool :=
  s.savedCursor.any fun c => c.wrapPending && decide (c.col + 1 < s.size.cols)

variable {s : Screen}

/-- No wrap waits. -/
theorem waitsAtMargin_of_settled (h : s.cursor.wrapPending = false) : s.WaitsAtMargin := by
  intro hpending
  rw [h] at hpending
  contradiction

/-- What waits is a matter of the cursor and the number of columns alone. -/
theorem WaitsAtMargin.congr (h : s.WaitsAtMargin) {s' : Screen} (hcursor : s'.cursor = s.cursor)
    (hsize : s'.size = s.size) : s'.WaitsAtMargin := by
  rw [WaitsAtMargin, hcursor, hsize]
  exact h

/-! ### Moving on -/

theorem cursor_scrollUp (s : Screen) (n : Nat) : (s.scrollUp n).cursor = s.cursor := by
  unfold scrollUp
  dsimp only
  split <;> rfl

theorem wrapPending_lineFeed (s : Screen) : s.lineFeed.cursor.wrapPending = false := by
  unfold lineFeed
  dsimp only
  split
  · rw [cursor_scrollUp]
    rfl
  · split <;> rfl

theorem wrapPending_wrapLine (s : Screen) : s.wrapLine.cursor.wrapPending = false := by
  unfold wrapLine
  dsimp only
  split
  · exact wrapPending_lineFeed _
  · rfl

/-- No wrap waits where a character is placed. -/
theorem wrapPending_wrapFor (s : Screen) (width : Nat) :
    (s.wrapFor width).cursor.wrapPending = false := by
  have hpending :
      (if s.cursor.wrapPending then s.wrapLine else s).cursor.wrapPending = false := by
    split
    · exact wrapPending_wrapLine s
    · rwa [← Bool.not_eq_true]
  unfold wrapFor
  dsimp only
  generalize (if s.cursor.wrapPending then s.wrapLine else s) = t at hpending ⊢
  split
  · exact t.wrapPending_wrapLine
  · exact hpending

theorem size_wrapFor (s : Screen) (width : Nat) : (s.wrapFor width).size = s.size := by
  have hsize : (if s.cursor.wrapPending then s.wrapLine else s).size = s.size := by
    split <;> simp
  unfold wrapFor
  dsimp only
  generalize (if s.cursor.wrapPending then s.wrapLine else s) = t at hsize ⊢
  split
  · rw [size_wrapLine, hsize]
  · exact hsize

/-- A character that is placed makes a wrap wait in the last column only. -/
theorem waitsAtMargin_place (hcols : 0 < s.size.cols) (h : s.cursor.wrapPending = false) (c : Char)
    (width : Nat) : (s.place c width).WaitsAtMargin := by
  unfold place
  dsimp only
  split
  · intro _
    exact Nat.sub_add_cancel hcols
  · exact waitsAtMargin_of_settled h

namespace WaitsAtMargin

theorem put (h : s.WaitsAtMargin) (hcols : 0 < s.size.cols) (c : Char) :
    (s.put c).WaitsAtMargin := by
  by_cases hzero : charWidth c = 0
  · rw [Screen.put, if_pos hzero]
    exact h.congr rfl rfl
  · rw [put_eq_place_wrapFor hzero]
    refine waitsAtMargin_place ?_ (s.wrapPending_wrapFor _) c _
    rwa [size_wrapFor]

theorem eraseLine (h : s.WaitsAtMargin) (part : Nat) : (s.eraseLine part).WaitsAtMargin := by
  unfold Screen.eraseLine
  dsimp only
  split <;> exact h.congr rfl rfl

theorem eraseDisplay (h : s.WaitsAtMargin) (part : Nat) : (s.eraseDisplay part).WaitsAtMargin := by
  unfold Screen.eraseDisplay
  dsimp only
  split
  · exact (h.eraseLine 0).congr rfl rfl
  · exact (h.eraseLine 1).congr rfl rfl
  · exact h.congr rfl rfl
  · exact h.congr rfl rfl
  · exact h

theorem insertLines (h : s.WaitsAtMargin) (n : Nat) : (s.insertLines n).WaitsAtMargin := by
  unfold Screen.insertLines
  split <;> exact h.congr rfl rfl

theorem deleteLines (h : s.WaitsAtMargin) (n : Nat) : (s.deleteLines n).WaitsAtMargin := by
  unfold Screen.deleteLines
  split <;> exact h.congr rfl rfl

theorem setPrivateMode (h : s.WaitsAtMargin) (mode : Nat) (on : Bool) :
    (s.setPrivateMode mode on).WaitsAtMargin := by
  unfold Screen.setPrivateMode
  split
  · exact h.congr rfl rfl
  · split <;> exact h.congr rfl rfl

theorem setPrivateModes (h : s.WaitsAtMargin) (params : List Nat) (on : Bool) :
    (params.foldl (fun s p => s.setPrivateMode p on) s).WaitsAtMargin := by
  induction params generalizing s with
  | nil => exact h
  | cons p params ih =>
    exact ih (h.setPrivateMode p on)

theorem control (h : s.WaitsAtMargin) (byte : UInt8) : (s.control byte).WaitsAtMargin := by
  unfold Screen.control
  repeat' split
  · exact waitsAtMargin_of_settled rfl
  · exact waitsAtMargin_of_settled rfl
  · exact waitsAtMargin_of_settled rfl
  · exact waitsAtMargin_of_settled s.wrapPending_lineFeed
  · exact waitsAtMargin_of_settled rfl
  · exact h

end WaitsAtMargin

/-! ### Going back -/

/-- Going back makes a wrap wait elsewhere exactly if it was remembered so. -/
theorem waitsAtMargin_restoreCursor_iff (h : s.WaitsAtMargin) (hcols : 0 < s.size.cols) :
    s.restoreCursor.WaitsAtMargin ↔ s.remembersInnerWrap = false := by
  unfold restoreCursor remembersInnerWrap WaitsAtMargin
  cases hsaved : s.savedCursor with
  | none => exact iff_of_true h rfl
  | some c =>
    cases hpending : c.wrapPending with
    | false => simp [hpending]
    | true =>
      simp only [hpending, Option.any_some, Bool.true_and, decide_eq_false_iff_not, forall_const]
      omega

theorem waitsAtMargin_escaped_iff (h : s.WaitsAtMargin) (hcols : 0 < s.size.cols) (byte : UInt8) :
    (s.escaped byte).WaitsAtMargin ↔
      ((ScreenAction.escaped byte).restores && s.remembersInnerWrap) = false := by
  unfold escaped ScreenAction.restores
  split
  · rename_i hchar
    exact iff_of_true (h.congr rfl rfl) (by simp [hchar])
  · rename_i hchar
    simpa [hchar] using waitsAtMargin_restoreCursor_iff h hcols
  · rename_i hchar
    exact iff_of_true (waitsAtMargin_of_settled s.wrapPending_lineFeed) (by simp [hchar])
  · rename_i hchar
    exact iff_of_true (waitsAtMargin_of_settled (wrapPending_lineFeed _)) (by simp [hchar])
  · rename_i hchar
    refine iff_of_true (waitsAtMargin_of_settled ?_) (by simp [hchar])
    unfold reverseIndex
    dsimp only
    split <;> rfl
  · rename_i hchar
    exact iff_of_true (waitsAtMargin_of_settled rfl) (by simp [hchar])
  · rename_i hback _ _ _ _
    exact iff_of_true h (by simp [beq_eq_false_iff_ne.2 hback])

theorem waitsAtMargin_execute_iff (h : s.WaitsAtMargin) (hcols : 0 < s.size.cols)
    (isPrivate : Bool) (final : Char) (params : List Nat) :
    (s.execute isPrivate final params).WaitsAtMargin ↔
      ((ScreenAction.execute isPrivate final params).restores && s.remembersInnerWrap) =
        false := by
  have hmoved {t : Screen} (ht : t.cursor.wrapPending = false) : t.WaitsAtMargin ↔ false = false :=
    iff_of_true (waitsAtMargin_of_settled ht) rfl
  have hedited {t : Screen} (ht : t.WaitsAtMargin) : t.WaitsAtMargin ↔ false = false :=
    iff_of_true ht rfl
  cases isPrivate with
  | true =>
    refine iff_of_true ?_ rfl
    unfold execute
    dsimp only
    rw [if_pos rfl]
    split
    · exact h.setPrivateModes params true
    · exact h.setPrivateModes params false
    · exact h
  | false =>
    unfold execute
    dsimp only
    rw [if_neg (by decide)]
    split
    -- Whatever moves the cursor cancels a wrap; the rest leaves the cursor alone.
    any_goals exact hmoved rfl
    any_goals exact hedited (h.congr rfl rfl)
    · exact hedited (h.eraseDisplay _)
    · exact hedited (h.eraseLine _)
    · exact hedited (h.insertLines _)
    · exact hedited (h.deleteLines _)
    · exact hedited (h.congr (s.cursor_scrollUp _) (s.size_scrollUp _))
    · exact waitsAtMargin_restoreCursor_iff h hcols
    · split
      · exact hedited (h.congr rfl rfl)
      · exact hedited h
    · split
      · exact hedited (h.congr rfl rfl)
      · exact hedited h
    · refine iff_of_true h ?_
      simp_all [ScreenAction.restores]

/-- An action makes a wrap wait elsewhere exactly if it goes back to one. -/
theorem waitsAtMargin_act_iff (h : s.WaitsAtMargin) (hcols : 0 < s.size.cols) (a : ScreenAction) :
    (s.act a).WaitsAtMargin ↔ (a.restores && s.remembersInnerWrap) = false := by
  cases a with
  | put c => exact iff_of_true (h.put hcols c) rfl
  | control byte => exact iff_of_true (h.control byte) rfl
  | escaped byte => exact waitsAtMargin_escaped_iff h hcols byte
  | execute isPrivate final params => exact waitsAtMargin_execute_iff h hcols isPrivate final params
  | retitle t => exact iff_of_true (h.congr rfl rfl) rfl

/-! ### The remembered cursor -/

theorem savedCursor_scrollUp (s : Screen) (n : Nat) :
    (s.scrollUp n).savedCursor = s.savedCursor := by
  unfold scrollUp
  dsimp only
  split <;> rfl

theorem savedCursor_lineFeed (s : Screen) : s.lineFeed.savedCursor = s.savedCursor := by
  unfold lineFeed
  dsimp only
  split
  · exact savedCursor_scrollUp s.cancelWrap 1
  · split <;> rfl

theorem savedCursor_wrapLine (s : Screen) : s.wrapLine.savedCursor = s.savedCursor := by
  unfold wrapLine
  dsimp only
  split
  · exact savedCursor_lineFeed _
  · rfl

theorem savedCursor_wrapFor (s : Screen) (width : Nat) :
    (s.wrapFor width).savedCursor = s.savedCursor := by
  unfold wrapFor
  dsimp only
  split <;> split <;> simp only [savedCursor_wrapLine]

theorem savedCursor_put (s : Screen) (c : Char) : (s.put c).savedCursor = s.savedCursor := by
  by_cases hzero : charWidth c = 0
  · rw [put, if_pos hzero]
    rfl
  · rw [put_eq_place_wrapFor hzero, ← s.savedCursor_wrapFor (charWidth c)]
    unfold place
    dsimp only
    split <;> rfl

/-- An interim action leaves what is remembered, and the size. -/
theorem keeps_interim {a : ScreenAction} (ha : a.IsInterim) (s : Screen) :
    (s.act a).remembersInnerWrap = s.remembersInnerWrap ∧ (s.act a).size = s.size := by
  cases a with
  | put c =>
    show (s.put c).remembersInnerWrap = _ ∧ (s.put c).size = _
    rw [remembersInnerWrap, savedCursor_put, size_put]
    exact ⟨rfl, rfl⟩
  | retitle t => exact ⟨rfl, rfl⟩
  | _ => exact ha.elim

/-- Actions before the last of which only interim ones stand make a wrap wait elsewhere exactly if
one of them goes back to one. -/
theorem waitsAtMargin_actAll_iff (h : s.WaitsAtMargin) (hcols : 0 < s.size.cols)
    {actions : List ScreenAction} (hactions : ∀ a ∈ actions.dropLast, a.IsInterim) :
    (s.actAll actions).WaitsAtMargin ↔
      (actions.any ScreenAction.restores && s.remembersInnerWrap) = false := by
  induction actions generalizing s with
  | nil => exact iff_of_true h rfl
  | cons a actions ih =>
    cases actions with
    | nil => simp [waitsAtMargin_act_iff h hcols]
    | cons b actions =>
      have ha : a.IsInterim := hactions a (by simp)
      obtain ⟨hremembers, hsize⟩ := keeps_interim ha s
      have hkept : (s.act a).WaitsAtMargin :=
        (waitsAtMargin_act_iff h hcols a).2 (by rw [ha.restores_eq, Bool.false_and])
      have hnext := ih hkept (by rwa [hsize]) fun c hc => hactions c (by simp [hc])
      rw [actAll_cons, hnext, hremembers, List.any_cons (a := a), ha.restores_eq, Bool.false_or]

/-- Where no wrap waits but in the last column, a character that comes before it stays on its
line. -/
theorem WaitsAtMargin.put_eq_place (h : s.WaitsAtMargin) {c : Char} (hc : charWidth c ≠ 0)
    (hinner : s.cursor.col + 1 < s.size.cols) : s.put c = s.place c (charWidth c) := by
  have hpending : s.cursor.wrapPending = false := by
    rw [← Bool.not_eq_true]
    intro hpending
    have := h hpending
    omega
  have hfits : s.overhangs (charWidth c) = false := by
    simp only [overhangs, Nat.not_le.2 hinner, decide_false, Bool.and_false, Bool.false_and]
  exact Screen.put_eq_place hc hpending hfits

end Screen

/-! ### Runs -/

/-- Does a byte go back to the remembered cursor? -/
def Decoder.restores (d : Decoder) (byte : UInt8) : Bool :=
  (d.step byte).actions.any ScreenAction.restores

namespace Surface

/-- A call of no more than one byte goes back to a wrap that waits in a column that is not the last
one now. -/
def RevivesWrap (s : Surface) (call : DisplayCall) : Prop :=
  (∃ byte ∈ call.data, s.decoder.restores byte = true) ∧ s.screen.remembersInnerWrap = true

/-- A byte, a clearing or a resizing makes a wrap wait elsewhere exactly if it goes back to one. -/
theorem waitsAtMargin_perform_iff {s : Surface} (h : s.screen.WaitsAtMargin)
    (hcols : 0 < s.size.cols) {call : DisplayCall} (hcall : call.data.length ≤ 1) :
    (Display.perform s call).screen.WaitsAtMargin ↔ ¬ s.RevivesWrap call := by
  have hnone (hdata : call.data = []) : ¬ s.RevivesWrap call := by
    rintro ⟨⟨byte, hbyte, -⟩, -⟩
    rw [hdata] at hbyte
    exact List.not_mem_nil hbyte
  cases call with
  | write data =>
    match data, hcall with
    | [], _ => exact iff_of_true h (hnone rfl)
    | [byte], _ =>
      show (s.write [byte]).1.screen.WaitsAtMargin ↔ _
      rw [write_singleton, feed_eq]
      refine (Screen.waitsAtMargin_actAll_iff h hcols (s.decoder.isInterim_step byte)).trans ?_
      rw [← Bool.not_eq_true, Bool.and_eq_true]
      refine not_congr (and_congr_left' ?_)
      simp [Decoder.restores, DisplayCall.data]
  | clear => exact iff_of_true (Screen.waitsAtMargin_of_settled rfl) (hnone rfl)
  | resize z => exact iff_of_true (Screen.waitsAtMargin_of_settled rfl) (hnone rfl)

/-- However a fresh surface is written to, resized and cleared: after every byte and every call a
wrap waits in the last column or not at all, if and only if nothing goes back to one that waits
elsewhere on the way.  And if nothing does, a character that comes before the last column stays on
its line. -/
theorem waitsAtMargin_iff (z : Size) (calls : List DisplayCall) :
    let run := calls.flatMap DisplayCall.bytewise
    let unrevived := ∀ done call, done ++ [call] <+: run →
      ¬ (Display.performAll (new z) done).RevivesWrap call
    ((∀ done, done <+: run → (Display.performAll (new z) done).screen.WaitsAtMargin) ↔
        unrevived) ∧
      (unrevived → ∀ done, done <+: run → ∀ c, charWidth c ≠ 0 →
        let s := (Display.performAll (new z) done).screen
        s.cursor.col + 1 < s.size.cols → s.put c = s.place c (charWidth c)) := by
  intro run unrevived
  have hstep (done : List DisplayCall) (call : DisplayCall) (hdone : done ++ [call] <+: run)
      (h : (Display.performAll (new z) done).screen.WaitsAtMargin) :
      (Display.performAll (new z) (done ++ [call])).screen.WaitsAtMargin ↔
        ¬ (Display.performAll (new z) done).RevivesWrap call := by
    have hcols : 0 < (Display.performAll (new z) done).size.cols := by
      rw [← atLeastOne_size_performAll z done]
      exact (Size.atLeastOne_pos _).2
    obtain ⟨c, -, hc⟩ := List.mem_flatMap.1 (hdone.subset (List.mem_concat_self))
    rw [Display.performAll_snoc]
    exact waitsAtMargin_perform_iff h hcols (DisplayCall.length_data_le_one hc)
  have hall (h : unrevived) :
      ∀ done, done <+: run → (Display.performAll (new z) done).screen.WaitsAtMargin := by
    intro done
    -- From the end of what is done: what stands before the last call is done too.
    induction done using List.reverseRecOn with
    | nil => exact fun _ => Screen.waitsAtMargin_of_settled rfl
    | append_singleton done call ih =>
      intro hdone
      have hbefore := ih ((List.prefix_append done [call]).trans hdone)
      exact (hstep done call hdone hbefore).2 (h done call hdone)
  refine ⟨⟨fun h done call hdone => ?_, hall⟩, fun h done hdone c hc => ?_⟩
  · have hbefore := h done ((List.prefix_append done [call]).trans hdone)
    exact (hstep done call hdone hbefore).1 (h _ hdone)
  · exact (hall h done hdone).put_eq_place hc

/-- The cursor is remembered with a wrap that waits in the second of two columns, and found again in
the second of eight: the next character wraps, with six columns free. -/
theorem revived_before_margin :
    let s := Display.performAll (new ⟨2, 2⟩) [.write (Utf8.encode ['a', 'b', '\x1b', '7']),
      .resize ⟨2, 8⟩, .write (Utf8.encode ['\x1b', '8'])]
    ¬ s.screen.WaitsAtMargin ∧ s.screen.cursor = ⟨0, 1, true⟩ ∧ s.size = ⟨2, 8⟩ ∧
      (s.screen.put 'c').screenLines = [['a', 'b'], ['c']] := by
  unfold Screen.WaitsAtMargin
  with_unfolding_all decide

end Surface

end TermSession
