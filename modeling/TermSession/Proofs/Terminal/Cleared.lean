import TermSession.Proofs.Terminal.Alike
import TermSession.Proofs.Terminal.Calls

/-!
# Cleared surfaces

Clearing takes away whatever rows, scrollback, cursor, saved cursor and margins there were, and
leaves the size, the modes and the title.  A surface with nothing unfinished that is cleared goes on
like a fresh one of its size, put into its modes.

* `Screen.size_act`: writing does not change the size;
* `Surface.atLeastOne_size_performAll`: no call leaves a surface without rows or columns;
* `Screen.picture`: what is seen of a screen; `Surface.fresh`: a fresh surface, put into modes;
* `Surface.clear_alike_fresh`, `Surface.fresh_alike_new`.
-/

namespace TermSession

@[simp] theorem Size.atLeastOne_atLeastOne (z : Size) : z.atLeastOne.atLeastOne = z.atLeastOne :=
  atLeastOne_eq z.atLeastOne_pos.1 z.atLeastOne_pos.2

/-! ### Sizes -/

namespace Screen

variable (s : Screen)

@[simp] theorem size_restoreCursor : s.restoreCursor.size = s.size := by
  unfold restoreCursor
  split <;> rfl

@[simp] theorem size_setPrivateMode (mode : Nat) (on : Bool) :
    (s.setPrivateMode mode on).size = s.size := by
  unfold setPrivateMode
  split
  · rfl
  · split <;> rfl

@[simp] theorem size_setPrivateModes (params : List Nat) (on : Bool) :
    (params.foldl (fun s p => s.setPrivateMode p on) s).size = s.size := by
  induction params generalizing s with
  | nil => rfl
  | cons p params ih => rw [List.foldl_cons, ih, size_setPrivateMode]

@[simp] theorem size_scrollUp (n : Nat) : (s.scrollUp n).size = s.size := by
  unfold scrollUp
  dsimp only
  split <;> rfl

@[simp] theorem size_insertLines (n : Nat) : (s.insertLines n).size = s.size := by
  unfold insertLines
  split <;> rfl

@[simp] theorem size_deleteLines (n : Nat) : (s.deleteLines n).size = s.size := by
  unfold deleteLines
  split <;> rfl

@[simp] theorem size_lineFeed : s.lineFeed.size = s.size := by
  unfold lineFeed
  dsimp only
  split
  · exact size_scrollUp s.cancelWrap 1
  · split <;> rfl

@[simp] theorem size_reverseIndex : s.reverseIndex.size = s.size := by
  unfold reverseIndex
  dsimp only
  split <;> rfl

@[simp] theorem size_wrapLine : s.wrapLine.size = s.size := by
  unfold wrapLine
  dsimp only
  split
  · exact size_lineFeed _
  · rfl

@[simp] theorem size_place (c : Char) (width : Nat) : (s.place c width).size = s.size := by
  unfold place
  dsimp only
  split <;> rfl

@[simp] theorem size_put (c : Char) : (s.put c).size = s.size := by
  unfold put
  dsimp only
  split
  · rfl
  · rw [size_place]
    split <;> split <;> simp

@[simp] theorem size_eraseLine (part : Nat) : (s.eraseLine part).size = s.size := by
  unfold eraseLine
  dsimp only
  split <;> rfl

@[simp] theorem size_eraseDisplay (part : Nat) : (s.eraseDisplay part).size = s.size := by
  unfold eraseDisplay
  dsimp only
  split <;> rfl

@[simp] theorem size_execute (isPrivate : Bool) (final : Char) (params : List Nat) :
    (s.execute isPrivate final params).size = s.size := by
  unfold execute
  dsimp only
  split
  · split <;> simp
  · split
    all_goals first
      | rfl
      | (split <;> rfl)
      | simp

@[simp] theorem size_control (byte : UInt8) : (s.control byte).size = s.size := by
  unfold control
  split
  · rfl
  · split
    · rfl
    · split
      · split <;> exact size_lineFeed s
      · split <;> rfl

variable {s}

/-- A reset makes a screen of the same size, unless it has no rows or no columns. -/
theorem size_escaped (hs : s.size.atLeastOne = s.size) (byte : UInt8) :
    (s.escaped byte).size = s.size := by
  unfold escaped
  split
  · rfl
  · exact size_restoreCursor s
  · exact size_lineFeed s
  · exact size_lineFeed s.carriageReturn
  · exact size_reverseIndex s
  · exact hs
  · rfl

theorem size_act (hs : s.size.atLeastOne = s.size) (a : ScreenAction) :
    (s.act a).size = s.size := by
  cases a with
  | put c => exact size_put s c
  | control byte => exact size_control s byte
  | escaped byte => exact size_escaped hs byte
  | execute isPrivate final params => exact size_execute s isPrivate final params
  | retitle t => rfl

theorem size_actAll (hs : s.size.atLeastOne = s.size) (actions : List ScreenAction) :
    (s.actAll actions).size = s.size := by
  induction actions generalizing s with
  | nil => rfl
  | cons a actions ih =>
    have hsize := size_act hs a
    rw [actAll_cons, ih (by rw [hsize, hs]), hsize]

end Screen

namespace Surface

variable {s : Surface}

theorem size_write (hs : s.size.atLeastOne = s.size) (bytes : List UInt8) :
    (s.write bytes).1.size = s.size := by
  induction bytes generalizing s with
  | nil => rfl
  | cons byte bytes ih =>
    have hsize : (s.feed byte).1.size = s.size := by
      rw [feed_eq]
      exact Screen.size_actAll hs _
    rw [write_cons]
    exact (ih (by rw [hsize, hs])).trans hsize

/-- Whatever is done to a surface, it has at least one row and one column. -/
theorem atLeastOne_size_performAll (size : Size) (calls : List DisplayCall) :
    (Display.performAll (new size) calls).size.atLeastOne =
      (Display.performAll (new size) calls).size := by
  suffices hcalls : ∀ s : Surface, s.size.atLeastOne = s.size →
      (Display.performAll s calls).size.atLeastOne = (Display.performAll s calls).size from
    hcalls _ size.atLeastOne_atLeastOne
  induction calls with
  | nil => exact fun s hs => hs
  | cons call calls ih =>
    intro s hs
    refine ih _ ?_
    cases call with
    | write data =>
      change (s.write data).1.size.atLeastOne = (s.write data).1.size
      rw [size_write hs, hs]
    | clear => exact hs
    | resize z => exact z.atLeastOne_atLeastOne

end Surface

/-! ### Clearing -/

namespace Screen

/-- What the rows show, on the grid and above it, and the cursor. -/
def picture (s : Screen) : List Text × List Text × Cursor :=
  (s.screenLines, s.scrollbackLines, s.cursor)

theorem Alike.picture_eq {s s' : Screen} (h : s.Alike s') : s.picture = s'.picture := by
  rw [picture, picture, h.screenLines_eq, h.scrollbackLines_eq, h.cursor_eq]

end Screen

namespace Surface

variable {s : Surface}

/-- A fresh surface, put into modes. -/
def fresh (size : Size) (modes : Modes) : Surface :=
  { new size with screen := { Screen.blank size with modes } }

/-- A surface with nothing unfinished that is cleared goes on like a fresh one in its modes. -/
theorem clear_alike_fresh (hs : s.size.atLeastOne = s.size) (hd : s.decoder = .idle) :
    s.clear.Alike (fresh s.size s.screen.modes) where
  screen :=
    { visible_eq := by
        have hsize : s.screen.size.atLeastOne = s.screen.size := hs
        simp only [Screen.visible, clear, Screen.clear, fresh, new, Screen.blank, size, hsize]
      scrollbackLines_eq := rfl }
  decoder_eq := hd

/-- Auto wrap and new line mode are the only modes that have an influence on what is written. -/
theorem fresh_alike_new (size : Size) {modes : Modes} (hwrap : modes.autoWrap = true)
    (hnewLine : modes.lineFeedNewLine = false) : (fresh size modes).Alike (new size) where
  screen :=
    { visible_eq := by
        simp only [Screen.visible, fresh, new, Screen.blank, hwrap, hnewLine]
      scrollbackLines_eq := rfl }
  decoder_eq := rfl

end Surface

end TermSession
