import TermSession.Proofs.Terminal.Actions

/-!
# Screens that stay alike

What a screen shows above its grid, its title and the mode of the cursor keys have no influence on
what is written.  Two screens that differ in nothing else, and show the same text above the grid,
show the same after whatever is written to both.

* `Screen.Alike`, `Surface.Alike`;
* `Screen.Blind`: what neither reads nor changes the scrollback;
* `Surface.Alike.write`: writing keeps surfaces alike and completes the same commands.
-/

namespace TermSession

namespace Screen

/-- The screen without what has no influence on what is written. -/
def visible (s : Screen) : Screen :=
  { s with scrollback := .empty, title := [], modes.applicationCursor := false }

/-- The screens differ only in their titles, in the mode of the cursor keys, and in how the rows
above the grid are laid out. -/
structure Alike (s s' : Screen) : Prop where
  visible_eq : s.visible = s'.visible
  scrollbackLines_eq : s.scrollbackLines = s'.scrollbackLines

/-- What is not visible has no influence, and the scrollback stays as it is. -/
structure Blind (f : Screen → Screen) : Prop where
  visible_eq : ∀ s, (f s).visible = (f s.visible).visible
  scrollback_eq : ∀ s, (f s).scrollback = s.scrollback

namespace Blind

theorem comp {f g : Screen → Screen} (hg : Blind g) (hf : Blind f) : Blind fun s => g (f s) where
  visible_eq s := by
    rw [hg.visible_eq (f s), hf.visible_eq s, ← hg.visible_eq]
  scrollback_eq s := (hg.scrollback_eq _).trans (hf.scrollback_eq s)

theorem ite {f g : Screen → Screen} {p : Screen → Prop} [DecidablePred p]
    (hp : ∀ s, p s ↔ p s.visible) (hf : Blind f) (hg : Blind g) :
    Blind fun s => if p s then f s else g s where
  visible_eq s := by
    by_cases h : p s
    · simp only [if_pos h, if_pos ((hp s).1 h), hf.visible_eq s]
    · simp only [if_neg h, if_neg (mt (hp s).2 h), hg.visible_eq s]
  scrollback_eq s := by
    by_cases h : p s
    · simp only [if_pos h, hf.scrollback_eq]
    · simp only [if_neg h, hg.scrollback_eq]

theorem id : Blind fun s => s := ⟨fun _ => rfl, fun _ => rfl⟩

theorem alike {f : Screen → Screen} (hf : Blind f) {s s' : Screen} (h : s.Alike s') :
    (f s).Alike (f s') where
  visible_eq := by rw [hf.visible_eq s, hf.visible_eq s', h.visible_eq]
  scrollbackLines_eq := by
    have h' := h.scrollbackLines_eq
    unfold scrollbackLines at h' ⊢
    rw [hf.scrollback_eq s, hf.scrollback_eq s', h']

end Blind

/-! ### Blind operations -/

theorem blind_cancelWrap : Blind cancelWrap := ⟨fun _ => rfl, fun _ => rfl⟩

theorem blind_carriageReturn : Blind carriageReturn := ⟨fun _ => rfl, fun _ => rfl⟩

theorem blind_backspace : Blind backspace := ⟨fun _ => rfl, fun _ => rfl⟩

theorem blind_tab : Blind tab := ⟨fun _ => rfl, fun _ => rfl⟩

theorem blind_cursorUp (n : Nat) : Blind (·.cursorUp n) := ⟨fun _ => rfl, fun _ => rfl⟩

theorem blind_cursorDown (n : Nat) : Blind (·.cursorDown n) := ⟨fun _ => rfl, fun _ => rfl⟩

theorem blind_cursorForward (n : Nat) : Blind (·.cursorForward n) := ⟨fun _ => rfl, fun _ => rfl⟩

theorem blind_cursorBackward (n : Nat) : Blind (·.cursorBackward n) := ⟨fun _ => rfl, fun _ => rfl⟩

theorem blind_cursorColumn (col : Nat) : Blind (·.cursorColumn col) := ⟨fun _ => rfl, fun _ => rfl⟩

theorem blind_cursorRow (row : Nat) : Blind (·.cursorRow row) := ⟨fun _ => rfl, fun _ => rfl⟩

theorem blind_cursorPosition (row col : Nat) : Blind (·.cursorPosition row col) :=
  (blind_cursorColumn col).comp (blind_cursorRow row)

theorem blind_saveCursor : Blind saveCursor := ⟨fun _ => rfl, fun _ => rfl⟩

theorem blind_restoreCursor : Blind restoreCursor where
  visible_eq s := by
    cases h : s.savedCursor with
    | none => simp [restoreCursor, h, visible]
    | some c => simp [restoreCursor, h, visible]
  scrollback_eq s := by
    unfold restoreCursor
    split <;> rfl

theorem blind_setPrivateMode (mode : Nat) (on : Bool) : Blind (·.setPrivateMode mode on) := by
  unfold setPrivateMode
  split
  · exact ⟨fun _ => rfl, fun _ => rfl⟩
  · split
    · exact ⟨fun _ => rfl, fun _ => rfl⟩
    · exact .id

theorem blind_setPrivateModes (params : List Nat) (on : Bool) :
    Blind fun s => params.foldl (fun s p => s.setPrivateMode p on) s := by
  induction params with
  | nil => exact .id
  | cons p params ih => exact ih.comp (blind_setPrivateMode p on)

theorem blind_setLineFeedNewLine (on : Bool) : Blind (·.setLineFeedNewLine on) :=
  ⟨fun _ => rfl, fun _ => rfl⟩

theorem blind_setMargins (top bottom : Nat) : Blind (·.setMargins top bottom) :=
  ⟨fun _ => rfl, fun _ => rfl⟩

theorem blind_deleteAt (top n : Nat) : Blind (·.deleteAt top n) := ⟨fun _ => rfl, fun _ => rfl⟩

theorem blind_scrollDown (n : Nat) : Blind (·.scrollDown n) := ⟨fun _ => rfl, fun _ => rfl⟩

theorem blind_insertLines (n : Nat) : Blind (·.insertLines n) :=
  .ite (fun _ => Iff.rfl) ⟨fun _ => rfl, fun _ => rfl⟩ .id

theorem blind_deleteLines (n : Nat) : Blind (·.deleteLines n) :=
  .ite (fun _ => Iff.rfl) ⟨fun _ => rfl, fun _ => rfl⟩ .id

theorem blind_reverseIndex : Blind reverseIndex :=
  (Blind.ite (p := fun s => s.cursor.row = s.margins.top)
    (g := fun s => { s with cursor.row := s.cursor.row - 1 }) (fun _ => Iff.rfl)
    (blind_scrollDown 1) ⟨fun _ => rfl, fun _ => rfl⟩).comp blind_cancelWrap

theorem blind_insertChars (n : Nat) : Blind (·.insertChars n) := ⟨fun _ => rfl, fun _ => rfl⟩

theorem blind_deleteChars (n : Nat) : Blind (·.deleteChars n) := ⟨fun _ => rfl, fun _ => rfl⟩

theorem blind_eraseChars (n : Nat) : Blind (·.eraseChars n) := ⟨fun _ => rfl, fun _ => rfl⟩

theorem blind_eraseLine (part : Nat) : Blind (·.eraseLine part) := by
  unfold eraseLine
  dsimp only
  split
  · exact ⟨fun _ => rfl, fun _ => rfl⟩
  · exact ⟨fun _ => rfl, fun _ => rfl⟩
  · exact ⟨fun _ => rfl, fun _ => rfl⟩
  · exact .id

theorem blind_attach (c : Char) : Blind (·.attach c) := ⟨fun _ => rfl, fun _ => rfl⟩

theorem blind_place (c : Char) (width : Nat) : Blind (·.place c width) :=
  .ite (p := fun s => s.size.cols ≤ s.cursor.col + width) (fun _ => Iff.rfl)
    ⟨fun _ => rfl, fun _ => rfl⟩ ⟨fun _ => rfl, fun _ => rfl⟩

/-! ### Operations on alike screens -/

namespace Alike

variable {s s' : Screen}

theorem refl (s : Screen) : s.Alike s := ⟨rfl, rfl⟩

theorem symm (h : s.Alike s') : s'.Alike s := ⟨h.visible_eq.symm, h.scrollbackLines_eq.symm⟩

theorem trans {s'' : Screen} (h : s.Alike s') (h' : s'.Alike s'') : s.Alike s'' :=
  ⟨h.visible_eq.trans h'.visible_eq, h.scrollbackLines_eq.trans h'.scrollbackLines_eq⟩

/-- What depends on the visible alone is the same. -/
theorem eq_of {α : Type} (h : s.Alike s') (f : Screen → α) (hf : ∀ s, f s = f s.visible) :
    f s = f s' := by
  rw [hf s, hf s', h.visible_eq]

theorem size_eq (h : s.Alike s') : s.size = s'.size := h.eq_of size fun _ => rfl

theorem lines_eq (h : s.Alike s') : s.lines = s'.lines := h.eq_of lines fun _ => rfl

theorem cursor_eq (h : s.Alike s') : s.cursor = s'.cursor := h.eq_of cursor fun _ => rfl

theorem margins_eq (h : s.Alike s') : s.margins = s'.margins := h.eq_of margins fun _ => rfl

theorem autoWrap_eq (h : s.Alike s') : s.modes.autoWrap = s'.modes.autoWrap :=
  h.eq_of (fun s => s.modes.autoWrap) fun _ => rfl

theorem lineFeedNewLine_eq (h : s.Alike s') :
    s.modes.lineFeedNewLine = s'.modes.lineFeedNewLine :=
  h.eq_of (fun s => s.modes.lineFeedNewLine) fun _ => rfl

theorem screenLines_eq (h : s.Alike s') : s.screenLines = s'.screenLines := by
  rw [screenLines, screenLines, h.lines_eq]

/-- The same choice is made on both screens. -/
theorem ite {f g : Screen → Screen} {p : Screen → Prop} [DecidablePred p] (hp : p s ↔ p s')
    (hf : (f s).Alike (f s')) (hg : (g s).Alike (g s')) :
    (if p s then f s else g s).Alike (if p s' then f s' else g s') := by
  by_cases h : p s
  · rwa [if_pos h, if_pos (hp.1 h)]
  · rwa [if_neg h, if_neg (mt hp.2 h)]

theorem pushAll (h : s.Alike s') (rows : List Row) :
    Alike { s with scrollback := s.scrollback.pushAll rows }
      { s' with scrollback := s'.scrollback.pushAll rows } where
  visible_eq := h.visible_eq
  scrollbackLines_eq := by
    have htexts := h.scrollbackLines_eq
    unfold scrollbackLines at htexts ⊢
    dsimp only
    generalize s.scrollback = sb, s'.scrollback = sb' at htexts ⊢
    induction rows generalizing sb sb' with
    | nil => exact htexts
    | cons row rows ih =>
      refine ih _ _ ?_
      have hsize : sb.size = sb'.size := by simpa using congrArg List.length htexts
      rw [Scrollback.toList_push, Scrollback.toList_push, hsize]
      split
      · rw [List.map_append, List.map_append, htexts]
      · rw [List.map_drop, List.map_drop, List.map_append, List.map_append, htexts]

theorem leaving_eq (h : s.Alike s') (n : Nat) : s.leaving n = s'.leaving n :=
  h.eq_of (·.leaving n) fun _ => rfl

theorem scrollUp (h : s.Alike s') (n : Nat) : (s.scrollUp n).Alike (s'.scrollUp n) := by
  by_cases htop : s.margins.top = 0
  · have htop' : s'.margins.top = 0 := h.margins_eq ▸ htop
    simp only [Screen.scrollUp, htop, htop', if_true, h.leaving_eq n]
    exact (blind_deleteAt 0 n).alike (h.pushAll _)
  · have htop' : ¬ s'.margins.top = 0 := h.margins_eq ▸ htop
    simp only [Screen.scrollUp, htop, htop', if_false]
    exact Blind.alike (f := fun s => s.deleteAt s.margins.top n)
      ⟨fun _ => rfl, fun _ => rfl⟩ h

theorem blind_down : Blind fun s =>
    if s.cursor.row + 1 < s.size.rows then { s with cursor.row := s.cursor.row + 1 } else s :=
  .ite (fun _ => Iff.rfl) ⟨fun _ => rfl, fun _ => rfl⟩ .id

theorem lineFeed (h : s.Alike s') : s.lineFeed.Alike s'.lineFeed := by
  have hcancel := blind_cancelWrap.alike h
  exact ite (p := fun s => s.cursor.row = s.margins.bottom) (f := fun s => s.scrollUp 1)
    (g := fun s =>
      if s.cursor.row + 1 < s.size.rows then { s with cursor.row := s.cursor.row + 1 } else s)
    (by rw [hcancel.cursor_eq, hcancel.margins_eq]) (hcancel.scrollUp 1) (blind_down.alike hcancel)

theorem wrapLine (h : s.Alike s') : s.wrapLine.Alike s'.wrapLine := by
  have hcancel := blind_cancelWrap.alike h
  have hreturn : Blind fun s => { s with cursor.col := 0 } := ⟨fun _ => rfl, fun _ => rfl⟩
  exact ite (p := fun s => s.modes.autoWrap = true)
    (f := fun s => ({ s with cursor.col := 0 } : Screen).lineFeed) (g := fun s => s)
    (by rw [hcancel.autoWrap_eq]) (hreturn.alike hcancel).lineFeed hcancel

theorem put (h : s.Alike s') (c : Char) : (s.put c).Alike (s'.put c) := by
  have hpending := ite (p := fun s => s.cursor.wrapPending = true) (f := Screen.wrapLine)
    (g := fun s => s) (by rw [h.cursor_eq]) h.wrapLine h
  unfold Screen.put
  dsimp only
  split
  · exact (blind_attach c).alike h
  · generalize (if s.cursor.wrapPending then s.wrapLine else s) = t at hpending ⊢
    generalize (if s'.cursor.wrapPending then s'.wrapLine else s') = t' at hpending ⊢
    have hover := hpending.eq_of (·.overhangs (charWidth c)) fun _ => rfl
    exact (blind_place c _).alike (ite (p := fun s => s.overhangs (charWidth c) = true)
      (f := Screen.wrapLine) (g := fun s => s) (by rw [hover]) hpending.wrapLine hpending)

theorem eraseDisplay (h : s.Alike s') (part : Nat) :
    (s.eraseDisplay part).Alike (s'.eraseDisplay part) := by
  unfold Screen.eraseDisplay
  dsimp only
  split
  · exact Blind.alike (f := fun s => (s.eraseLine 0).eraseRows (s.cursor.row + 1) s.lines.size)
      ⟨fun _ => rfl, fun _ => rfl⟩ h
  · exact Blind.alike (f := fun s => (s.eraseLine 1).eraseRows 0 s.cursor.row)
      ⟨fun _ => rfl, fun _ => rfl⟩ h
  · exact Blind.alike (f := fun s => s.eraseRows 0 s.lines.size) ⟨fun _ => rfl, fun _ => rfl⟩ h
  · exact ⟨h.visible_eq, rfl⟩
  · exact h

theorem execute (h : s.Alike s') (isPrivate : Bool) (final : Char) (params : List Nat) :
    (s.execute isPrivate final params).Alike (s'.execute isPrivate final params) := by
  unfold Screen.execute
  dsimp only
  split
  · split
    · exact (blind_setPrivateModes params true).alike h
    · exact (blind_setPrivateModes params false).alike h
    · exact h
  · split
    · exact (blind_cursorUp _).alike h
    · exact (blind_cursorDown _).alike h
    · exact (blind_cursorDown _).alike h
    · exact (blind_cursorForward _).alike h
    · exact (blind_cursorForward _).alike h
    · exact (blind_cursorBackward _).alike h
    · exact blind_carriageReturn.alike ((blind_cursorDown _).alike h)
    · exact blind_carriageReturn.alike ((blind_cursorUp _).alike h)
    · exact (blind_cursorColumn _).alike h
    · exact (blind_cursorColumn _).alike h
    · exact (blind_cursorPosition _ _).alike h
    · exact (blind_cursorPosition _ _).alike h
    · exact (blind_cursorRow _).alike h
    · exact h.eraseDisplay _
    · exact (blind_eraseLine _).alike h
    · exact (blind_insertLines _).alike h
    · exact (blind_deleteLines _).alike h
    · exact (blind_insertChars _).alike h
    · exact (blind_deleteChars _).alike h
    · exact (blind_eraseChars _).alike h
    · exact h.scrollUp _
    · exact (blind_scrollDown _).alike h
    · exact (blind_setMargins _ _).alike h
    · exact blind_saveCursor.alike h
    · exact blind_restoreCursor.alike h
    · split
      · exact (blind_setLineFeedNewLine true).alike h
      · exact h
    · split
      · exact (blind_setLineFeedNewLine false).alike h
      · exact h
    · exact h

theorem control (h : s.Alike s') (byte : UInt8) : (s.control byte).Alike (s'.control byte) := by
  unfold Screen.control
  split
  · exact blind_backspace.alike h
  · split
    · exact blind_tab.alike h
    · split
      · exact ite (p := fun s => s.modes.lineFeedNewLine = true)
          (f := fun s => s.lineFeed.carriageReturn) (g := Screen.lineFeed)
          (by rw [h.lineFeedNewLine_eq]) (blind_carriageReturn.alike h.lineFeed) h.lineFeed
      · split
        · exact blind_carriageReturn.alike h
        · exact h

theorem escaped (h : s.Alike s') (byte : UInt8) : (s.escaped byte).Alike (s'.escaped byte) := by
  unfold Screen.escaped
  split
  · exact blind_saveCursor.alike h
  · exact blind_restoreCursor.alike h
  · exact h.lineFeed
  · exact (blind_carriageReturn.alike h).lineFeed
  · exact blind_reverseIndex.alike h
  · rw [h.size_eq]
    exact .refl _
  · exact h

theorem act (h : s.Alike s') (a : ScreenAction) : (s.act a).Alike (s'.act a) := by
  cases a with
  | put c => exact h.put c
  | control byte => exact h.control byte
  | escaped byte => exact h.escaped byte
  | execute isPrivate final params => exact h.execute isPrivate final params
  | retitle t => exact ⟨h.visible_eq, h.scrollbackLines_eq⟩

theorem actAll (h : s.Alike s') (actions : List ScreenAction) :
    (s.actAll actions).Alike (s'.actAll actions) := by
  induction actions generalizing s s' with
  | nil => exact h
  | cons a actions ih => exact ih (h.act a)

end Alike

end Screen

/-! ### Surfaces -/

namespace Surface

/-- The screens are alike, and so are the decoders. -/
structure Alike (s s' : Surface) : Prop where
  screen : s.screen.Alike s'.screen
  decoder_eq : s.decoder = s'.decoder

namespace Alike

variable {s s' : Surface}

theorem symm (h : s.Alike s') : s'.Alike s := ⟨h.screen.symm, h.decoder_eq.symm⟩

theorem trans {s'' : Surface} (h : s.Alike s') (h' : s'.Alike s'') : s.Alike s'' :=
  ⟨h.screen.trans h'.screen, h.decoder_eq.trans h'.decoder_eq⟩

theorem feed (h : s.Alike s') (byte : UInt8) :
    (s.feed byte).1.Alike (s'.feed byte).1 ∧ (s.feed byte).2 = (s'.feed byte).2 := by
  rw [feed_eq, feed_eq, h.decoder_eq]
  exact ⟨⟨h.screen.actAll _, rfl⟩, rfl⟩

/-- Writing the same bytes keeps surfaces alike and completes the same commands. -/
theorem write (h : s.Alike s') (bytes : List UInt8) :
    (s.write bytes).1.Alike (s'.write bytes).1 ∧ (s.write bytes).2 = (s'.write bytes).2 := by
  induction bytes generalizing s s' with
  | nil => exact ⟨h, rfl⟩
  | cons byte bytes ih =>
    obtain ⟨hfeed, hcommand⟩ := h.feed byte
    obtain ⟨hwrite, hcommands⟩ := ih hfeed
    rw [write_cons, write_cons]
    exact ⟨hwrite, by rw [hcommand, hcommands]⟩

end Alike

end Surface

end TermSession
