import TermSession.Proofs.Terminal.Typing

/-!
# What bytes make a terminal do

What becomes of a byte depends only on what the terminal remembers between two bytes, never on the
screen.  All that a byte does to the screen is a few actions.

* `ScreenAction`, `Screen.act`, `Screen.actAll`: the actions;
* `Decoder.Step`, `Decoder.step`: the actions of one byte and the next state;
* `Decoder.isInterim_step`: all actions of a byte but the last show U+FFFD or set the title;
* `Decoder.command?`: the command that a byte completes;
* `Surface.feed_eq`, `Surface.write_eq`: surfaces do just that;
* `Surface.completions`: the commands with the positions at which they end.
-/

namespace TermSession

/-- What a byte may do to a screen. -/
inductive ScreenAction where
  | put (c : Char)
  | control (byte : UInt8)
  | escaped (byte : UInt8)
  | execute (isPrivate : Bool) (final : Char) (params : List Nat)
  | retitle (t : Text)
  deriving Repr, Inhabited

namespace Screen

/-- Carries an action out. -/
def act (s : Screen) : ScreenAction → Screen
  | .put c => s.put c
  | .control byte => s.control byte
  | .escaped byte => s.escaped byte
  | .execute isPrivate final params => s.execute isPrivate final params
  | .retitle t => { s with title := t }

/-- Carries actions out in order. -/
def actAll (s : Screen) (actions : List ScreenAction) : Screen := actions.foldl act s

@[simp] theorem actAll_nil (s : Screen) : s.actAll [] = s := rfl

@[simp] theorem actAll_cons (s : Screen) (a : ScreenAction) (actions : List ScreenAction) :
    s.actAll (a :: actions) = (s.act a).actAll actions := rfl

@[simp] theorem actAll_append (s : Screen) (actions actions' : List ScreenAction) :
    s.actAll (actions ++ actions') = (s.actAll actions).actAll actions' := List.foldl_append

end Screen

namespace OscBuffer

/-- The command that was collected, unless it overflowed. -/
def read? (b : OscBuffer) : Option OscCommand :=
  if b.overflowed then none else OscCommand.read? (Utf8.lossy b.bytes)

/-- The title that the command sets. -/
def actions (b : OscBuffer) : List ScreenAction :=
  match b.read? with
  | some command => if command.code = 0 || command.code = 2 then [.retitle command.payload] else []
  | none => []

/-- The command, if it is one that is handed out. -/
def command? (b : OscBuffer) : Option OscCommand := b.read?.filter (2 < ·.code)

theorem finish_eq (b : OscBuffer) (s : Screen) :
    b.finish s = (s.actAll b.actions, b.command?) := by
  unfold finish actions command? read?
  split
  · rfl
  · split
    · rename_i h
      simp [h]
    · rename_i command h
      rw [h]
      by_cases hcode : command.code = 0 ∨ command.code = 2
      · have hle : ¬ 2 < command.code := by omega
        simp [hcode, Option.filter, hle, Screen.act]
      · by_cases hone : command.code = 1
        · simp [hone, Option.filter]
        · have hlt : 2 < command.code := by omega
          simp [hcode, hone, Option.filter, hlt]

end OscBuffer

namespace Decoder

/-- What becomes of a byte. -/
structure Step where
  actions : List ScreenAction := []
  next : Decoder := .idle

/-- An unfinished character is shown as U+FFFD. -/
def flushed (held : List UInt8) : List ScreenAction :=
  if held.isEmpty then [] else [.put Utf8.replacement]

/-- The state without an unfinished character. -/
def settled : Decoder → Decoder
  | ground _ => idle
  | d => d

/-- A control character outside operating system commands. -/
def stepControl (d : Decoder) (byte : UInt8) : Step :=
  if byte = 0x1B then { actions := flushed d.held, next := .escape }
  else if byte = 0x18 || byte = 0x1A then { actions := flushed d.held }
  else { actions := flushed d.held ++ [.control byte], next := d.settled }

/-- A byte of a character above U+007F, after the bytes `held`. -/
def stepCollect (held : List UInt8) (byte : UInt8) : Step :=
  let bytes := held ++ [byte]
  if (bytes.head?.bind Utf8.announced) = some bytes.length then
    { actions := [.put ((Utf8.decode? bytes).getD Utf8.replacement)] }
  else { next := .ground bytes }

/-- A byte of plain text. -/
def stepText (held : List UInt8) (byte : UInt8) : Step :=
  if byte < 0x80 then
    { actions := flushed held ++ if byte = 0x7F then [] else [.put (Char.ofNat byte.toNat)] }
  else if held.isEmpty || !Utf8.isContinuation byte then
    if (Utf8.announced byte).isSome then
      let step := stepCollect [] byte
      { step with actions := flushed held ++ step.actions }
    else { actions := flushed held ++ [.put Utf8.replacement] }
  else stepCollect held byte

/-- The byte after ESC. -/
def stepEscape (byte : UInt8) : Step :=
  { actions := [.escaped byte]
    next :=
      if byte = 0x5B then .csiEntry {}
      else if byte = 0x5D then .oscString {}
      else if 0x20 ≤ byte && byte ≤ 0x2F then .escapeIntermediate
      else .idle }

/-- The final byte of a control sequence. -/
def stepFinish (marks : Marks) (params : List Nat) (byte : UInt8) : Step :=
  { actions :=
      if marks.isOther && !marks.isPrivate then []
      else [.execute marks.isPrivate (Char.ofNat byte.toNat) params] }

/-- A byte right after `ESC [` and marks. -/
def stepCsiEntry (marks : Marks) (byte : UInt8) : Step :=
  if 0x30 ≤ byte && byte ≤ 0x39 then { next := .csiParam marks [] (some (byte.toNat - 0x30)) }
  else if byte = 0x3B then { next := .csiParam marks [0] none }
  else if byte = 0x3F then { next := .csiEntry { marks with isPrivate := true } }
  else if byte = 0x21 || byte = 0x3D || byte = 0x3E then
    { next := .csiEntry { marks with isOther := true } }
  else if 0x20 ≤ byte && byte ≤ 0x2F then { next := .csiIntermediate { marks with isOther := true } [] }
  else if 0x40 ≤ byte && byte ≤ 0x7E then stepFinish marks [] byte
  else {}

/-- A byte inside the parameters. -/
def stepCsiParam (marks : Marks) (closed : List Nat) (current : Option Nat) (byte : UInt8) : Step :=
  if 0x30 ≤ byte && byte ≤ 0x39 then
    { next := .csiParam marks closed (some (addDigit current (byte.toNat - 0x30))) }
  else if byte = 0x3A || byte = 0x3B then
    { next := .csiParam marks (current.getD 0 :: closed) none }
  else if 0x20 ≤ byte && byte ≤ 0x2F then
    { next := .csiIntermediate { marks with isOther := true } (close closed current) }
  else if 0x40 ≤ byte && byte ≤ 0x7E then stepFinish marks (close closed current).reverse byte
  else {}

/-- A byte after intermediate bytes. -/
def stepCsiIntermediate (marks : Marks) (closed : List Nat) (byte : UInt8) : Step :=
  if 0x20 ≤ byte && byte ≤ 0x2F then { next := .csiIntermediate marks closed }
  else if 0x40 ≤ byte && byte ≤ 0x7E then stepFinish marks closed.reverse byte
  else {}

/-- A byte inside an operating system command. -/
def stepOscString (buffer : OscBuffer) (byte : UInt8) : Step :=
  if byte = 0x07 then { actions := buffer.actions }
  else if byte = 0x1B then { next := .oscEscape buffer }
  else { next := .oscString (buffer.push byte) }

/-- The byte after an ESC inside an operating system command. -/
def stepOscEscape (buffer : OscBuffer) (byte : UInt8) : Step :=
  if byte = 0x5C then { actions := buffer.actions }
  else
    let step := stepEscape byte
    { step with actions := buffer.actions ++ step.actions }

/-- A byte that is no control character, outside operating system commands. -/
def stepGraphic (d : Decoder) (byte : UInt8) : Step :=
  match d with
  | .escape => stepEscape byte
  | .escapeIntermediate => { next := if byte ≤ 0x2F then .escapeIntermediate else .idle }
  | .csiEntry marks => stepCsiEntry marks byte
  | .csiParam marks closed current => stepCsiParam marks closed current byte
  | .csiIntermediate marks closed => stepCsiIntermediate marks closed byte
  | d => stepText d.held byte

/-- What becomes of one byte. -/
def step (d : Decoder) (byte : UInt8) : Step :=
  match d with
  | .oscString buffer => stepOscString buffer byte
  | .oscEscape buffer => stepOscEscape buffer byte
  | d => if byte < 0x20 then d.stepControl byte else d.stepGraphic byte

/-- The command that a byte completes. -/
def command? (d : Decoder) (byte : UInt8) : Option OscCommand :=
  match d with
  | .oscString buffer => if byte = 0x07 then buffer.command? else none
  | .oscEscape buffer => buffer.command?
  | _ => none

/-- The state after bytes. -/
def after (d : Decoder) (bytes : List UInt8) : Decoder :=
  bytes.foldl (fun d byte => (d.step byte).next) d

/-- The commands that bytes complete, in order. -/
def commands : Decoder → List UInt8 → List OscCommand
  | _, [] => []
  | d, byte :: bytes => (d.command? byte).toList ++ commands (d.step byte).next bytes

/-- What a step makes of a screen. -/
def Step.apply (step : Step) (s : Screen) : Surface := ⟨s.actAll step.actions, step.next⟩

end Decoder

/-! ### Interim actions -/

/-- The action shows U+FFFD or sets the title. -/
def ScreenAction.IsInterim : ScreenAction → Prop
  | .put c => c = Utf8.replacement
  | .retitle _ => True
  | _ => False

namespace Decoder

theorem isInterim_flushed (held : List UInt8) : ∀ a ∈ flushed held, a.IsInterim := by
  unfold flushed
  split
  · exact List.forall_mem_nil _
  · exact List.forall_mem_singleton.2 rfl

theorem isInterim_oscActions (buffer : OscBuffer) : ∀ a ∈ buffer.actions, a.IsInterim := by
  unfold OscBuffer.actions
  repeat' split
  · exact List.forall_mem_singleton.2 trivial
  · exact List.forall_mem_nil _
  · exact List.forall_mem_nil _

theorem isInterim_dropLast {first last : List ScreenAction}
    (hfirst : ∀ a ∈ first, a.IsInterim) (hlast : last.length ≤ 1) :
    ∀ a ∈ (first ++ last).dropLast, a.IsInterim := by
  intro a ha
  refine hfirst a ?_
  match last, hlast with
  | [], _ =>
    rw [List.append_nil] at ha
    exact (List.dropLast_sublist first).subset ha
  | [b], _ => rwa [List.dropLast_concat] at ha

theorem isInterim_of_length_le_one {actions : List ScreenAction} (h : actions.length ≤ 1) :
    ∀ a ∈ actions.dropLast, a.IsInterim :=
  isInterim_dropLast (List.forall_mem_nil _) h

theorem length_stepCollect (held : List UInt8) (byte : UInt8) :
    (stepCollect held byte).actions.length ≤ 1 := by
  unfold stepCollect
  dsimp only
  split <;> simp

theorem length_stepFinish (marks : Marks) (params : List Nat) (byte : UInt8) :
    (stepFinish marks params byte).actions.length ≤ 1 := by
  unfold stepFinish
  dsimp only
  split <;> simp

theorem isInterim_stepText (held : List UInt8) (byte : UInt8) :
    ∀ a ∈ (stepText held byte).actions.dropLast, a.IsInterim := by
  unfold stepText
  split
  · refine isInterim_dropLast (isInterim_flushed held) ?_
    split <;> simp
  · split
    · split
      · exact isInterim_dropLast (isInterim_flushed held) (length_stepCollect ..)
      · exact isInterim_dropLast (isInterim_flushed held) (by simp)
    · exact isInterim_of_length_le_one (length_stepCollect ..)

theorem isInterim_stepGraphic (d : Decoder) (byte : UInt8) :
    ∀ a ∈ (d.stepGraphic byte).actions.dropLast, a.IsInterim := by
  unfold stepGraphic stepCsiEntry stepCsiParam stepCsiIntermediate
  split
  all_goals
    repeat' split
    all_goals first
      | exact isInterim_stepText _ _
      | exact isInterim_of_length_le_one (length_stepFinish ..)
      | exact isInterim_of_length_le_one (Nat.le_refl 1)
      | exact isInterim_of_length_le_one (Nat.zero_le 1)

/-- What a byte does before its last action is that: it ends an unfinished character or a command. -/
theorem isInterim_step (d : Decoder) (byte : UInt8) :
    ∀ a ∈ (d.step byte).actions.dropLast, a.IsInterim := by
  have hall {first : List ScreenAction} (hfirst : ∀ a ∈ first, a.IsInterim) :
      ∀ a ∈ first.dropLast, a.IsInterim := fun a ha =>
    hfirst a ((List.dropLast_sublist first).subset ha)
  unfold step
  split
  · rename_i buffer
    unfold stepOscString
    repeat' split
    · exact hall (isInterim_oscActions buffer)
    · simp
    · simp
  · rename_i buffer
    unfold stepOscEscape
    split
    · exact hall (isInterim_oscActions buffer)
    · exact isInterim_dropLast (isInterim_oscActions buffer) (Nat.le_refl 1)
  · split
    · unfold stepControl
      repeat' split
      · exact hall (isInterim_flushed _)
      · exact hall (isInterim_flushed _)
      · exact isInterim_dropLast (isInterim_flushed _) (Nat.le_refl 1)
    · exact isInterim_stepGraphic d byte

end Decoder

/-! ### Surfaces -/

namespace Surface

variable (s : Surface)

theorem flush_eq {held : List UInt8} (h : s.decoder = .ground held) :
    s.flush = ⟨s.screen.actAll (Decoder.flushed held), .idle⟩ := by
  obtain ⟨screen, decoder⟩ := s
  obtain rfl : decoder = .ground held := h
  cases held with
  | nil => rfl
  | cons byte held => simp [flush, Decoder.flushed, Screen.act]

theorem flush_control_eq (byte : UInt8) :
    s.flush.control byte = (s.decoder.stepControl byte).apply s.screen := by
  have hflush : s.flush = ⟨s.screen.actAll (Decoder.flushed s.decoder.held), s.decoder.settled⟩ := by
    obtain ⟨screen, decoder⟩ := s
    cases decoder with
    | ground held => exact flush_eq _ rfl
    | _ => rfl
  rw [hflush]
  unfold control Decoder.stepControl Decoder.Step.apply
  split
  · rfl
  · split
    · rfl
    · simp [Screen.act]

theorem collect_eq (held : List UInt8) (byte : UInt8) :
    s.collect held byte = (Decoder.stepCollect held byte).apply s.screen := by
  unfold collect Decoder.stepCollect Decoder.Step.apply
  dsimp only
  split <;> rfl

theorem text_eq (byte : UInt8) {held : List UInt8} (h : s.decoder = .ground held) :
    s.text byte = (Decoder.stepText held byte).apply s.screen := by
  have hheld : s.decoder.held = held := by rw [h]; rfl
  unfold text Decoder.stepText
  rw [hheld, flush_eq s h]
  split
  · dsimp only [Decoder.Step.apply]
    split <;> simp [Screen.act]
  · split
    · cases hannounced : Utf8.announced byte with
      | none => simp [Decoder.Step.apply, Screen.act]
      | some n => simp [collect_eq, Decoder.Step.apply]
    · exact collect_eq s held byte

theorem finish_eq (marks : Marks) (params : List Nat) (byte : UInt8) :
    s.finish marks params byte = (Decoder.stepFinish marks params byte).apply s.screen := by
  unfold finish Decoder.stepFinish Decoder.Step.apply
  split <;> rfl

theorem csiEntry_eq (marks : Marks) (byte : UInt8) :
    s.csiEntry marks byte = (Decoder.stepCsiEntry marks byte).apply s.screen := by
  unfold csiEntry Decoder.stepCsiEntry
  simp only [finish_eq, apply_ite (Decoder.Step.apply · s.screen)]
  rfl

theorem csiParam_eq (marks : Marks) (closed : List Nat) (current : Option Nat) (byte : UInt8) :
    s.csiParam marks closed current byte =
      (Decoder.stepCsiParam marks closed current byte).apply s.screen := by
  unfold csiParam Decoder.stepCsiParam
  simp only [finish_eq, apply_ite (Decoder.Step.apply · s.screen)]
  rfl

theorem csiIntermediate_eq {marks : Marks} {closed : List Nat}
    (h : s.decoder = .csiIntermediate marks closed) (byte : UInt8) :
    s.csiIntermediate marks closed byte =
      (Decoder.stepCsiIntermediate marks closed byte).apply s.screen := by
  obtain ⟨screen, decoder⟩ := s
  obtain rfl : decoder = .csiIntermediate marks closed := h
  unfold csiIntermediate Decoder.stepCsiIntermediate
  simp only [finish_eq, apply_ite (Decoder.Step.apply · screen)]
  rfl

theorem oscString_eq (buffer : OscBuffer) (byte : UInt8) :
    s.oscString buffer byte =
      ((Decoder.stepOscString buffer byte).apply s.screen,
        (Decoder.oscString buffer).command? byte) := by
  unfold oscString Decoder.stepOscString Decoder.command? Decoder.Step.apply
  rw [OscBuffer.finish_eq]
  split
  · rfl
  · split <;> rfl

theorem oscEscape_eq (buffer : OscBuffer) (byte : UInt8) :
    s.oscEscape buffer byte =
      ((Decoder.stepOscEscape buffer byte).apply s.screen, buffer.command?) := by
  unfold oscEscape Decoder.stepOscEscape Decoder.Step.apply
  rw [OscBuffer.finish_eq]
  dsimp only
  split
  · rfl
  · simp only [Screen.actAll_append]
    rfl

/-- A surface does with a byte what its decoder says. -/
theorem feed_eq (byte : UInt8) :
    s.feed byte = ((s.decoder.step byte).apply s.screen, s.decoder.command? byte) := by
  unfold feed
  split
  · rename_i buffer hd
    rw [hd]
    exact oscString_eq s buffer byte
  · rename_i buffer hd
    rw [hd]
    exact oscEscape_eq s buffer byte
  · rename_i hstring hescape
    have hcommand : s.decoder.command? byte = none := by
      unfold Decoder.command?
      split
      · exact (hstring _ ‹_›).elim
      · exact (hescape _ ‹_›).elim
      · rfl
    have hstep : s.decoder.step byte =
        if byte < 0x20 then s.decoder.stepControl byte else s.decoder.stepGraphic byte := by
      unfold Decoder.step
      split
      · exact (hstring _ ‹_›).elim
      · exact (hescape _ ‹_›).elim
      · rfl
    rw [hcommand, hstep]
    split
    · rw [flush_control_eq]
    · unfold Decoder.stepGraphic
      cases hd : s.decoder with
      | oscString buffer => exact absurd hd (hstring buffer)
      | oscEscape buffer => exact absurd hd (hescape buffer)
      | ground held => exact congrArg (·, none) (text_eq s byte hd)
      | escape => rfl
      | escapeIntermediate =>
        dsimp only
        split
        · obtain ⟨screen, decoder⟩ := s
          obtain rfl : decoder = .escapeIntermediate := hd
          rfl
        · rfl
      | csiEntry marks => exact congrArg (·, none) (csiEntry_eq s marks byte)
      | csiParam marks closed current =>
        exact congrArg (·, none) (csiParam_eq s marks closed current byte)
      | csiIntermediate marks closed =>
        exact congrArg (·, none) (csiIntermediate_eq s hd byte)

/-- The decoder after a write, and the commands that it completes, do not depend on the screen. -/
theorem write_eq (bytes : List UInt8) :
    (s.write bytes).1.decoder = s.decoder.after bytes ∧
      (s.write bytes).2 = s.decoder.commands bytes := by
  induction bytes generalizing s with
  | nil => exact ⟨rfl, rfl⟩
  | cons byte bytes ih =>
    obtain ⟨hdecoder, hcommands⟩ := ih (s.feed byte).1
    rw [write_cons]
    rw [feed_eq] at hdecoder hcommands ⊢
    exact ⟨hdecoder, congrArg (_ ++ ·) hcommands⟩

/-- Surfaces that remember the same find the same commands. -/
theorem write_congr {s s' : Surface} (h : s'.decoder = s.decoder) (bytes : List UInt8) :
    (s'.write bytes).1.decoder = (s.write bytes).1.decoder ∧
      (s'.write bytes).2 = (s.write bytes).2 := by
  rw [(s'.write_eq bytes).1, (s'.write_eq bytes).2, h, (s.write_eq bytes).1, (s.write_eq bytes).2]
  exact ⟨rfl, rfl⟩

/-! ### Where commands end -/

/-- The commands that bytes complete, each with the position of its last byte; the bytes start at
`position`. -/
def completions (s : Surface) (position : Nat) : List UInt8 → List (Nat × OscCommand)
  | [] => []
  | byte :: bytes =>
    (s.feed byte).2.toList.map (position, ·) ++ completions (s.feed byte).1 (position + 1) bytes

theorem completions_append (s : Surface) (position : Nat) (a b : List UInt8) :
    s.completions position (a ++ b) =
      s.completions position a ++ (s.write a).1.completions (position + a.length) b := by
  induction a generalizing s position with
  | nil => rfl
  | cons byte a ih =>
    rw [List.cons_append, completions, ih, completions, write_cons, List.append_assoc,
      List.length_cons, Nat.add_right_comm, Nat.add_assoc position]

theorem map_snd_completions (s : Surface) (position : Nat) (bytes : List UInt8) :
    (s.completions position bytes).map Prod.snd = (s.write bytes).2 := by
  induction bytes generalizing s position with
  | nil => rfl
  | cons byte bytes ih =>
    rw [completions, List.map_append, ih, write_cons, List.map_map]
    exact congrArg (· ++ _) (List.map_id _)

theorem bounds_of_mem_completions {s : Surface} {position : Nat} {bytes : List UInt8}
    {c : Nat × OscCommand} (h : c ∈ s.completions position bytes) :
    position ≤ c.1 ∧ c.1 < position + bytes.length := by
  induction bytes generalizing s position with
  | nil => cases h
  | cons byte bytes ih =>
    rw [List.length_cons]
    rcases List.mem_append.1 h with h | h
    · obtain ⟨command, -, rfl⟩ := List.mem_map.1 h
      exact ⟨Nat.le_refl _, by omega⟩
    · have := ih h
      omega

/-- The commands that end inside the middle of three pieces. -/
theorem filter_completions (s : Surface) (position : Nat) (a b c : List UInt8) :
    ((s.completions position (a ++ b ++ c)).filter fun e =>
        position + a.length ≤ e.1 ∧ e.1 < position + a.length + b.length).map Prod.snd =
      ((s.write a).1.write b).2 := by
  rw [completions_append, completions_append, List.filter_append, List.filter_append,
    List.length_append, ← Nat.add_assoc, List.filter_eq_nil_iff.2, List.filter_eq_self.2,
    List.filter_eq_nil_iff.2, List.append_nil, List.nil_append, map_snd_completions]
  · intro e he
    have := bounds_of_mem_completions he
    simp only [decide_eq_true_eq]
    omega
  · intro e he
    simpa using bounds_of_mem_completions he
  · intro e he
    have := bounds_of_mem_completions he
    simp only [decide_eq_true_eq]
    omega

end Surface

end TermSession
