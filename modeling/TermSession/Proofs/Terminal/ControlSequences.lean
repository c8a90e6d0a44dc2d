import Mathlib.Data.Nat.Digits.Defs
import TermSession.Proofs.Terminal.Framing

/-!
# Control sequences

A control sequence is `ESC [`, parameter bytes, intermediate bytes and a final byte.  The terminal
reads it byte by byte, and a control character in the middle of it is carried out at once.

* `ControlSequence.parameters`: the parameters that digits and semicolons stand for, read as a
  whole; `Decoder.hasRead_after`: the decoder finds them byte by byte;
* `Surface.write_inside`: bytes inside a sequence, with controls between them;
* `Surface.writeAll_sequence`: what a sequence does, in whatever pieces it is written;
* `ControlSequence.IsRead`: the parameter bytes that are read to their end;
  `Decoder.Swallows`, `Surface.swallows_iff`: sequences with other ones are shown in part.
-/

namespace TermSession

/-! ### Parameters -/

namespace ControlSequence

/-- The number that a field of digits stands for, cut off at sixteen bits; an empty field stands for
zero. -/
def fieldValue (field : List UInt8) : Nat :=
  min (Nat.ofDigits 10 (field.reverse.map fun b => b.toNat - 0x30)) Decimal.maxU16

/-- The parameters that digits and semicolons stand for: the numbers of the fields between the
semicolons, without the last field if it is empty. -/
def parameters (body : List UInt8) : List Nat :=
  let fields := body.splitOn 0x3B
  (if fields.getLast? = some [] then fields.dropLast else fields).map fieldValue

/-- The parameter that the digits of an unfinished field make. -/
def openField (got : List UInt8) : Option Nat := if got = [] then none else some (fieldValue got)

/-- A byte is a digit. -/
def IsDigit (b : UInt8) : Prop := 0x30 ≤ b ∧ b ≤ 0x39

theorem IsDigit.ne_semicolon {b : UInt8} (h : IsDigit b) : b ≠ 0x3B := by
  rintro rfl
  exact absurd h.2 (by decide)

theorem fieldValue_nil : fieldValue [] = 0 := rfl

theorem fieldValue_append_singleton (got : List UInt8) (b : UInt8) :
    fieldValue (got ++ [b]) = min (10 * fieldValue got + (b.toNat - 0x30)) Decimal.maxU16 := by
  unfold fieldValue
  rw [List.reverse_append, List.reverse_singleton, List.singleton_append, List.map_cons,
    Nat.ofDigits_cons]
  omega

theorem getD_openField (got : List UInt8) : (openField got).getD 0 = fieldValue got := by
  unfold openField
  split
  · subst_vars
    rfl
  · rfl

/-- A digit extends the parameter that is being read. -/
theorem addDigit_openField (got : List UInt8) (b : UInt8) :
    some (Decoder.addDigit (openField got) (b.toNat - 0x30)) = openField (got ++ [b]) := by
  have hne : got ++ [b] ≠ [] := by simp
  rw [Decoder.addDigit, getD_openField, openField, if_neg hne, fieldValue_append_singleton]

theorem parameters_of_notMem {got : List UInt8} (h : 0x3B ∉ got) :
    parameters got = (openField got).toList := by
  unfold parameters openField
  rw [List.splitOn_eq_singleton h]
  by_cases hgot : got = []
  · simp [hgot]
  · simp [hgot]

theorem parameters_semicolon {got : List UInt8} (h : 0x3B ∉ got) (body : List UInt8) :
    parameters (got ++ 0x3B :: body) = fieldValue got :: parameters body := by
  obtain ⟨field, fields, hbody⟩ := List.exists_cons_of_ne_nil (List.splitOn_ne_nil 0x3B body)
  unfold parameters
  rw [List.splitOn_append_cons_self_of_not_mem h, hbody]
  dsimp only
  rw [List.getLast?_cons_cons, List.dropLast_cons_cons]
  split
  · rfl
  · rfl

end ControlSequence

open ControlSequence

/-! ### Inside a sequence -/

namespace Decoder

/-- Is this a state inside a control sequence? -/
def isSequence : Decoder → Bool
  | csiEntry _ | csiParam .. | csiIntermediate .. => true
  | _ => false

@[simp] theorem after_cons (d : Decoder) (byte : UInt8) (bytes : List UInt8) :
    d.after (byte :: bytes) = (d.step byte).next.after bytes := rfl

theorem command?_of_isSequence {d : Decoder} (hd : d.isSequence = true) (byte : UInt8) :
    d.command? byte = none := by
  cases d with
  | csiEntry | csiParam | csiIntermediate => rfl
  | _ => cases hd

theorem step_of_isSequence {d : Decoder} (hd : d.isSequence = true) {byte : UInt8}
    (hb : 0x20 ≤ byte) : d.step byte = d.stepGraphic byte := by
  have hlt : ¬ byte < 0x20 := UInt8.not_lt.2 hb
  cases d with
  | csiEntry | csiParam | csiIntermediate => exact if_neg hlt
  | _ => cases hd

/-- A parameter or intermediate byte does nothing to the screen.  The sequence goes on, or plain
text starts. -/
theorem step_inside {d : Decoder} (hd : d.isSequence = true) {byte : UInt8} (hb : 0x20 ≤ byte)
    (hb' : byte ≤ 0x3F) :
    (d.step byte).actions = [] ∧
      ((d.step byte).next.isSequence = true ∨ (d.step byte).next = idle) := by
  have hfinal : ¬ (0x40 ≤ byte && byte ≤ 0x7E) = true := by
    simp only [Bool.and_eq_true, decide_eq_true_eq, UInt8.le_iff_toNat_le] at hb' ⊢
    have h₁ : (0x3F : UInt8).toNat = 63 := rfl
    have h₂ : (0x40 : UInt8).toNat = 64 := rfl
    omega
  rw [step_of_isSequence hd hb]
  cases d with
  | csiEntry | csiParam | csiIntermediate =>
    simp only [stepGraphic, stepCsiEntry, stepCsiParam, stepCsiIntermediate]
    repeat' split
    all_goals first
      | contradiction
      | simp [isSequence]
  | _ => cases hd

/-- A control character inside a sequence is carried out, and the sequence goes on. -/
theorem step_control {d : Decoder} (hd : d.isSequence = true) {byte : UInt8} (hb : byte < 0x20)
    (hesc : byte ≠ 0x1B) (hcan : byte ≠ 0x18) (hsub : byte ≠ 0x1A) :
    d.step byte = { actions := [.control byte], next := d } := by
  cases d with
  | csiEntry | csiParam | csiIntermediate =>
    unfold step stepControl
    dsimp only
    rw [if_pos hb, if_neg hesc, if_neg (by simp [hcan, hsub])]
    rfl
  | _ => cases hd

/-- Printable bytes of plain text are no start of a sequence. -/
theorem step_idle {byte : UInt8} (hb : 0x20 ≤ byte) (hb' : byte ≤ 0x7E) :
    idle.step byte = { actions := [.put (Char.ofNat byte.toNat)] } := by
  have hlt : ¬ byte < 0x20 := UInt8.not_lt.2 hb
  have hascii : byte < 0x80 := UInt8.lt_of_le_of_lt hb' (by decide)
  have hdel : byte ≠ 0x7F := by
    rintro rfl
    exact absurd hb' (by decide)
  show (if byte < 0x20 then idle.stepControl byte else idle.stepGraphic byte) = _
  rw [if_neg hlt]
  show stepText [] byte = _
  rw [stepText, if_pos hascii, if_neg hdel]
  rfl

theorem after_idle {bytes : List UInt8} (h : ∀ b ∈ bytes, 0x20 ≤ b ∧ b ≤ 0x7E) :
    idle.after bytes = idle := by
  induction bytes with
  | nil => rfl
  | cons b bytes ih =>
    obtain ⟨hb, hb'⟩ := h b (by simp)
    rw [after_cons, step_idle hb hb']
    exact ih fun b hb => h b (by simp [hb])

/-- Inside a sequence that goes on, it went on after each byte. -/
theorem isSequence_step {d : Decoder} (hd : d.isSequence = true) {byte : UInt8}
    {bytes : List UInt8} (hb : 0x20 ≤ byte ∧ byte ≤ 0x3F)
    (hbytes : ∀ b ∈ bytes, 0x20 ≤ b ∧ b ≤ 0x3F)
    (h : (d.after (byte :: bytes)).isSequence = true) : (d.step byte).next.isSequence = true := by
  rcases (step_inside hd hb.1 hb.2).2 with hnext | hidle
  · exact hnext
  · have hend : ∀ b ∈ bytes, 0x20 ≤ b ∧ b ≤ 0x7E := fun b hmem =>
      ⟨(hbytes b hmem).1, UInt8.le_trans (hbytes b hmem).2 (by decide)⟩
    rw [after_cons, hidle, after_idle hend] at h
    cases h

/-! ### Reading parameters -/

/-- A sequence has been read up to its final byte, with these marks and parameters. -/
structure HasRead (d : Decoder) (marks : Marks) (params : List Nat) : Prop where
  isSequence : d.isSequence = true
  step_eq : ∀ final : UInt8, 0x40 ≤ final → final ≤ 0x7E →
    d.step final = stepFinish marks params final

theorem final_cases {final : UInt8} (h : 0x40 ≤ final) :
    0x20 ≤ final ∧ ¬ final ≤ 0x39 ∧ final ≠ 0x3A ∧ final ≠ 0x3B ∧ final ≠ 0x3F ∧ final ≠ 0x21 ∧
      final ≠ 0x3D ∧ final ≠ 0x3E ∧ ¬ final ≤ 0x2F := by
  have hnot (b : UInt8) (hb : ¬ 0x40 ≤ b) : ¬ final ≤ b := fun hle => hb (UInt8.le_trans h hle)
  have hne (b : UInt8) (hb : ¬ 0x40 ≤ b) : final ≠ b := by
    rintro rfl
    exact hb h
  exact ⟨UInt8.le_trans (by decide) h, hnot _ (by decide), hne _ (by decide), hne _ (by decide),
    hne _ (by decide), hne _ (by decide), hne _ (by decide), hne _ (by decide),
    hnot _ (by decide)⟩

theorem hasRead_csiEntry (marks : Marks) : (csiEntry marks).HasRead marks [] where
  isSequence := rfl
  step_eq final h h' := by
    rw [step_of_isSequence rfl (final_cases h).1]
    simp [stepGraphic, stepCsiEntry, final_cases h, h, h']

theorem hasRead_csiParam (marks : Marks) (closed : List Nat) (current : Option Nat) :
    (csiParam marks closed current).HasRead marks (close closed current).reverse where
  isSequence := rfl
  step_eq final h h' := by
    rw [step_of_isSequence rfl (final_cases h).1]
    simp [stepGraphic, stepCsiParam, final_cases h, h, h']

theorem hasRead_csiIntermediate (marks : Marks) (closed : List Nat) :
    (csiIntermediate marks closed).HasRead marks closed.reverse where
  isSequence := rfl
  step_eq final h h' := by
    rw [step_of_isSequence rfl (final_cases h).1]
    simp [stepGraphic, stepCsiIntermediate, final_cases h, h, h']

theorem exists_hasRead {d : Decoder} (hd : d.isSequence = true) :
    ∃ marks params, d.HasRead marks params := by
  cases d with
  | csiEntry marks => exact ⟨_, _, hasRead_csiEntry marks⟩
  | csiParam marks closed current => exact ⟨_, _, hasRead_csiParam marks closed current⟩
  | csiIntermediate marks closed => exact ⟨_, _, hasRead_csiIntermediate marks closed⟩
  | _ => cases hd

theorem step_csiParam_digit (marks : Marks) (closed : List Nat) (current : Option Nat) {b : UInt8}
    (hb : IsDigit b) : ((csiParam marks closed current).step b).next =
      csiParam marks closed (some (addDigit current (b.toNat - 0x30))) := by
  rw [step_of_isSequence rfl (UInt8.le_trans (by decide) hb.1)]
  simp [stepGraphic, stepCsiParam, hb.1, hb.2]

theorem step_csiEntry_digit (marks : Marks) {b : UInt8} (hb : IsDigit b) :
    ((csiEntry marks).step b).next = csiParam marks [] (openField [b]) := by
  have hvalue : fieldValue [b] = b.toNat - 0x30 := by
    have hle : b.toNat ≤ 0x39 := UInt8.le_iff_toNat_le.1 hb.2
    have hmax : Decimal.maxU16 = 65535 := rfl
    have hfield := fieldValue_append_singleton [] b
    rw [fieldValue_nil, List.nil_append] at hfield
    omega
  rw [step_of_isSequence rfl (UInt8.le_trans (by decide) hb.1), openField, if_neg (by simp), hvalue]
  simp [stepGraphic, stepCsiEntry, hb.1, hb.2]

/-- Digits and semicolons are read as the fields that they make, after the digits `got` of an
unfinished field. -/
theorem hasRead_csiParam_after (marks : Marks) (closed : List Nat) {got body : List UInt8}
    (hgot : ∀ b ∈ got, IsDigit b) (hbody : ∀ b ∈ body, IsDigit b ∨ b = 0x3B) :
    ((csiParam marks closed (openField got)).after body).HasRead marks
      (closed.reverse ++ parameters (got ++ body)) := by
  have hnotMem : 0x3B ∉ got := fun hmem => (hgot _ hmem).ne_semicolon rfl
  -- On the bytes that are left, whatever fields and digits have come before them.
  induction body generalizing closed got with
  | nil =>
    have hread := hasRead_csiParam marks closed (openField got)
    have hclose : (close closed (openField got)).reverse =
        closed.reverse ++ (openField got).toList := by
      cases openField got <;> simp [close]
    rwa [List.append_nil, parameters_of_notMem hnotMem, ← hclose]
  | cons b body ih =>
    have hbody' : ∀ b ∈ body, IsDigit b ∨ b = 0x3B := fun b hmem => hbody b (by simp [hmem])
    rcases hbody b (by simp) with hb | rfl
    · have hgot' : ∀ c ∈ got ++ [b], IsDigit c := by
        intro c hc
        rcases List.mem_append.1 hc with hc | hc
        · exact hgot c hc
        · rwa [List.mem_singleton.1 hc]
      have hread := ih closed hgot' hbody' fun hmem => (hgot' _ hmem).ne_semicolon rfl
      rw [after_cons, step_csiParam_digit _ _ _ hb, addDigit_openField, List.append_cons got b body]
      exact hread
    · have hread := @ih (fieldValue got :: closed) [] (List.forall_mem_nil _) hbody' (by simp)
      have hstep : ((csiParam marks closed (openField got)).step 0x3B).next =
          csiParam marks ((openField got).getD 0 :: closed) none := rfl
      rw [List.reverse_cons, List.append_assoc] at hread
      rw [after_cons, hstep, getD_openField, parameters_semicolon hnotMem]
      exact hread

/-- Digits and semicolons are read as the parameters that they stand for. -/
theorem hasRead_after (marks : Marks) {body : List UInt8}
    (hbody : ∀ b ∈ body, IsDigit b ∨ b = 0x3B) :
    ((csiEntry marks).after body).HasRead marks (parameters body) := by
  cases body with
  | nil => exact hasRead_csiEntry marks
  | cons b body =>
    have hbody' : ∀ b ∈ body, IsDigit b ∨ b = 0x3B := fun b hmem => hbody b (by simp [hmem])
    rcases hbody b (by simp) with hb | rfl
    · rw [after_cons, step_csiEntry_digit marks hb]
      exact hasRead_csiParam_after marks [] (List.forall_mem_singleton.2 hb) hbody'
    · -- An empty field comes first.
      have hfirst : parameters (0x3B :: body) = 0 :: parameters body :=
        parameters_semicolon List.not_mem_nil body
      rw [after_cons, hfirst]
      exact hasRead_csiParam_after marks [0] (List.forall_mem_nil _) hbody'

end Decoder

/-! ### Whole sequences -/

namespace Surface

/-- Bytes inside a sequence that goes on, with controls between them: the controls are carried out,
and the other bytes go to the decoder. -/
theorem write_inside (screen : Screen) {d : Decoder} (hd : d.isSequence = true)
    {inner : List UInt8} (hinner : ∀ b ∈ inner, 0x20 ≤ b → b ≤ 0x3F)
    (hcontrols : ∀ b ∈ inner, b ≠ 0x1B ∧ b ≠ 0x18 ∧ b ≠ 0x1A)
    (hend : (d.after (inner.filter (0x20 ≤ ·))).isSequence = true) :
    write ⟨screen, d⟩ inner =
      (⟨(inner.filter (· < 0x20)).foldl Screen.control screen, d.after (inner.filter (0x20 ≤ ·))⟩,
        []) := by
  -- A control changes the screen alone, any other byte the decoder alone.
  induction inner generalizing screen d with
  | nil => rfl
  | cons b inner ih =>
    have hinner' : ∀ b ∈ inner, 0x20 ≤ b → b ≤ 0x3F := fun b hmem => hinner b (by simp [hmem])
    have hcontrols' : ∀ b ∈ inner, b ≠ 0x1B ∧ b ≠ 0x18 ∧ b ≠ 0x1A :=
      fun b hmem => hcontrols b (by simp [hmem])
    rw [write_cons, feed_eq]
    dsimp only
    rw [Decoder.command?_of_isSequence hd]
    by_cases hb : b < 0x20
    · obtain ⟨hesc, hcan, hsub⟩ := hcontrols b (by simp)
      have hlow : (b :: inner).filter (· < 0x20) = b :: inner.filter (· < 0x20) :=
        List.filter_cons_of_pos (decide_eq_true hb)
      have hhigh : (b :: inner).filter (0x20 ≤ ·) = inner.filter (0x20 ≤ ·) :=
        List.filter_cons_of_neg (by simpa using hb)
      rw [hhigh] at hend
      rw [hlow, hhigh, Decoder.step_control hd hb hesc hcan hsub]
      have hrest := ih (screen.control b) hd hinner' hcontrols' hend
      exact congrArg (fun w => (w.1, none.toList ++ w.2)) hrest
    · have hge : 0x20 ≤ b := UInt8.not_lt.1 hb
      have hlow : (b :: inner).filter (· < 0x20) = inner.filter (· < 0x20) :=
        List.filter_cons_of_neg (by simpa using hge)
      have hhigh : (b :: inner).filter (0x20 ≤ ·) = b :: inner.filter (0x20 ≤ ·) :=
        List.filter_cons_of_pos (decide_eq_true hge)
      have hle := hinner b (by simp) hge
      have hbytes : ∀ c ∈ inner.filter (0x20 ≤ ·), 0x20 ≤ c ∧ c ≤ 0x3F := by
        intro c hc
        obtain ⟨hmem, hc⟩ := List.mem_filter.1 hc
        exact ⟨of_decide_eq_true hc, hinner' c hmem (of_decide_eq_true hc)⟩
      rw [hhigh] at hend
      have hnext := Decoder.isSequence_step hd ⟨hge, hle⟩ hbytes hend
      have hrest := ih screen hnext hinner' hcontrols' hend
      rw [hlow, hhigh, Decoder.Step.apply, (Decoder.step_inside hd hge hle).1]
      exact congrArg (fun w => (w.1, none.toList ++ w.2)) hrest

/-- Controls are carried out one after the other. -/
theorem write_controls (screen : Screen) {controls : List UInt8}
    (hcontrols : ∀ b ∈ controls, b < 0x20 ∧ b ≠ 0x1B ∧ b ≠ 0x18 ∧ b ≠ 0x1A) :
    write ⟨screen, .idle⟩ controls = (⟨controls.foldl Screen.control screen, .idle⟩, []) := by
  induction controls generalizing screen with
  | nil => rfl
  | cons b controls ih =>
    obtain ⟨hb, hesc, hcan, hsub⟩ := hcontrols b (by simp)
    have hstep : Decoder.idle.step b = { actions := [.control b], next := .idle } := by
      show (if b < 0x20 then Decoder.idle.stepControl b else Decoder.idle.stepGraphic b) = _
      rw [if_pos hb, Decoder.stepControl, if_neg hesc, if_neg (by simp [hcan, hsub])]
      rfl
    have hrest := ih (screen.control b) fun c hc => hcontrols c (by simp [hc])
    rw [write_cons, feed_eq]
    dsimp only
    rw [hstep]
    exact congrArg (fun w => (w.1, none.toList ++ w.2)) hrest

/-- A control sequence of digits and semicolons, perhaps with a question mark before them, with
controls between its bytes and in whatever pieces it is written, to a surface that is between two
sequences: the controls are carried out first, and then the sequence as a whole.  The surface is
between two sequences again, and no command is found. -/
theorem writeAll_sequence {s : Surface} (hs : s.decoder = .idle) (isPrivate : Bool)
    {body inner : List UInt8} {final : UInt8}
    (hbody : ∀ b ∈ body, 0x30 ≤ b ∧ b ≤ 0x39 ∨ b = 0x3B) (hfinal : 0x40 ≤ final ∧ final ≤ 0x7E)
    (hinner : inner.filter (0x20 ≤ ·) = (if isPrivate then [0x3F] else []) ++ body)
    (hcontrols : ∀ b ∈ inner, b ≠ 0x1B ∧ b ≠ 0x18 ∧ b ≠ 0x1A) {pieces : List (List UInt8)}
    (hpieces : pieces.flatten = [0x1B, 0x5B] ++ inner ++ [final]) :
    s.writeAll pieces =
      (⟨(s.write (inner.filter (· < 0x20))).1.screen.execute isPrivate (Char.ofNat final.toNat)
        (parameters body), .idle⟩, []) := by
  obtain ⟨screen, decoder⟩ := s
  obtain rfl : decoder = .idle := hs
  have hopen : write ⟨screen, .idle⟩ [0x1B, 0x5B] = (⟨screen, .csiEntry {}⟩, []) := rfl
  have hread : ((Decoder.csiEntry {}).after (inner.filter (0x20 ≤ ·))).HasRead { isPrivate }
      (parameters body) := by
    rw [hinner]
    cases isPrivate with
    | false => exact Decoder.hasRead_after {} hbody
    | true => exact Decoder.hasRead_after { isPrivate := true } hbody
  have hle : ∀ b ∈ inner, 0x20 ≤ b → b ≤ 0x3F := by
    intro b hmem hb
    have hfiltered : b ∈ (if isPrivate then [0x3F] else []) ++ body := by
      rw [← hinner]
      exact List.mem_filter.2 ⟨hmem, decide_eq_true hb⟩
    rcases List.mem_append.1 hfiltered with hmark | hdigit
    · cases isPrivate with
      | false => cases hmark
      | true => exact List.mem_singleton.1 hmark ▸ UInt8.le_refl _
    · rcases hbody b hdigit with hb | rfl
      · exact UInt8.le_trans hb.2 (by decide)
      · decide
  have hinside := write_inside screen rfl hle hcontrols hread.isSequence
  have hlow : ∀ b ∈ inner.filter (· < 0x20), b < 0x20 ∧ b ≠ 0x1B ∧ b ≠ 0x18 ∧ b ≠ 0x1A := by
    intro b hb
    obtain ⟨hmem, hlt⟩ := List.mem_filter.1 hb
    exact ⟨of_decide_eq_true hlt, hcontrols b hmem⟩
  have hwritten := write_controls screen hlow
  have hend (screen : Screen) :
      feed ⟨screen, (Decoder.csiEntry {}).after (inner.filter (0x20 ≤ ·))⟩ final =
        (⟨screen.execute isPrivate (Char.ofNat final.toNat) (parameters body), .idle⟩, none) := by
    rw [feed_eq, hread.step_eq final hfinal.1 hfinal.2,
      Decoder.command?_of_isSequence hread.isSequence]
    rfl
  rw [writeAll_eq, hpieces, write_append, write_append, hopen]
  dsimp only
  rw [hinside]
  dsimp only
  rw [write_singleton, hend, hwritten]
  rfl

/-- A position with a column that is cut off, in three pieces, with a line feed in the middle of
it. -/
theorem writeAll_sequence_position :
    let s := ((new ⟨3, 8⟩).write [0x61]).1
    s.writeAll [[0x1B], [0x5B, 0x32, 0x0A], [0x3B, 0x37, 0x30, 0x30, 0x30, 0x30, 0x48]] =
      (⟨(s.screen.control 0x0A).cursorPosition 2 65535, .idle⟩, []) := by
  intro s
  exact @writeAll_sequence s rfl false [0x32, 0x3B, 0x37, 0x30, 0x30, 0x30, 0x30]
    [0x32, 0x0A, 0x3B, 0x37, 0x30, 0x30, 0x30, 0x30] 0x48 (by simp) (by decide) (by decide)
    (by simp) _ (by decide)

end Surface

/-! ### What is read to its end -/

namespace ControlSequence

/-- The parameter bytes that are read to their end: marks other than `<`, and then digits, colons
and semicolons of which the first is no colon. -/
def IsRead (params : List UInt8) : Prop :=
  ∃ marks rest, params = marks ++ rest ∧ (∀ b ∈ marks, b = 0x3D ∨ b = 0x3E ∨ b = 0x3F) ∧
    (∀ b ∈ rest, 0x30 ≤ b ∧ b ≤ 0x3B) ∧ rest.head? ≠ some 0x3A

theorem isRead_nil : IsRead [] := ⟨[], [], rfl, by simp, by simp, by simp⟩

theorem isRead_cons (b : UInt8) (params : List UInt8) :
    IsRead (b :: params) ↔ (b = 0x3D ∨ b = 0x3E ∨ b = 0x3F) ∧ IsRead params ∨
      (0x30 ≤ b ∧ b ≤ 0x3B) ∧ b ≠ 0x3A ∧ ∀ c ∈ params, 0x30 ≤ c ∧ c ≤ 0x3B := by
  constructor
  · rintro ⟨marks, rest, hparams, hmarks, hrest, hhead⟩
    cases marks with
    | nil =>
      obtain rfl : b :: params = rest := hparams
      exact .inr ⟨hrest b (by simp), by simpa using hhead, fun c hc => hrest c (by simp [hc])⟩
    | cons m marks =>
      obtain ⟨rfl, rfl⟩ := List.cons.inj hparams
      exact .inl ⟨hmarks b (by simp), marks, rest, rfl, fun c hc => hmarks c (by simp [hc]), hrest,
        hhead⟩
  · rintro (⟨hb, marks, rest, rfl, hmarks, hrest, hhead⟩ | ⟨hb, hcolon, hparams⟩)
    · exact ⟨b :: marks, rest, rfl, List.forall_mem_cons.2 ⟨hb, hmarks⟩, hrest, hhead⟩
    · refine ⟨[], b :: params, rfl, List.forall_mem_nil _, List.forall_mem_cons.2 ⟨hb, hparams⟩, ?_⟩
      simpa using hcolon

end ControlSequence

namespace Decoder

/-- Is this a state of plain text? -/
def isGround : Decoder → Bool
  | ground _ => true
  | _ => false

/-- Bytes print no character, and plain text starts again after the last of them and not before. -/
def Swallows (d : Decoder) (bytes : List UInt8) : Prop :=
  ∀ before byte after, bytes = before ++ byte :: after →
    (∀ c, .put c ∉ ((d.after before).step byte).actions) ∧
      ((d.after (before ++ [byte])).isGround = true ↔ after = [])

theorem swallows_cons {d : Decoder} {byte : UInt8} {bytes : List UInt8} (hne : bytes ≠ []) :
    d.Swallows (byte :: bytes) ↔ (∀ c, .put c ∉ (d.step byte).actions) ∧
      (d.step byte).next.isGround = false ∧ (d.step byte).next.Swallows bytes := by
  constructor
  · intro h
    obtain ⟨hput, hground⟩ := h [] byte bytes rfl
    refine ⟨hput, ?_, ?_⟩
    · rw [← Bool.not_eq_true]
      exact fun htrue => hne (hground.1 htrue)
    · intro before b after hbytes
      exact h (byte :: before) b after (by rw [hbytes, List.cons_append])
  · rintro ⟨hput, hground, hrest⟩ before b after hbytes
    cases before with
    | nil =>
      obtain ⟨rfl, rfl⟩ := List.cons.inj hbytes
      refine ⟨hput, iff_of_false ?_ hne⟩
      show ¬ (d.step byte).next.isGround = true
      rw [hground]
      decide
    | cons b' before =>
      obtain ⟨rfl, htail⟩ := List.cons.inj hbytes
      exact hrest before b after htail

theorem swallows_singleton {d : Decoder} {byte : UInt8} :
    d.Swallows [byte] ↔
      (∀ c, .put c ∉ (d.step byte).actions) ∧ (d.step byte).next.isGround = true := by
  constructor
  · intro h
    obtain ⟨hput, hground⟩ := h [] byte [] rfl
    exact ⟨hput, hground.2 rfl⟩
  · rintro ⟨hput, hground⟩ before b after hbytes
    cases before with
    | nil =>
      obtain ⟨rfl, rfl⟩ := List.cons.inj hbytes
      exact ⟨hput, iff_of_true hground rfl⟩
    | cons b' before => simp at hbytes

/-- The final byte ends a sequence. -/
theorem swallows_final {d : Decoder} (hd : d.isSequence = true) {final : UInt8}
    (hfinal : 0x40 ≤ final ∧ final ≤ 0x7E) : d.Swallows [final] := by
  obtain ⟨marks, params, hread⟩ := exists_hasRead hd
  rw [swallows_singleton, hread.step_eq final hfinal.1 hfinal.2]
  refine ⟨fun c => ?_, rfl⟩
  unfold stepFinish
  dsimp only
  split <;> simp

theorem isGround_of_isSequence {d : Decoder} (hd : d.isSequence = true) : d.isGround = false := by
  cases d with
  | csiEntry | csiParam | csiIntermediate => rfl
  | _ => cases hd

/-- A sequence that goes on up to its final byte is swallowed, and no other. -/
theorem swallows_append_final {d : Decoder} (hd : d.isSequence = true) {bytes : List UInt8}
    (hbytes : ∀ b ∈ bytes, 0x20 ≤ b ∧ b ≤ 0x3F) {final : UInt8}
    (hfinal : 0x40 ≤ final ∧ final ≤ 0x7E) :
    d.Swallows (bytes ++ [final]) ↔ (d.after bytes).isSequence = true := by
  induction bytes generalizing d with
  | nil => exact iff_of_true (swallows_final hd hfinal) hd
  | cons b bytes ih =>
    have hrest : ∀ c ∈ bytes, 0x20 ≤ c ∧ c ≤ 0x3F := fun c hc => hbytes c (by simp [hc])
    obtain ⟨hactions, hnext⟩ := step_inside hd (hbytes b (by simp)).1 (hbytes b (by simp)).2
    rw [List.cons_append, swallows_cons (by simp), hactions, after_cons]
    rcases hnext with hnext | hidle
    · rw [ih hnext hrest]
      simp [isGround_of_isSequence hnext]
    · -- Back in plain text, the rest is printed.
      have hend : idle.after bytes = idle := after_idle fun c hc =>
        ⟨(hrest c hc).1, UInt8.le_trans (hrest c hc).2 (by decide)⟩
      rw [hidle, hend]
      simp [idle, isGround, isSequence]

/-! ### Which parameters are read -/

theorem isSequence_after_cons {d : Decoder} {b : UInt8} {bytes : List UInt8}
    (hidle : (d.step b).next = idle) (hbytes : ∀ c ∈ bytes, 0x30 ≤ c ∧ c ≤ 0x3F) :
    ¬ (d.after (b :: bytes)).isSequence = true := by
  have hend : idle.after bytes = idle := after_idle fun c hc =>
    ⟨UInt8.le_trans (by decide) (hbytes c hc).1, UInt8.le_trans (hbytes c hc).2 (by decide)⟩
  rw [after_cons, hidle, hend]
  simp [idle, isSequence]

theorem step_csiParam (marks : Marks) (closed : List Nat) (current : Option Nat) {b : UInt8}
    (hb : 0x30 ≤ b ∧ b ≤ 0x3F) :
    if b ≤ 0x3B then ∃ closed' current',
        ((csiParam marks closed current).step b).next = csiParam marks closed' current'
      else ((csiParam marks closed current).step b).next = idle := by
  by_cases hle : b ≤ 0x3B
  · rw [if_pos hle]
    rcases (by grind : b ≤ 0x39 ∨ b = 0x3A ∨ b = 0x3B) with hdigit | rfl | rfl
    · exact ⟨_, _, step_csiParam_digit _ _ _ ⟨hb.1, hdigit⟩⟩
    · exact ⟨_, _, rfl⟩
    · exact ⟨_, _, rfl⟩
  · rw [if_neg hle]
    rcases (by grind : b = 0x3C ∨ b = 0x3D ∨ b = 0x3E ∨ b = 0x3F) with rfl | rfl | rfl | rfl
    all_goals rfl

theorem isSequence_csiParam_after (marks : Marks) (closed : List Nat) (current : Option Nat)
    {params : List UInt8} (hparams : ∀ b ∈ params, 0x30 ≤ b ∧ b ≤ 0x3F) :
    ((csiParam marks closed current).after params).isSequence = true ↔
      ∀ b ∈ params, 0x30 ≤ b ∧ b ≤ 0x3B := by
  induction params generalizing closed current with
  | nil => exact iff_of_true rfl (by simp)
  | cons b params ih =>
    obtain ⟨hb, hrest⟩ := List.forall_mem_cons.1 hparams
    have hstep := step_csiParam marks closed current hb
    rw [List.forall_mem_cons]
    by_cases hle : b ≤ 0x3B
    · rw [if_pos hle] at hstep
      obtain ⟨closed', current', hnext⟩ := hstep
      rw [after_cons, hnext, ih _ _ hrest]
      exact ⟨fun h => ⟨⟨hb.1, hle⟩, h⟩, fun h => h.2⟩
    · rw [if_neg hle] at hstep
      exact iff_of_false (isSequence_after_cons hstep hrest) fun h => hle h.1.2

theorem isSequence_csiEntry_after (marks : Marks)
    {params : List UInt8} (hparams : ∀ b ∈ params, 0x30 ≤ b ∧ b ≤ 0x3F) :
    ((csiEntry marks).after params).isSequence = true ↔ IsRead params := by
  induction params generalizing marks with
  | nil => exact iff_of_true rfl isRead_nil
  | cons b params ih =>
    obtain ⟨hb, hrest⟩ := List.forall_mem_cons.1 hparams
    rw [isRead_cons]
    rcases (by grind : b ≤ 0x39 ∨ b = 0x3A ∨ b = 0x3B ∨ b = 0x3C ∨ b = 0x3D ∨ b = 0x3E ∨ b = 0x3F)
      with hdigit | rfl | rfl | rfl | rfl | rfl | rfl
    · rw [after_cons, step_csiEntry_digit marks ⟨hb.1, hdigit⟩, openField, if_neg (by simp),
        isSequence_csiParam_after _ _ _ hrest]
      grind
    · exact iff_of_false (isSequence_after_cons rfl hrest) (by simp)
    · show ((csiParam marks [0] none).after params).isSequence = true ↔ _
      rw [isSequence_csiParam_after _ _ _ hrest]
      simp
    · exact iff_of_false (isSequence_after_cons rfl hrest) (by simp)
    all_goals
      rw [after_cons]
      refine (ih _ hrest).trans ?_
      simp

theorem isSequence_step_intermediate {d : Decoder} (hd : d.isSequence = true) {b : UInt8}
    (hb : 0x20 ≤ b ∧ b ≤ 0x2F) : (d.step b).next.isSequence = true := by
  rw [step_of_isSequence hd hb.1]
  cases d with
  | csiEntry | csiParam | csiIntermediate =>
    simp only [stepGraphic, stepCsiEntry, stepCsiParam, stepCsiIntermediate]
    repeat' split
    all_goals first
      | rfl
      | (exfalso; grind)
  | _ => cases hd

/-- Intermediate bytes make no difference to whether a sequence goes on. -/
theorem isSequence_after_intermediates {d : Decoder} (hd : d.isSequence = true)
    {params intermediates : List UInt8} (hparams : ∀ b ∈ params, 0x20 ≤ b ∧ b ≤ 0x3F)
    (hintermediates : ∀ b ∈ intermediates, 0x20 ≤ b ∧ b ≤ 0x2F) :
    (d.after (params ++ intermediates)).isSequence = true ↔ (d.after params).isSequence = true := by
  induction params generalizing d with
  | nil =>
    refine iff_of_true ?_ hd
    rw [List.nil_append]
    induction intermediates generalizing d with
    | nil => exact hd
    | cons b intermediates ih =>
      obtain ⟨hb, hrest⟩ := List.forall_mem_cons.1 hintermediates
      exact ih hrest (isSequence_step_intermediate hd hb)
  | cons b params ih =>
    obtain ⟨hb, hrest⟩ := List.forall_mem_cons.1 hparams
    have hall : ∀ c ∈ params ++ intermediates, 0x20 ≤ c ∧ c ≤ 0x3F :=
      List.forall_mem_append.2 ⟨hrest, fun c hc =>
        ⟨(hintermediates c hc).1, UInt8.le_trans (hintermediates c hc).2 (by decide)⟩⟩
    constructor
    · intro h
      exact (ih (isSequence_step hd hb hall h) hrest).1 h
    · intro h
      exact (ih (isSequence_step hd hb hrest h) hrest).2 h

end Decoder

namespace Surface

/-- A control sequence with any parameter and intermediate bytes, written to a surface that is
between two sequences: no byte of it is shown as a character, and the surface is back in plain text
after the last byte and not before, if and only if its parameter bytes are read to their end. -/
theorem swallows_iff {s : Surface} (hs : s.decoder = .idle) {params intermediates : List UInt8}
    {final : UInt8} (hparams : ∀ b ∈ params, 0x30 ≤ b ∧ b ≤ 0x3F)
    (hintermediates : ∀ b ∈ intermediates, 0x20 ≤ b ∧ b ≤ 0x2F)
    (hfinal : 0x40 ≤ final ∧ final ≤ 0x7E) :
    (∀ before byte after,
      [0x1B, 0x5B] ++ params ++ intermediates ++ [final] = before ++ byte :: after →
        (∀ c, .put c ∉ ((s.write before).1.decoder.step byte).actions) ∧
          ((s.write (before ++ [byte])).1.decoder.isGround = true ↔ after = [])) ↔
      IsRead params := by
  have hdecoder (bytes : List UInt8) : (s.write bytes).1.decoder = Decoder.idle.after bytes := by
    rw [(s.write_eq bytes).1, hs]
  have hparams' : ∀ b ∈ params, 0x20 ≤ b ∧ b ≤ 0x3F := fun b hb =>
    ⟨UInt8.le_trans (by decide) (hparams b hb).1, (hparams b hb).2⟩
  have hinner : ∀ b ∈ params ++ intermediates, 0x20 ≤ b ∧ b ≤ 0x3F :=
    List.forall_mem_append.2 ⟨hparams', fun b hb =>
      ⟨(hintermediates b hb).1, UInt8.le_trans (hintermediates b hb).2 (by decide)⟩⟩
  have hopen : Decoder.idle.Swallows ([0x1B, 0x5B] ++ params ++ intermediates ++ [final]) ↔
      (Decoder.csiEntry {}).Swallows (params ++ intermediates ++ [final]) := by
    have hesc : (Decoder.idle.step 0x1B) = { actions := [], next := .escape } := rfl
    have hbracket : (Decoder.escape.step 0x5B) =
        { actions := [.escaped 0x5B], next := .csiEntry {} } := rfl
    rw [List.append_assoc, List.append_assoc, ← List.append_assoc params, List.cons_append,
      List.singleton_append, Decoder.swallows_cons (by simp), hesc,
      Decoder.swallows_cons (by simp), hbracket]
    simp [Decoder.isGround]
  simp only [hdecoder]
  refine hopen.trans ?_
  rw [Decoder.swallows_append_final rfl hinner hfinal,
    Decoder.isSequence_after_intermediates rfl hparams' hintermediates,
    Decoder.isSequence_csiEntry_after {} hparams]

/-- A sequence with a mark, sub-parameters and intermediate bytes. -/
theorem swallows_iff_subparameters :
    let params : List UInt8 := [0x3E, 0x34, 0x3A, 0x33, 0x3B]
    let sequence : List UInt8 := [0x1B, 0x5B] ++ params ++ [0x20, 0x24] ++ [0x6D]
    IsRead params ∧ ∀ before byte after, sequence = before ++ byte :: after →
      (∀ c, .put c ∉ (((new ⟨1, 8⟩).write before).1.decoder.step byte).actions) ∧
        (((new ⟨1, 8⟩).write (before ++ [byte])).1.decoder.isGround = true ↔ after = []) := by
  intro params sequence
  have hread : IsRead params :=
    ⟨[0x3E], [0x34, 0x3A, 0x33, 0x3B], rfl, by simp, by simp, by decide⟩
  have hparams : ∀ b ∈ params, 0x30 ≤ b ∧ b ≤ 0x3F := by simp [params]
  exact ⟨hread, (swallows_iff (s := new ⟨1, 8⟩) rfl hparams (by simp) (by decide)).2 hread⟩

/-- After the mark `<` a sequence is shown as text. -/
theorem shown_after_less_than :
    ((new ⟨1, 8⟩).write [0x1B, 0x5B, 0x3C, 0x6D]).1.screen.screenLines = [['m']] := by
  decide

end Surface

end TermSession
