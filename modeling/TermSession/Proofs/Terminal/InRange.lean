import Mathlib.Algebra.Group.Nat.Defs
import TermSession.Proofs.Terminal.Calls
import TermSession.Proofs.Terminal.Unfailing

/-!
# Terminals stay in range

Whatever is written to a surface and however it is resized and cleared: no step on the way leaves
its array or the sixteen bits, and the grid, the cursor, the margins, the scrollback and what is
kept between two bytes stay within their bounds.

* `Decoder.Bounded`: what is kept of unfinished characters, numbers and commands;
* `Surface.feed?`, `Surface.performAll?`: surfaces with every bound checked;
* `Surface.InRange`, `Surface.in_range`: they stay in range.
-/

namespace TermSession

/-! ### What is kept between bytes -/

namespace OscBuffer

/-- The buffer counts its bytes, and they are not too many. -/
def Bounded (b : OscBuffer) : Prop := b.size = b.newest.length ∧ b.size ≤ limit

theorem bounded_push {b : OscBuffer} (h : b.Bounded) (byte : UInt8) : (b.push byte).Bounded := by
  obtain ⟨hsize, hlimit⟩ := h
  unfold push
  split
  · exact ⟨by simp [hsize], ‹b.size < limit›⟩
  · exact ⟨hsize, hlimit⟩

end OscBuffer

namespace Decoder

/-- An unfinished character is shorter than its first byte announces, parameters have sixteen bits,
and the buffer of a command is bounded. -/
def Bounded : Decoder → Prop
  | ground held => ∀ lead ∈ held.head?, ∃ n, Utf8.announced lead = some n ∧ held.length < n
  | csiParam _ closed current =>
    (∀ p ∈ closed, p ≤ Decimal.maxU16) ∧ ∀ p ∈ current, p ≤ Decimal.maxU16
  | csiIntermediate _ closed => ∀ p ∈ closed, p ≤ Decimal.maxU16
  | oscString buffer | oscEscape buffer => buffer.Bounded
  | _ => True

theorem bounded_idle : idle.Bounded := by
  simp [idle, Bounded]

theorem Bounded.settled {d : Decoder} (h : d.Bounded) : d.settled.Bounded := by
  cases d with
  | ground held => exact bounded_idle
  | _ => exact h

theorem bounded_stepCollect {held : List UInt8} {byte : UInt8}
    (h : ∀ lead ∈ (held ++ [byte]).head?,
      ∃ n, Utf8.announced lead = some n ∧ (held ++ [byte]).length ≤ n) :
    (stepCollect held byte).next.Bounded := by
  unfold stepCollect
  dsimp only
  split
  · exact bounded_idle
  · rename_i hmore
    intro lead hlead
    obtain ⟨n, hn, hle⟩ := h lead hlead
    refine ⟨n, hn, Nat.lt_of_le_of_ne hle fun heq => hmore ?_⟩
    rw [Option.mem_def.1 hlead, Option.bind_some, hn, heq]

theorem bounded_stepText {held : List UInt8} (h : (ground held).Bounded) (byte : UInt8) :
    (stepText held byte).next.Bounded := by
  unfold stepText
  split
  · exact bounded_idle
  · split
    · split
      · rename_i hlead
        obtain ⟨n, hn⟩ := Option.isSome_iff_exists.1 hlead
        have hone := Utf8.one_lt_of_announced hn
        refine bounded_stepCollect fun lead hmem => ⟨n, ?_, by simp; omega⟩
        obtain rfl : byte = lead := by simpa using hmem
        exact hn
      · exact bounded_idle
    · rename_i hheld
      simp only [Bool.or_eq_true, not_or, Bool.not_eq_true, List.isEmpty_eq_false_iff] at hheld
      refine bounded_stepCollect fun lead hmem => ?_
      rw [List.head?_append, Option.or_of_isSome (List.isSome_head?.2 hheld.1)] at hmem
      obtain ⟨n, hn, hlt⟩ := h lead hmem
      exact ⟨n, hn, by simp; omega⟩

theorem le_addDigit (current : Option Nat) (digit : Nat) :
    addDigit current digit ≤ Decimal.maxU16 := Nat.min_le_right _ _

theorem bounded_close {closed : List Nat} {current : Option Nat}
    (h : ∀ p ∈ closed, p ≤ Decimal.maxU16) (h' : ∀ p ∈ current, p ≤ Decimal.maxU16) :
    ∀ p ∈ close closed current, p ≤ Decimal.maxU16 := by
  unfold close
  split
  · rename_i p
    exact List.forall_mem_cons.2 ⟨h' p rfl, h⟩
  · exact h

theorem bounded_stepEscape (byte : UInt8) : (stepEscape byte).next.Bounded := by
  unfold stepEscape
  dsimp only
  repeat' split
  · trivial
  · exact ⟨rfl, Nat.zero_le _⟩
  · trivial
  · exact bounded_idle

theorem bounded_stepCsiEntry (marks : Marks) (byte : UInt8) :
    (stepCsiEntry marks byte).next.Bounded := by
  have hdigit : byte.toNat - 0x30 ≤ Decimal.maxU16 := by
    have hlt : byte.toNat < 256 := byte.toNat_lt
    have hmax : Decimal.maxU16 = 65535 := rfl
    omega
  unfold stepCsiEntry
  repeat' split
  all_goals first
    | exact bounded_idle
    | simp [Bounded, hdigit]

theorem bounded_stepCsiParam {marks : Marks} {closed : List Nat} {current : Option Nat}
    (h : (csiParam marks closed current).Bounded) (byte : UInt8) :
    (stepCsiParam marks closed current byte).next.Bounded := by
  obtain ⟨hclosed, hcurrent⟩ := h
  unfold stepCsiParam
  split
  · exact ⟨hclosed, by simpa using le_addDigit _ _⟩
  · split
    · refine ⟨List.forall_mem_cons.2 ⟨?_, hclosed⟩, by simp⟩
      cases current with
      | none => exact Nat.zero_le _
      | some p => exact hcurrent p rfl
    · split
      · exact bounded_close hclosed hcurrent
      · split <;> exact bounded_idle

theorem bounded_stepGraphic {d : Decoder} (h : d.Bounded) (byte : UInt8) :
    (d.stepGraphic byte).next.Bounded := by
  unfold stepGraphic
  split
  · exact bounded_stepEscape byte
  · dsimp only
    split
    · trivial
    · exact bounded_idle
  · exact bounded_stepCsiEntry _ byte
  · exact bounded_stepCsiParam h byte
  · unfold stepCsiIntermediate
    split
    · exact h
    · split <;> exact bounded_idle
  · cases d with
    | ground held => exact bounded_stepText h byte
    | _ => exact bounded_stepText bounded_idle byte

/-- What is kept stays bounded. -/
theorem Bounded.step {d : Decoder} (h : d.Bounded) (byte : UInt8) : (d.step byte).next.Bounded := by
  unfold Decoder.step
  split
  · unfold stepOscString
    split
    · exact bounded_idle
    · split
      · exact h
      · exact OscBuffer.bounded_push h byte
  · unfold stepOscEscape
    split
    · exact bounded_idle
    · exact bounded_stepEscape byte
  · split
    · unfold stepControl
      split
      · trivial
      · split
        · exact bounded_idle
        · exact h.settled
    · exact bounded_stepGraphic h byte

end Decoder

/-! ### Surfaces -/

namespace Surface

/-- Reads one byte, checked. -/
def feed? (s : Surface) (byte : UInt8) : Option Surface := do
  let step := s.decoder.step byte
  let screen ← s.screen.actAll? step.actions
  some ⟨screen, step.next⟩

/-- A fresh surface, checked. -/
def new? (size : Size) : Option Surface := (Screen.blank? size).map fun screen => { screen }

/-- Carries a call out, checked. -/
def perform? (s : Surface) : DisplayCall → Option Surface
  | .write data => data.foldlM feed? s
  | .clear => s.screen.clear?.map fun screen => { s with screen }
  | .resize size => (s.screen.resize? size).map fun screen => { s with screen }

/-- Carries calls out in order on a fresh surface, checked. -/
def run? (size : Size) (calls : List DisplayCall) : Option Surface := do
  let s ← new? size
  calls.foldlM perform? s

/-- Everything is within its bounds. -/
structure InRange (s : Surface) : Prop where
  rows_pos : 1 ≤ s.size.rows
  cols_pos : 1 ≤ s.size.cols
  size_lines : s.screen.lines.size = s.size.rows
  size_line : ∀ row ∈ s.screen.lines, row.size = s.size.cols
  row_lt : s.screen.cursor.row < s.size.rows
  col_lt : s.screen.cursor.col < s.size.cols
  top_le : s.screen.margins.top ≤ s.screen.margins.bottom
  bottom_lt : s.screen.margins.bottom < s.size.rows
  size_scrollback : s.screen.scrollback.toList.length ≤ 10000
  /-- An unfinished character waits only in plain text, for bytes that its first byte announces. -/
  held : s.decoder.held ≠ [] →
    ∃ lead rest n, s.decoder = .ground (lead :: rest) ∧ Utf8.announced lead = some n ∧
      (lead :: rest).length < n
  size_command : ∀ buffer, s.decoder = .oscString buffer ∨ s.decoder = .oscEscape buffer →
    buffer.bytes.length ≤ 2 ^ 20

variable {s : Surface} {z : Size}

theorem inRange (hs : s.screen.Sound z) (hd : s.decoder.Bounded) : s.InRange where
  rows_pos := hs.rows_pos
  cols_pos := hs.cols_pos
  size_lines := hs.size_lines
  size_line := hs.size_line
  row_lt := hs.row_lt
  col_lt := hs.col_lt
  top_le := hs.top_le
  bottom_lt := hs.bottom_lt
  size_scrollback := by
    rw [Scrollback.length_toList]
    exact hs.size_scrollback
  held := by
    intro hheld
    cases hdecoder : s.decoder with
    | ground held =>
      rw [hdecoder] at hd hheld
      cases held with
      | nil => exact absurd rfl hheld
      | cons lead rest =>
        obtain ⟨n, hn, hlt⟩ := hd lead rfl
        exact ⟨lead, rest, n, rfl, hn, hlt⟩
    | _ =>
      rw [hdecoder] at hheld
      exact absurd rfl hheld
  size_command := by
    have hbound {buffer : OscBuffer} (hb : buffer.Bounded) : buffer.bytes.length ≤ 2 ^ 20 := by
      rw [OscBuffer.bytes, List.length_reverse, ← hb.1]
      exact hb.2
    rintro buffer (hdecoder | hdecoder)
    all_goals
      rw [hdecoder] at hd
      exact hbound hd

/-- A byte is read within all bounds. -/
theorem feed?_eq (hs : s.screen.Sound z) (hd : s.decoder.Bounded) (byte : UInt8) :
    s.feed? byte = some (s.feed byte).1 ∧ (s.feed byte).1.screen.Sound z ∧
      (s.feed byte).1.decoder.Bounded := by
  refine ⟨?_, sound_feed hs byte, ?_⟩
  · unfold feed?
    dsimp only
    rw [feed_eq, hs.actAll? (s.decoder.isPlain_step byte)]
    rfl
  · rw [feed_eq]
    exact hd.step byte

theorem foldlM_feed? (hs : s.screen.Sound z) (hd : s.decoder.Bounded) (bytes : List UInt8) :
    bytes.foldlM feed? s = some (s.write bytes).1 ∧ (s.write bytes).1.screen.Sound z ∧
      (s.write bytes).1.decoder.Bounded := by
  induction bytes generalizing s with
  | nil => exact ⟨rfl, hs, hd⟩
  | cons byte bytes ih =>
    obtain ⟨hfeed, hs', hd'⟩ := feed?_eq hs hd byte
    rw [List.foldlM_cons, hfeed, write_cons]
    exact ih hs' hd'

/-- A call is carried out within all bounds. -/
theorem perform?_eq (hs : s.screen.Sound z) (hd : s.decoder.Bounded) (call : DisplayCall)
    (hc : ∀ size, call = .resize size → size.IsShort) :
    s.perform? call = some (Display.perform s call) ∧
      (∃ z', (Display.perform s call).screen.Sound z') ∧
      (Display.perform s call).decoder.Bounded := by
  cases call with
  | write data =>
    obtain ⟨hwrite, hs', hd'⟩ := foldlM_feed? hs hd data
    exact ⟨hwrite, ⟨z, hs'⟩, hd'⟩
  | clear => exact ⟨congrArg (Option.map _) hs.clear?, ⟨z, hs.clear⟩, hd⟩
  | resize size =>
    have hsize := hc size rfl
    exact ⟨congrArg (Option.map _) (hs.resize? hsize), ⟨_, hs.resize hsize⟩, hd⟩

theorem foldlM_perform? (hs : s.screen.Sound z) (hd : s.decoder.Bounded) {calls : List DisplayCall}
    (hc : ∀ size, .resize size ∈ calls → size.IsShort) :
    calls.foldlM perform? s = some (Display.performAll s calls) ∧
      (Display.performAll s calls).InRange := by
  induction calls generalizing s z with
  | nil => exact ⟨rfl, inRange hs hd⟩
  | cons call calls ih =>
    obtain ⟨hperform, ⟨z', hs'⟩, hd'⟩ := perform?_eq hs hd call
      fun size h => hc size (by simp [h])
    rw [List.foldlM_cons, hperform]
    exact ih hs' hd' fun size h => hc size (by simp [h])

/-- Whatever is written to a surface and however it is resized and cleared, no check fails on the
way, and in the end everything is within its bounds. -/
theorem in_range {size : Size} (hsize : size.IsShort) (calls : List DisplayCall)
    (hcalls : ∀ z, .resize z ∈ calls → z.IsShort) :
    run? size calls = some (Display.performAll (new size) calls) ∧
      (Display.performAll (new size) calls).InRange := by
  have hnew : new? size = some (new size) := by
    rw [new?, Screen.blank?_eq]
    rfl
  unfold run?
  rw [hnew]
  exact foldlM_perform? (Screen.sound_blank hsize) Decoder.bounded_idle hcalls

/-- The second of two rows is written to the end, and then the grid grows as wide as can be and
loses a row. -/
theorem in_range_widest :
    let calls : List DisplayCall :=
      [.write [0x61, 0x0A, 0x62, 0xC3, 0xA9, 0xC3], .resize ⟨1, 65535⟩, .clear]
    ∃ s, run? ⟨2, 3⟩ calls = some s ∧ s.size = ⟨1, 65535⟩ ∧ s.decoder = .ground [0xC3] ∧
      s.InRange := by
  intro calls
  have hsize : Size.IsShort ⟨2, 3⟩ := ⟨by decide, by decide⟩
  have hcalls : ∀ z, .resize z ∈ calls → z.IsShort := by
    intro z hmem
    simp only [calls, List.mem_cons, reduceCtorEq, DisplayCall.resize.injEq, List.not_mem_nil,
      or_false, false_or] at hmem
    exact hmem ▸ ⟨by decide, by decide⟩
  obtain ⟨hrun, hrange⟩ := in_range hsize calls hcalls
  exact ⟨_, hrun, rfl, rfl, hrange⟩

end Surface

end TermSession
