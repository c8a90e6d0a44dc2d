import Mathlib.Data.List.Induction
import TermSession.Terminal.Display

/-!
# Calls of a display

What a session does to its display is a list of calls: writing, clearing and resizing.

* `DisplayCall`, `Display.performAll`: the calls, and what they make of a display;
* `DisplayCall.written`: the bytes written since the last clearing;
* `Recorder`: a display that keeps these bytes beside another display; `performAll_recorder` says
  that it changes nothing of the other;
* `Tape`: a display that keeps all calls beside another display; `performAll_tape`.
-/

namespace TermSession

/-- A call that changes a display. -/
inductive DisplayCall where
  | write (data : List UInt8)
  | clear
  | resize (size : Size)
  deriving DecidableEq, Repr, Inhabited

namespace DisplayCall

/-- Is this a call that writes? -/
def isWrite : DisplayCall → Bool
  | write _ => true
  | _ => false

/-- Is this a call that resizes? -/
def isResize : DisplayCall → Bool
  | resize _ => true
  | _ => false

/-- The bytes that a call writes. -/
def data : DisplayCall → List UInt8
  | write data => data
  | _ => []

/-- The bytes written since the last clearing, after one more call. -/
def writtenAfter (written : List UInt8) : DisplayCall → List UInt8
  | write data => written ++ data
  | clear => []
  | resize _ => written

/-- The bytes that calls have written since the last clearing. -/
def written (calls : List DisplayCall) : List UInt8 := calls.foldl writtenAfter []

@[simp] theorem written_nil : written [] = [] := rfl

@[simp] theorem written_append (calls : List DisplayCall) (call : DisplayCall) :
    written (calls ++ [call]) = writtenAfter (written calls) call := by
  simp [written]

theorem isWrite_of_mem {calls : List DisplayCall} (hc : clear ∉ calls)
    (hr : calls.any isResize = false) : ∀ c ∈ calls, c.isWrite = true := by
  intro c h
  cases c with
  | write data => rfl
  | clear => exact absurd h hc
  | resize z => exact absurd rfl (List.any_eq_false.1 hr _ h)

theorem any_isResize_of_isWrite {calls : List DisplayCall} (h : ∀ c ∈ calls, c.isWrite = true) :
    calls.any isResize = false := by
  refine List.any_eq_false.2 fun c hc => ?_
  have := h c hc
  cases c <;> simp_all [isWrite, isResize]

end DisplayCall

namespace Display

variable {σ : Type} [Display σ]

/-- Carries a call out. -/
def perform (s : σ) : DisplayCall → σ
  | .write data => (write s data).1
  | .clear => clear s
  | .resize z => resize s z

/-- Carries calls out in order. -/
def performAll (s : σ) (calls : List DisplayCall) : σ := calls.foldl perform s

@[simp] theorem performAll_nil (s : σ) : performAll s [] = s := rfl

theorem performAll_append (s : σ) (calls calls' : List DisplayCall) :
    performAll s (calls ++ calls') = performAll (performAll s calls) calls' := by
  simp [performAll]

theorem performAll_snoc (s : σ) (calls : List DisplayCall) (call : DisplayCall) :
    performAll s (calls ++ [call]) = perform (performAll s calls) call := by
  simp [performAll]

end Display

/-- Calls that only write write everything to a surface at once. -/
theorem Surface.performAll_of_isWrite (s : Surface) (calls : List DisplayCall)
    (h : ∀ c ∈ calls, c.isWrite = true) :
    Display.performAll s calls = (s.write (DisplayCall.written calls)).1 := by
  induction calls using List.reverseRecOn with
  | nil => simp
  | append_singleton calls c ih =>
    have ih := ih fun c hc => h c (List.mem_append_left _ hc)
    cases c with
    | write data =>
      rw [Display.performAll_snoc, ih, DisplayCall.written_append, DisplayCall.writtenAfter,
        Surface.write_append]
      rfl
    | clear => simpa [DisplayCall.isWrite] using h .clear (by simp)
    | resize z => simpa [DisplayCall.isWrite] using h (.resize z) (by simp)

/-! ### Recorders -/

/-- A display with the bytes that were written to it since it was made or last cleared. -/
structure Recorder (σ : Type) where
  display : σ
  written : List UInt8 := []
  /-- Was it ever resized? -/
  resized : Bool := false
  deriving DecidableEq, Repr, Inhabited

namespace Recorder

variable {σ : Type} [Display σ]

instance : Display (Recorder σ) where
  size r := Display.size r.display
  resize r z := { r with display := Display.resize r.display z, resized := true }
  write r data :=
    let (display, commands) := Display.write r.display data
    ({ r with display, written := r.written ++ data }, commands)
  clear r := { r with display := Display.clear r.display, written := [] }
  transcript r := Display.transcript r.display
  modes r := Display.modes r.display

/-- A recorder passes every call on and keeps what was written. -/
theorem performAll_recorder (display : σ) (calls : List DisplayCall) :
    Display.performAll ({ display } : Recorder σ) calls =
      ⟨Display.performAll display calls, DisplayCall.written calls,
        calls.any DisplayCall.isResize⟩ := by
  induction calls using List.reverseRecOn with
  | nil => rfl
  | append_singleton calls c ih =>
    rw [Display.performAll_snoc, ih, Display.performAll_snoc, DisplayCall.written_append,
      List.any_append]
    cases c <;> simp [Display.perform, Display.write, Display.resize, Display.clear,
      DisplayCall.isResize, DisplayCall.writtenAfter]

end Recorder

/-! ### Tapes -/

/-- A display with all calls that it ever received. -/
structure Tape (σ : Type) where
  display : σ
  calls : List DisplayCall := []
  deriving DecidableEq, Repr, Inhabited

namespace Tape

/-- All bytes that were ever written. -/
def bytes {σ : Type} (t : Tape σ) : List UInt8 := t.calls.flatMap DisplayCall.data

variable {σ : Type} [Display σ]

instance : Display (Tape σ) where
  size t := Display.size t.display
  resize t z := ⟨Display.resize t.display z, t.calls ++ [.resize z]⟩
  write t data :=
    let (display, commands) := Display.write t.display data
    (⟨display, t.calls ++ [.write data]⟩, commands)
  clear t := ⟨Display.clear t.display, t.calls ++ [.clear]⟩
  transcript t := Display.transcript t.display
  modes t := Display.modes t.display

/-- A tape passes every call on and keeps it. -/
theorem performAll_tape (t : Tape σ) (calls : List DisplayCall) :
    Display.performAll t calls = ⟨Display.performAll t.display calls, t.calls ++ calls⟩ := by
  induction calls generalizing t with
  | nil => rw [Display.performAll_nil, List.append_nil, Display.performAll_nil]
  | cons c calls ih =>
    have hperform : Display.perform t c = ⟨Display.perform t.display c, t.calls ++ [c]⟩ := by
      cases c <;> rfl
    show Display.performAll (Display.perform t c) calls = _
    rw [ih, hperform, List.append_assoc]
    rfl

end Tape

end TermSession
