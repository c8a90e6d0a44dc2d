import TermSession.Terminal.Surface

/-!
# Displays

A session needs little of the thing that it renders to: a size, a way to write, clear and resize,
and a transcript.  `Display` is that interface; `Surface` is the display that comes with the
library.
-/

namespace TermSession

/-- Something that output can be rendered to. -/
class Display (σ : Type) where
  /-- Its dimensions. -/
  size : σ → Size
  /-- Gives it new dimensions. -/
  resize : σ → Size → σ
  /-- Renders bytes; gives the operating system commands they complete, in order. -/
  write : σ → List UInt8 → σ × List OscCommand
  /-- Blanks everything. -/
  clear : σ → σ
  /-- Text that replays to what is shown. -/
  transcript : σ → Text
  /-- The modes that output has switched on. -/
  modes : σ → Modes

/-- Surfaces are displays. -/
@[default_instance]
instance : Display Surface where
  size := Surface.size
  resize := Surface.resize
  write := Surface.write
  clear := Surface.clear
  transcript := Surface.transcript
  modes s := s.screen.modes

end TermSession
