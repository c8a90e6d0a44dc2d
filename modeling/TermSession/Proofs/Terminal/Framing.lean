import Mathlib.Algebra.Group.Nat.Defs
import Mathlib.Data.List.TakeDrop
import TermSession.Proofs.Terminal.Actions
import TermSession.Proofs.Text.Utf8

/-!
# Framing operating system commands

A command is written as `ESC ]`, its code in decimal, a semicolon, its payload and a terminator.
Whatever the pieces in which these bytes are written, a surface that was between two sequences
hands the command out and is left as it was; a command that is too long is dropped as a whole.

* `OscBuffer.holding`: the buffer that bytes make; `push_holding`, `finish_holding_encode`;
* `Surface.writeAll`: writing in pieces; `writeAll_eq`;
* `OscCommand.frame`: the bytes of a command; `Surface.writeAll_frame`.
-/

namespace TermSession

theorem Text.splitOnce_append {sep : Char} {t : Text} (h : sep ∉ t) (rest : Text) :
    Text.splitOnce sep (t ++ sep :: rest) = some (t, rest) := by
  have hbefore : ∀ c ∈ t, decide (c ≠ sep) = true := by
    intro c hc
    rw [decide_eq_true_eq]
    rintro rfl
    exact h hc
  have hspan : (t ++ sep :: rest).span (· ≠ sep) = (t, sep :: rest) := by
    rw [List.span_eq_takeWhile_dropWhile, List.takeWhile_append_of_pos hbefore,
      List.dropWhile_append_of_pos hbefore]
    simp
  rw [Text.splitOnce, hspan]

namespace OscCommand

/-- What stands between the opening and the terminator. -/
def body (c : OscCommand) : Text := Decimal.render c.code ++ ';' :: c.payload

/-- A command is read from its body. -/
theorem read?_body {c : OscCommand} (h : c.code ≤ Decimal.maxU16) : read? c.body = some c := by
  have hsep : ';' ∉ Decimal.render c.code := by
    intro hmem
    exact absurd (Decimal.isDigit_of_mem_render ';' hmem) (by decide)
  rw [read?, body, Text.splitOnce_append hsep]
  simp [Decimal.read?_render h]

theorem length_payload_lt (c : OscCommand) : c.payload.length < (Utf8.encode c.body).length := by
  have hbody := Utf8.length_le_length_encode c.body
  rw [body, List.length_append, List.length_cons] at hbody
  exact Nat.lt_of_lt_of_le (by omega) hbody

end OscCommand

/-! ### Collecting -/

namespace OscBuffer

/-- The buffer that bytes make: what is too much is not kept. -/
def holding (bytes : List UInt8) : OscBuffer where
  newest := (bytes.take limit).reverse
  size := min bytes.length limit
  overflowed := limit < bytes.length

theorem push_holding (bytes : List UInt8) (byte : UInt8) :
    (holding bytes).push byte = holding (bytes ++ [byte]) := by
  by_cases h : bytes.length < limit
  · have hmin : (holding bytes).size < limit := by
      simp only [holding]
      omega
    have hlong : ¬ limit < bytes.length := by omega
    have hlong' : ¬ limit < bytes.length + 1 := by omega
    have hkept : (bytes ++ [byte]).take limit = bytes.take limit ++ [byte] := by
      rw [List.take_of_length_le (by simp; omega), List.take_of_length_le (Nat.le_of_lt h)]
    rw [push, if_pos hmin]
    simp only [holding, hkept, List.reverse_append, List.length_append, List.length_singleton,
      hlong, hlong']
    congr 1
    omega
  · have hmin : ¬ (holding bytes).size < limit := by
      simp only [holding]
      omega
    have hlong : limit < bytes.length + 1 := by omega
    rw [push, if_neg hmin]
    simp only [holding, List.take_append_of_le_length (Nat.not_lt.1 h), List.length_append,
      List.length_singleton, hlong]
    congr 1
    omega

theorem finish_holding_of_long {bytes : List UInt8} (h : limit < bytes.length) (s : Screen) :
    (holding bytes).finish s = (s, none) := by
  simp [finish, holding, h]

/-- A command that is not too long, and neither sets a title nor has no effect, is handed out. -/
theorem finish_holding_encode {c : OscCommand} (hlow : 2 < c.code)
    (hhigh : c.code ≤ Decimal.maxU16) (hfits : (Utf8.encode c.body).length ≤ limit) (s : Screen) :
    (holding (Utf8.encode c.body)).finish s = (s, some c) := by
  have hlong : ¬ limit < (Utf8.encode c.body).length := by omega
  have hbytes : (holding (Utf8.encode c.body)).bytes = Utf8.encode c.body := by
    simp [OscBuffer.bytes, holding, List.take_of_length_le hfits]
  have hover : (holding (Utf8.encode c.body)).overflowed = false := decide_eq_false hlong
  have hzero : c.code ≠ 0 := by omega
  have hone : c.code ≠ 1 := by omega
  have htwo : c.code ≠ 2 := by omega
  rw [finish, hover, hbytes, Utf8.lossy_encode, OscCommand.read?_body hhigh]
  simp [hzero, hone, htwo]

end OscBuffer

/-! ### Writing in pieces -/

namespace Surface

/-- Writes pieces one after the other; gives the commands that they complete, in order. -/
def writeAll (s : Surface) (pieces : List (List UInt8)) : Surface × List OscCommand :=
  pieces.foldl (fun (s, found) piece =>
    let (s, commands) := s.write piece
    (s, found ++ commands)) (s, [])

/-- It does not matter how bytes are cut into pieces. -/
theorem writeAll_eq (s : Surface) (pieces : List (List UInt8)) :
    s.writeAll pieces = s.write pieces.flatten := by
  suffices h : ∀ found : List OscCommand,
      pieces.foldl (fun (s, found) piece =>
          let (s, commands) := Surface.write s piece
          (s, found ++ commands)) (s, found) =
        ((s.write pieces.flatten).1, found ++ (s.write pieces.flatten).2) from h []
  induction pieces generalizing s with
  | nil =>
    intro found
    simp
  | cons piece pieces ih =>
    intro found
    rw [List.foldl_cons, ih, List.flatten_cons, write_append, List.append_assoc]

/-- Bytes that end no command are collected. -/
theorem write_oscString (screen : Screen) (got bytes : List UInt8)
    (h : ∀ b ∈ bytes, b ≠ 0x07 ∧ b ≠ 0x1B) :
    write ⟨screen, .oscString (.holding got)⟩ bytes =
      (⟨screen, .oscString (.holding (got ++ bytes))⟩, []) := by
  induction bytes generalizing got with
  | nil => rw [List.append_nil, write_nil]
  | cons b bytes ih =>
    obtain ⟨hbel, hesc⟩ := h b List.mem_cons_self
    have hfeed : feed ⟨screen, .oscString (.holding got)⟩ b =
        (⟨screen, .oscString (.holding (got ++ [b]))⟩, none) := by
      simp only [feed, oscString, hbel, hesc, if_false, OscBuffer.push_holding]
    rw [write_cons, hfeed, ih _ fun b hb => h b (List.mem_cons_of_mem _ hb), List.append_assoc]
    rfl

end Surface

/-! ### Frames -/

/-- What ends a command: BEL, or ESC and a backslash. -/
inductive OscTerminator where
  | bel
  | escBackslash
  deriving DecidableEq, Repr, Inhabited

namespace OscTerminator

/-- The bytes of a terminator. -/
def bytes : OscTerminator → List UInt8
  | bel => [0x07]
  | escBackslash => [0x1B, 0x5C]

end OscTerminator

namespace OscCommand

/-- The bytes that a command is written as. -/
def frame (c : OscCommand) (t : OscTerminator) : List UInt8 :=
  [0x1B, 0x5D] ++ Utf8.encode c.body ++ t.bytes

/-- No byte of a body is one that ends it. -/
theorem plain_of_mem_encode_body {c : OscCommand} (hbel : '\x07' ∉ c.payload)
    (hesc : '\x1b' ∉ c.payload) : ∀ b ∈ Utf8.encode c.body, b ≠ 0x07 ∧ b ≠ 0x1B := by
  have hbody (ch : Char) (hdigit : ch.isDigit = false) (hsep : ch ≠ ';') (hp : ch ∉ c.payload) :
      ch ∉ c.body := by
    intro hmem
    rcases List.mem_append.1 hmem with hcode | hrest
    · rw [Decimal.isDigit_of_mem_render ch hcode] at hdigit
      cases hdigit
    · rcases List.mem_cons.1 hrest with rfl | hpayload
      · exact hsep rfl
      · exact hp hpayload
  intro b hb
  constructor
  · rintro rfl
    exact hbody '\x07' rfl (by decide) hbel (Utf8.ofNat_mem_of_mem_encode hb (by decide))
  · rintro rfl
    exact hbody '\x1b' rfl (by decide) hesc (Utf8.ofNat_mem_of_mem_encode hb (by decide))

end OscCommand

namespace Surface

/-- A terminator ends what was collected, and leaves nothing of it. -/
theorem write_terminator (screen : Screen) (buffer : OscBuffer) (t : OscTerminator) :
    write ⟨screen, .oscString buffer⟩ t.bytes =
      (⟨(buffer.finish screen).1, .idle⟩, (buffer.finish screen).2.toList) := by
  cases t with
  | bel =>
    rw [OscTerminator.bytes, write_singleton]
    rfl
  | escBackslash =>
    have hesc : feed ⟨screen, .oscString buffer⟩ 0x1B = (⟨screen, .oscEscape buffer⟩, none) := rfl
    rw [OscTerminator.bytes, write_cons, hesc, write_singleton]
    rfl

/-- A command that is written as a frame, in whatever pieces, to a surface that is between two
sequences is handed out once if its body is not too long, and dropped if it is.  Either way the
surface is as it was before. -/
theorem writeAll_frame {s : Surface} (hs : s.decoder = .idle) {c : OscCommand}
    (hlow : 2 < c.code) (hhigh : c.code ≤ Decimal.maxU16) (hbel : '\x07' ∉ c.payload)
    (hesc : '\x1b' ∉ c.payload) (t : OscTerminator) {pieces : List (List UInt8)}
    (hpieces : pieces.flatten = c.frame t) :
    s.writeAll pieces = (s, if (Utf8.encode c.body).length ≤ 2 ^ 20 then [c] else []) := by
  obtain ⟨screen, decoder⟩ := s
  obtain rfl : decoder = .idle := hs
  have hopen : write ⟨screen, .idle⟩ [0x1B, 0x5D] = (⟨screen, .oscString (.holding [])⟩, []) := rfl
  have hbody := write_oscString screen [] (Utf8.encode c.body)
    (OscCommand.plain_of_mem_encode_body hbel hesc)
  rw [List.nil_append] at hbody
  rw [writeAll_eq, hpieces, OscCommand.frame, write_append, write_append, hopen]
  simp only [hbody, write_terminator, List.nil_append]
  by_cases hfits : (Utf8.encode c.body).length ≤ 2 ^ 20
  · rw [OscBuffer.finish_holding_encode hlow hhigh hfits, if_pos hfits]
    rfl
  · rw [OscBuffer.finish_holding_of_long (Nat.not_le.1 hfits), if_neg hfits]
    rfl

/-- A working directory with a semicolon and a letter of two bytes, cut inside that letter and
inside the terminator; and a command that is too long by two bytes. -/
theorem writeAll_frame_directory :
    let s := ((Surface.new ⟨2, 4⟩).write [0x61, 0x62, 0x63, 0x64]).1
    s.writeAll [[0x1B, 0x5D, 0x37, 0x3B, 0x2F, 0xC3], [0xA9, 0x3B, 0x1B], [0x5C]] =
        (s, [⟨7, "/é;".toList⟩]) ∧
      s.writeAll [(⟨7, List.replicate (2 ^ 20) 'a'⟩ : OscCommand).frame .bel] = (s, []) := by
  intro s
  constructor
  · exact writeAll_frame (c := ⟨7, "/é;".toList⟩) (by rfl) (by decide) (by decide) (by decide)
      (by decide) .escBackslash (by decide)
  · have hplain (ch : Char) (hch : ch ≠ 'a') : ch ∉ List.replicate (2 ^ 20) 'a' :=
      fun hmem => hch (List.eq_of_mem_replicate hmem)
    have hwritten := @writeAll_frame s (by rfl) ⟨7, List.replicate (2 ^ 20) 'a'⟩ (by decide)
      (by decide) (hplain _ (by decide)) (hplain _ (by decide)) .bel [_] List.flatten_singleton
    have hlong := OscCommand.length_payload_lt ⟨7, List.replicate (2 ^ 20) 'a'⟩
    rw [List.length_replicate] at hlong
    rwa [if_neg (Nat.not_le.2 hlong)] at hwritten

end Surface

end TermSession
