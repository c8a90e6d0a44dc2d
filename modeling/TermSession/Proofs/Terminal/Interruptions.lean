import TermSession.Proofs.Terminal.Framing

/-!
# Interrupted characters and commands

A character of which bytes are missing is given up as soon as something else comes, and is shown as
U+FFFD; what comes is read in full.  An operating system command is given up at an ESC; what the
ESC starts is read in full too, unless a control character stands right behind it.

* `Surface.feed_flush`: a byte that does not continue the unfinished character;
* `Surface.writeAll_encode`: plain text, in whatever pieces, after an unfinished character or none;
* `Surface.write_escape`: an ESC inside a command and the byte behind it;
* `Surface.write_escape_iff`: when that is the same as ending the command first.
-/

namespace TermSession

/-! ### Characters -/

namespace Utf8

/-- A byte that announces a sequence continues none. -/
theorem isContinuation_of_announced {lead : UInt8} {n : Nat} (h : announced lead = some n) :
    isContinuation lead = false := by
  unfold announced at h
  unfold isContinuation
  grind

/-- The first byte of a character that is no control is no control, and continues no character. -/
theorem exists_encodeChar {c : Char} (hc : 0x20 ≤ c.toNat) :
    ∃ lead rest, String.utf8EncodeChar c = lead :: rest ∧ 0x20 ≤ lead.toNat ∧
      isContinuation lead = false := by
  by_cases hlt : c.toNat < 0x80
  · have hlead : (UInt8.ofNat c.toNat).toNat = c.toNat := toNat_ofNat (by omega)
    refine ⟨UInt8.ofNat c.toNat, [], encodeChar_ascii hlt, by omega, ?_⟩
    rw [← Bool.not_eq_true]
    intro hcont
    exact absurd (toNat_of_isContinuation hcont).1 (by omega)
  · obtain ⟨lead, rest, hbytes, hs⟩ := spells_encodeChar (Nat.not_lt.1 hlt)
    exact ⟨lead, rest, hbytes, Nat.le_trans (by decide) hs.lead_ge,
      isContinuation_of_announced hs.announced_eq⟩

end Utf8

namespace Surface

/-- A byte that does not continue the unfinished character is read as if that had been shown
before. -/
theorem feed_flush (screen : Screen) (held : List UInt8) {byte : UInt8} (hb : 0x20 ≤ byte.toNat)
    (hcont : Utf8.isContinuation byte = false) :
    feed ⟨screen, .ground held⟩ byte =
      feed ⟨screen.actAll (Decoder.flushed held), .idle⟩ byte := by
  have hflush : flush ⟨screen, .ground held⟩ = ⟨screen.actAll (Decoder.flushed held), .idle⟩ :=
    flush_eq _ rfl
  have hidle (screen : Screen) : flush ⟨screen, .idle⟩ = ⟨screen, .idle⟩ := rfl
  rw [feed_text (s := ⟨screen, .ground held⟩) rfl hb,
    feed_text (s := ⟨screen.actAll (Decoder.flushed held), .idle⟩) rfl hb]
  simp only [text, hflush, hidle, hcont, Bool.not_false, Bool.or_true, if_true]

/-- Plain text, in whatever pieces its bytes are written, puts its characters one after the other.
If a character was unfinished before, U+FFFD is put first, once.  No command is found, and no
character is unfinished afterwards. -/
theorem writeAll_encode {s : Surface} {held : List UInt8} (hs : s.decoder = .ground held) {t : Text}
    (hne : t ≠ []) (ht : t.IsPlain) {pieces : List (List UInt8)}
    (hpieces : pieces.flatten = Utf8.encode t) :
    s.writeAll pieces =
      (⟨(if held = [] then s.screen else s.screen.put Utf8.replacement).putAll t, .idle⟩, []) := by
  obtain ⟨screen, decoder⟩ := s
  obtain rfl : decoder = .ground held := hs
  obtain ⟨c, t, rfl⟩ := List.exists_cons_of_ne_nil hne
  obtain ⟨lead, rest, hlead, hge, hcont⟩ := Utf8.exists_encodeChar (ht c (by simp)).1
  have hbytes : Utf8.encode (c :: t) = lead :: (rest ++ Utf8.encode t) := by
    rw [Utf8.encode, List.flatMap_cons, hlead]
    rfl
  have hflushed : screen.actAll (Decoder.flushed held) =
      if held = [] then screen else screen.put Utf8.replacement := by
    cases held with
    | nil => rfl
    | cons byte held => simp [Decoder.flushed, Screen.act]
  rw [writeAll_eq, hpieces, hbytes, write_cons, feed_flush screen held hge hcont, ← write_cons,
    ← hbytes, write_encode _ ht, hflushed]

/-- Characters of one to four bytes, most of them cut in two, after two bytes of a character of
three. -/
theorem writeAll_encode_cut :
    let s := ((new ⟨2, 8⟩).write [0x61, 0xE4, 0xBD]).1
    s.decoder = .ground [0xE4, 0xBD] ∧
      s.writeAll [[0x62, 0xC3], [0xA9, 0xE4, 0xBD], [0xA0, 0xF0, 0x9F, 0x98], [0x80]] =
        (⟨(s.screen.put Utf8.replacement).putAll ['b', 'é', '你', '😀'], .idle⟩, []) := by
  intro s
  have hs : s.decoder = .ground [0xE4, 0xBD] := by decide
  have hplain : Text.IsPlain ['b', 'é', '你', '😀'] := by
    simp [Text.IsPlain]
  have hwritten := @writeAll_encode s _ hs _ (List.cons_ne_nil _ _) hplain
    [[0x62, 0xC3], [0xA9, 0xE4, 0xBD], [0xA0, 0xF0, 0x9F, 0x98], [0x80]] (by decide)
  rw [if_neg (List.cons_ne_nil _ _)] at hwritten
  exact ⟨hs, hwritten⟩

end Surface

/-! ### Commands -/

/-- An ESC and a control character do nothing to a screen. -/
theorem Screen.escaped_of_lt (screen : Screen) {byte : UInt8} (hb : byte < 0x20) :
    screen.escaped byte = screen := by
  have hlt : byte.toNat < 0x20 := UInt8.lt_iff_toNat_lt.1 hb
  have hchar : (Char.ofNat byte.toNat).toNat = byte.toNat := by
    rw [Char.ofNat, dif_pos (.inl (by omega))]
    rfl
  have hne (c : Char) (hc : 0x20 ≤ c.toNat) : Char.ofNat byte.toNat ≠ c := by
    rintro rfl
    omega
  unfold Screen.escaped
  split
  all_goals first
    | rfl
    | exact absurd ‹_› (hne _ (by decide))

namespace Surface

/-- BEL ends a command. -/
theorem write_bel (screen : Screen) (buffer : OscBuffer) (bytes : List UInt8) :
    write ⟨screen, .oscString buffer⟩ (0x07 :: bytes) =
      let ended := buffer.finish screen
      ((write ⟨ended.1, .idle⟩ bytes).1, ended.2.toList ++ (write ⟨ended.1, .idle⟩ bytes).2) :=
  write_cons ..

/-- The byte behind an ESC that starts a sequence. -/
theorem write_sequence (screen : Screen) {byte : UInt8} (hb : ¬ byte < 0x20) (rest : List UInt8) :
    write ⟨screen, .idle⟩ (0x1B :: byte :: rest) = (escape ⟨screen, .idle⟩ byte).write rest := by
  have hesc : feed ⟨screen, .idle⟩ 0x1B = (⟨screen, .escape⟩, none) := rfl
  have hbyte : feed ⟨screen, .escape⟩ byte = (escape ⟨screen, .idle⟩ byte, none) := by
    simp only [feed, hb, if_false]
    rfl
  rw [write_cons, hesc, write_cons, hbyte]
  rfl

/-- Inside a command an ESC ends it, and starts a new sequence with the byte behind it.  If that is
a control character, both are passed over. -/
theorem write_escape (screen : Screen) (buffer : OscBuffer) {byte : UInt8} (hb : byte ≠ 0x5C)
    (rest : List UInt8) :
    write ⟨screen, .oscString buffer⟩ (0x1B :: byte :: rest) =
      write ⟨screen, .oscString buffer⟩
        (0x07 :: if byte < 0x20 then rest else 0x1B :: byte :: rest) := by
  have hesc : feed ⟨screen, .oscString buffer⟩ 0x1B = (⟨screen, .oscEscape buffer⟩, none) := rfl
  have hbyte : feed ⟨screen, .oscEscape buffer⟩ byte =
      (escape ⟨(buffer.finish screen).1, .idle⟩ byte, (buffer.finish screen).2) := by
    simp only [feed, oscEscape, hb, if_false]
  have hended : write ⟨screen, .oscString buffer⟩ (0x1B :: byte :: rest) =
      ((write (escape ⟨(buffer.finish screen).1, .idle⟩ byte) rest).1,
        (buffer.finish screen).2.toList ++
          (write (escape ⟨(buffer.finish screen).1, .idle⟩ byte) rest).2) := by
    rw [write_cons, hesc, write_cons, hbyte]
    rfl
  rw [hended, write_bel]
  dsimp only
  by_cases hc : byte < 0x20
  · have hpassed : escape ⟨(buffer.finish screen).1, .idle⟩ byte =
        ⟨(buffer.finish screen).1, .idle⟩ := by
      have h₁ : byte ≠ 0x5B := by grind
      have h₂ : byte ≠ 0x5D := by grind
      have h₃ : ¬ 0x20 ≤ byte := by grind
      simp [escape, Screen.escaped_of_lt _ hc, h₁, h₂, h₃]
    rw [if_pos hc, hpassed]
  · rw [if_neg hc, write_sequence _ hc]

/-- A control character behind an ESC that starts a sequence is carried out at once. -/
theorem feed_escape_control (screen : Screen) {byte : UInt8} (hb : byte < 0x20) :
    feed ⟨screen, .escape⟩ byte = (control ⟨screen, .escape⟩ byte, none) := by
  simp only [feed, hb, if_true]
  rfl

/-- An ESC inside a command, with a byte other than a backslash behind it, is like BEL and then ESC,
whatever follows, if and only if that byte is no control character but CAN and SUB. -/
theorem write_escape_iff {s : Surface} {buffer : OscBuffer} (hs : s.decoder = .oscString buffer)
    {byte : UInt8} (hb : byte ≠ 0x5C) :
    (∀ rest, s.write (0x1B :: byte :: rest) = s.write (0x07 :: 0x1B :: byte :: rest)) ↔
      (byte < 0x20 → byte = 0x18 ∨ byte = 0x1A) := by
  obtain ⟨screen, decoder⟩ := s
  obtain rfl : decoder = .oscString buffer := hs
  by_cases hc : byte < 0x20
  · have hesc (screen : Screen) (rest : List UInt8) :
        write ⟨screen, .idle⟩ (0x1B :: byte :: rest) =
          (control ⟨screen, .escape⟩ byte).write rest := by
      have hfeed : feed ⟨screen, .idle⟩ 0x1B = (⟨screen, .escape⟩, none) := rfl
      rw [write_cons, hfeed, write_cons, feed_escape_control screen hc]
      rfl
    simp only [write_escape _ _ hb, write_bel, hc, if_true, forall_const, hesc]
    constructor
    · -- The decoder shows the difference at once.
      intro h
      have hnext := congrArg (·.1.decoder) (h [])
      by_contra hne
      unfold control at hnext
      split at hnext
      · cases hnext
      · rw [if_neg (by simpa using hne)] at hnext
        cases hnext
    · rintro (rfl | rfl) rest
      · rfl
      · rfl
  · simp only [write_escape _ _ hb, hc, if_false, false_implies, implies_true]

/-- A control sequence after a command that is not ended. -/
theorem write_escape_iff_bracket :
    let s := ((new ⟨2, 8⟩).write [0x61, 0x1B, 0x5D, 0x37, 0x3B, 0x2F]).1
    s.decoder = .oscString (.holding [0x37, 0x3B, 0x2F]) ∧
      ∀ rest, s.write (0x1B :: 0x5B :: rest) = s.write (0x07 :: 0x1B :: 0x5B :: rest) := by
  intro s
  have hs : s.decoder = .oscString (.holding [0x37, 0x3B, 0x2F]) := by decide
  exact ⟨hs, (@write_escape_iff s _ hs 0x5B (by decide)).2 (by decide)⟩

/-- Behind a second ESC the rest of a sequence is shown as text. -/
theorem shown_after_second_escape :
    let s := ((new ⟨2, 8⟩).write [0x61, 0x1B, 0x5D, 0x37, 0x3B, 0x2F]).1
    (s.write [0x1B, 0x1B, 0x5B, 0x32, 0x48, 0x62]).1.screen.screenLines =
        [['a', '[', '2', 'H', 'b'], []] ∧
      (s.write [0x07, 0x1B, 0x1B, 0x5B, 0x32, 0x48, 0x62]).1.screen.screenLines =
        [['a'], ['b']] := by
  decide +kernel

end Surface

end TermSession
