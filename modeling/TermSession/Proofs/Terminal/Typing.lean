import TermSession.Proofs.Text.Decimal
import TermSession.Proofs.Text.Utf8
import TermSession.Terminal.Surface

/-!
# Typing

What the bytes of a transcript do to a surface that is between two sequences.

* `Surface.write_encode`: plain text puts its characters one after the other;
* `Surface.write_newLine`: carriage return and line feed;
* `Surface.write_positionSequence`: a cursor position.
-/

namespace TermSession

/-- No character of a text is a control below a space, or a delete. -/
def Text.IsPlain (t : Text) : Prop := ∀ c ∈ t, 0x20 ≤ c.toNat ∧ c.toNat ≠ 0x7F

namespace Surface

variable {s : Surface}

theorem write_singleton (s : Surface) (byte : UInt8) :
    s.write [byte] = ((s.feed byte).1, (s.feed byte).2.toList) := by
  simp [write, feedOnto, Option.toList]
  cases (s.feed byte).2 <;> rfl

theorem write_cons (s : Surface) (byte : UInt8) (bytes : List UInt8) :
    s.write (byte :: bytes) = (((s.feed byte).1.write bytes).1,
      (s.feed byte).2.toList ++ ((s.feed byte).1.write bytes).2) := by
  rw [← List.singleton_append, write_append, write_singleton]

/-! ### Characters -/

theorem feed_text {held : List UInt8} (hs : s.decoder = .ground held) {byte : UInt8}
    (hb : 0x20 ≤ byte.toNat) : s.feed byte = (s.text byte, none) := by
  have hlt : ¬ byte < 0x20 := by simpa [UInt8.lt_iff_toNat_lt] using hb
  simp [feed, hs, hlt]

/-- The rest of a sequence completes its character. -/
theorem write_continuation {c : Char} {lead : UInt8} {rest : List UInt8}
    (hc : Utf8.Spells c lead rest) (more : List UInt8) (hm : more ≠ []) (got : List UInt8)
    (h : rest = got ++ more) (screen : Screen) :
    write ⟨screen, .ground (lead :: got)⟩ more = (⟨screen.put c, .idle⟩, []) := by
  induction more generalizing got with
  | nil => exact absurd rfl hm
  | cons b more ih =>
    have hcont := hc.isContinuation b (by simp [h])
    have hge : 0x80 ≤ b.toNat ∧ b.toNat < 0xC0 := by
      simpa [Utf8.isContinuation, UInt8.le_iff_toNat_le, UInt8.lt_iff_toNat_lt] using hcont
    have hlt : ¬ b < 0x80 := by simpa [UInt8.lt_iff_toNat_lt] using hge.1
    have hfeed : feed ⟨screen, .ground (lead :: got)⟩ b =
        (collect ⟨screen, .ground (lead :: got)⟩ (lead :: got) b, none) := by
      rw [feed_text (s := ⟨screen, .ground (lead :: got)⟩) rfl (by omega)]
      simp [text, hlt, Decoder.held, hcont]
    rw [write_cons, hfeed]
    by_cases hlast : more = []
    · subst hlast
      have hann : Utf8.announced lead = some (got.length + 1 + 1) := by
        rw [hc.announced_eq, h]
        simp
      have hdec : Utf8.decode? (lead :: (got ++ [b])) = some c := h ▸ hc.decode?_eq
      simp [collect, hann, hdec]
    · have hann : Utf8.announced lead ≠ some (got.length + 1 + 1) := by
        rw [hc.announced_eq, h]
        intro heq
        have hlen := Option.some.inj heq
        simp only [List.length_append, List.length_cons] at hlen
        exact hlast (List.eq_nil_of_length_eq_zero (by omega))
      have hnext : collect ⟨screen, .ground (lead :: got)⟩ (lead :: got) b =
          ⟨screen, .ground (lead :: (got ++ [b]))⟩ := by
        simp [collect, hann]
      rw [hnext, ih hlast (got ++ [b]) (by simp [h])]
      rfl

/-- The bytes of a plain character put it. -/
theorem write_encodeChar (screen : Screen) {c : Char} (hc : 0x20 ≤ c.toNat ∧ c.toNat ≠ 0x7F) :
    write ⟨screen, .idle⟩ (String.utf8EncodeChar c) = (⟨screen.put c, .idle⟩, []) := by
  by_cases hlt : c.toNat < 0x80
  · have hn : (UInt8.ofNat c.toNat).toNat = c.toNat := Utf8.toNat_ofNat (by omega)
    have h₁ : UInt8.ofNat c.toNat < 0x80 := by simpa [UInt8.lt_iff_toNat_lt, hn] using hlt
    have h₂ : UInt8.ofNat c.toNat ≠ 0x7F := fun h =>
      hc.2 (by simpa [hn] using congrArg UInt8.toNat h)
    rw [Utf8.encodeChar_ascii hlt, write_singleton,
      feed_text (s := ⟨screen, .idle⟩) rfl (by omega)]
    simp [text, h₁, h₂, flush, Decoder.idle, hn]
  · obtain ⟨lead, rest, he, hs⟩ := Utf8.spells_encodeChar (Nat.not_lt.1 hlt)
    have h₁ : ¬ lead < 0x80 := by simpa [UInt8.lt_iff_toNat_lt] using hs.lead_ge
    have hlead : feed ⟨screen, .idle⟩ lead = (⟨screen, .ground [lead]⟩, none) := by
      have hne : ¬ rest.length = 0 := by simpa using hs.rest_ne
      rw [feed_text (s := ⟨screen, .idle⟩) rfl (by have := hs.lead_ge; omega)]
      simp [text, h₁, Decoder.idle, Decoder.held, flush, hs.announced_eq, collect, hne]
    rw [he, write_cons, hlead, write_continuation hs rest hs.rest_ne [] rfl]
    rfl

/-- Plain text puts its characters. -/
theorem write_encode (screen : Screen) {t : Text} (ht : t.IsPlain) :
    write ⟨screen, .idle⟩ (Utf8.encode t) = (⟨screen.putAll t, .idle⟩, []) := by
  induction t generalizing screen with
  | nil => rfl
  | cons c t ih =>
    rw [← List.singleton_append, Utf8.encode_append, write_append]
    have hc := write_encodeChar screen (ht c (by simp))
    have ht := ih (screen.put c) fun c hc => ht c (by simp [hc])
    simp only [Utf8.encode, List.flatMap_cons, List.flatMap_nil, List.append_nil] at hc ht ⊢
    rw [hc]
    simp [ht, Screen.putAll]

/-! ### Controls -/

/-- A new line goes to the start of the next row. -/
theorem write_newLine (screen : Screen) (h : screen.modes.lineFeedNewLine = false) :
    write ⟨screen, .idle⟩ (Utf8.encode ['\r', '\n']) =
      (⟨screen.carriageReturn.lineFeed, .idle⟩, []) := by
  have hcr : feed ⟨screen, .idle⟩ 0x0D = (⟨screen.carriageReturn, .idle⟩, none) := rfl
  have hlf : feed ⟨screen.carriageReturn, .idle⟩ 0x0A =
      (⟨screen.carriageReturn.lineFeed, .idle⟩, none) := by
    have h' : screen.carriageReturn.modes.lineFeedNewLine = false := h
    simp [feed, flush, Decoder.idle, control, Screen.control, h']
  have hbytes : Utf8.encode ['\r', '\n'] = [0x0D, 0x0A] := rfl
  rw [hbytes, write_cons, hcr, write_singleton, hlf]
  rfl

/-! ### Numerals -/

/-- A parameter extended by digits. -/
def addDigits (current : Option Nat) (digits : Text) : Option Nat :=
  digits.foldl (fun n c => some (Decoder.addDigit n (c.toNat - '0'.toNat))) current

theorem addDigits_some (n : Nat) (digits : Text) :
    addDigits (some n) digits =
      some (digits.foldl (fun n c => min (10 * n + (c.toNat - '0'.toNat)) Decimal.maxU16) n) := by
  induction digits generalizing n with
  | nil => rfl
  | cons c digits ih => exact ih _

/-- A numeral of at most sixteen bits is read as its number. -/
theorem addDigits_render {n : Nat} (h : n ≤ Decimal.maxU16) :
    addDigits none (Decimal.render n) = some n := by
  obtain ⟨c, digits, hd⟩ := List.exists_cons_of_ne_nil (Nat.toDigits_ne_nil (n := n) (b := 10))
  have hd : Decimal.render n = c :: digits := hd
  have hvalue := Decimal.valueUpTo_eq Decimal.maxU16 (Decimal.render n)
  rw [Decimal.value_render, Nat.min_eq_left h, hd] at hvalue
  rw [hd]
  exact (addDigits_some _ digits).trans (congrArg some hvalue)

theorem toNat_ofNat_digit {c : Char} (hc : c.isDigit = true) :
    (UInt8.ofNat c.toNat).toNat = c.toNat ∧ 0x30 ≤ c.toNat ∧ c.toNat ≤ 0x39 := by
  have h : 0x30 ≤ c.toNat ∧ c.toNat ≤ 0x39 := by
    simpa [Char.isDigit, UInt32.le_iff_toNat_le] using hc
  exact ⟨Utf8.toNat_ofNat (by omega), h⟩

theorem feed_digit (screen : Screen) (marks : Marks) (closed : List Nat) (current : Option Nat)
    {c : Char} (hc : c.isDigit = true) :
    feed ⟨screen, .csiParam marks closed current⟩ (UInt8.ofNat c.toNat) =
      (⟨screen, .csiParam marks closed (addDigits current [c])⟩, none) := by
  obtain ⟨hn, hlo, hhi⟩ := toNat_ofNat_digit hc
  have h₁ : ¬ UInt8.ofNat c.toNat < 0x20 := by
    simp only [UInt8.lt_iff_toNat_lt, hn, Nat.not_lt]
    exact Nat.le_trans (by decide) hlo
  have h₂ : 0x30 ≤ UInt8.ofNat c.toNat ∧ UInt8.ofNat c.toNat ≤ 0x39 := by
    simp only [UInt8.le_iff_toNat_le, hn]
    exact ⟨hlo, hhi⟩
  simp [feed, h₁, csiParam, h₂, addDigits, hn]

theorem feed_firstDigit (screen : Screen) (marks : Marks) {c : Char} (hc : c.isDigit = true) :
    feed ⟨screen, .csiEntry marks⟩ (UInt8.ofNat c.toNat) =
      (⟨screen, .csiParam marks [] (addDigits none [c])⟩, none) := by
  obtain ⟨hn, hlo, hhi⟩ := toNat_ofNat_digit hc
  have h₁ : ¬ UInt8.ofNat c.toNat < 0x20 := by
    simp only [UInt8.lt_iff_toNat_lt, hn, Nat.not_lt]
    exact Nat.le_trans (by decide) hlo
  have h₂ : 0x30 ≤ UInt8.ofNat c.toNat ∧ UInt8.ofNat c.toNat ≤ 0x39 := by
    simp only [UInt8.le_iff_toNat_le, hn]
    exact ⟨hlo, hhi⟩
  have h₃ : c.toNat - 0x30 ≤ Decimal.maxU16 := Nat.le_trans (by omega) (by decide : 9 ≤ _)
  simp [feed, h₁, csiEntry, h₂, addDigits, hn, Decoder.addDigit, h₃]

theorem encode_digit (c : Char) (digits : Text) (hc : c.isDigit = true) :
    Utf8.encode (c :: digits) = UInt8.ofNat c.toNat :: Utf8.encode digits := by
  have hlt := (toNat_ofNat_digit hc).2.2
  rw [← List.singleton_append, Utf8.encode_append]
  simp [Utf8.encode, Utf8.encodeChar_ascii (show c.toNat < 0x80 by omega)]

theorem write_digits (screen : Screen) (marks : Marks) (closed : List Nat) (current : Option Nat)
    {digits : Text} (hd : ∀ c ∈ digits, c.isDigit = true) :
    write ⟨screen, .csiParam marks closed current⟩ (Utf8.encode digits) =
      (⟨screen, .csiParam marks closed (addDigits current digits)⟩, []) := by
  induction digits generalizing current with
  | nil => rfl
  | cons c digits ih =>
    have hc := hd c (by simp)
    rw [encode_digit c digits hc, write_cons, feed_digit _ _ _ _ hc,
      ih _ fun c hc => hd c (by simp [hc])]
    rfl

/-- The first parameter of a control sequence. -/
theorem write_firstNumeral (screen : Screen) (marks : Marks) {n : Nat} (h : n ≤ Decimal.maxU16) :
    write ⟨screen, .csiEntry marks⟩ (Utf8.encode (Decimal.render n)) =
      (⟨screen, .csiParam marks [] (some n)⟩, []) := by
  obtain ⟨c, digits, hd⟩ := List.exists_cons_of_ne_nil (Nat.toDigits_ne_nil (n := n) (b := 10))
  have hd : Decimal.render n = c :: digits := hd
  have hdigits : ∀ d ∈ c :: digits, d.isDigit = true := hd ▸ Decimal.isDigit_of_mem_render
  have hc := hdigits c (by simp)
  have hvalue := addDigits_render h
  rw [hd] at hvalue ⊢
  rw [encode_digit c digits hc, write_cons, feed_firstDigit _ _ hc,
    write_digits _ _ _ _ fun d hd => hdigits d (by simp [hd]), ← hvalue]
  rfl

/-- A parameter of a control sequence. -/
theorem write_numeral (screen : Screen) (marks : Marks) (closed : List Nat) {n : Nat}
    (h : n ≤ Decimal.maxU16) :
    write ⟨screen, .csiParam marks closed none⟩ (Utf8.encode (Decimal.render n)) =
      (⟨screen, .csiParam marks closed (some n)⟩, []) := by
  rw [write_digits _ _ _ _ Decimal.isDigit_of_mem_render, addDigits_render h]

/-- A position sequence moves the cursor. -/
theorem write_positionSequence (screen : Screen) {row col : Nat} (hr : row ≤ Decimal.maxU16)
    (hc : col ≤ Decimal.maxU16) :
    write ⟨screen, .idle⟩ (Utf8.encode (Screen.positionSequence row col)) =
      (⟨screen.cursorPosition row col, .idle⟩, []) := by
  have hopen : write ⟨screen, .idle⟩ (Utf8.encode ['\x1b', '[']) =
      (⟨screen, .csiEntry {}⟩, []) := rfl
  have hsep : write ⟨screen, .csiParam {} [] (some row)⟩ (Utf8.encode [';']) =
      (⟨screen, .csiParam {} [row] none⟩, []) := rfl
  have hend : write ⟨screen, .csiParam {} [row] (some col)⟩ (Utf8.encode ['H']) =
      (⟨screen.cursorPosition row col, .idle⟩, []) := rfl
  simp only [Screen.positionSequence, Utf8.encode_append, write_append, hopen, hsep, hend,
    write_firstNumeral _ _ hr, write_numeral _ _ _ hc]
  rfl

end Surface

end TermSession
