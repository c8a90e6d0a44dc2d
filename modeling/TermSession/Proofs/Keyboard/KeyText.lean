import TermSession.Keyboard.Encoding
import TermSession.Proofs.Text.Utf8

/-!
# Keys are text

What a key sends is always well-formed UTF-8: characters are encoded, and control codes and the
bytes of control sequences are below U+0080.  So whatever a key has for the shell can pass the
duplicate filter, and be handed to other sessions, as text.

* `Utf8.IsText`: the bytes of some text;
* `KeyEvent.isText_encode`, `KeyEvent.encode_ne_nil`: the bytes of a key;
* `KeyEvent.exists_text`: the text of a key.
-/

namespace TermSession

namespace Utf8

/-- These are the bytes of a text. -/
def IsText (bytes : List UInt8) : Prop := ∃ t, encode t = bytes

theorem isText_encode (t : Text) : IsText (encode t) := ⟨t, rfl⟩

/-- A byte below U+0080 is a character. -/
theorem encode_ascii {b : UInt8} (h : b < 0x80) : encode [Char.ofNat b.toNat] = [b] := by
  have hlt : b.toNat < 0x80 := UInt8.lt_iff_toNat_lt.1 h
  have hvalid : b.toNat.isValidChar := .inl (by omega)
  have htoNat : (Char.ofNat b.toNat).toNat = b.toNat := by
    rw [Char.ofNat, dif_pos hvalid]
    rfl
  have hchar := encodeChar_ascii (c := Char.ofNat b.toNat) (by omega)
  rw [htoNat, UInt8.ofNat_toNat] at hchar
  simp [encode, hchar]

theorem IsText.cons {b : UInt8} {bytes : List UInt8} (h : IsText bytes) (hb : b < 0x80) :
    IsText (b :: bytes) := by
  obtain ⟨t, rfl⟩ := h
  refine ⟨Char.ofNat b.toNat :: t, ?_⟩
  rw [← List.singleton_append, encode_append, encode_ascii hb, List.singleton_append]

theorem isText_ascii {b : UInt8} (hb : b < 0x80) : IsText [b] := (isText_encode []).cons hb

theorem IsText.exists_read? {bytes : List UInt8} (h : IsText bytes) :
    ∃ t, read? bytes = some t ∧ encode t = bytes := by
  obtain ⟨t, rfl⟩ := h
  exact ⟨t, read?_encode t, rfl⟩

end Utf8

open Utf8

namespace Keyboard

theorem isText_withAlt {bytes : List UInt8} (h : IsText bytes) (m : Modifiers) :
    IsText (withAlt m bytes) := by
  unfold withAlt
  split
  · exact h.cons (by decide)
  · exact h

/-- Control codes are below U+0020. -/
theorem controlCode?_lt {c : Char} {code : UInt8} (h : controlCode? c = some code) :
    code < 0x20 := by
  have hletter (first : Nat) (hge : first ≤ c.toNat) (hle : c.toNat ≤ first + 25) :
      UInt8.ofNat (c.toNat - first + 1) < 0x20 := by
    rw [UInt8.lt_iff_toNat_lt, toNat_ofNat (by omega)]
    simp
    omega
  unfold controlCode? at h
  split at h
  · rename_i hlower
    simp only [Bool.and_eq_true, decide_eq_true_eq] at hlower
    obtain rfl := Option.some.inj h
    exact hletter _ hlower.1 hlower.2
  · split at h
    · rename_i hupper
      simp only [Bool.and_eq_true, decide_eq_true_eq] at hupper
      obtain rfl := Option.some.inj h
      exact hletter _ hupper.1 hupper.2
    · split at h <;> first | (obtain rfl := Option.some.inj h; decide) | cases h

theorem isText_character (c : Char) (m : Modifiers) : IsText (character c m) := by
  unfold character
  split
  · rename_i code hcode
    have hcontrol : controlCode? c = some code := by
      split at hcode
      · exact hcode
      · cases hcode
    have hlt : code < 0x80 := UInt8.lt_trans (controlCode?_lt hcontrol) (by decide)
    exact isText_withAlt (isText_ascii hlt) m
  · exact isText_withAlt (isText_encode _) m

theorem isText_sequence (t : Text) : IsText (sequence t) :=
  ((isText_encode t).cons (by decide)).cons (by decide)

theorem isText_letterKey (letter : Char) (m : Modifiers) (single : Bool) :
    IsText (letterKey letter m single) := by
  unfold letterKey
  split
  · split
    · exact ((isText_encode _).cons (by decide)).cons (by decide)
    · exact isText_sequence _
  · exact isText_sequence _

theorem isText_numberKey (number : Nat) (m : Modifiers) : IsText (numberKey number m) := by
  unfold numberKey
  split <;> exact isText_sequence _

theorem isText_functionKey {n : Nat} {m : Modifiers} {bytes : List UInt8}
    (h : functionKey n m = some bytes) : IsText bytes := by
  unfold functionKey at h
  split at h
  case h_13 => cases h
  all_goals obtain rfl := Option.some.inj h
  case h_1 | h_2 | h_3 | h_4 => exact isText_letterKey _ _ _
  all_goals exact isText_numberKey _ _

end Keyboard

open Keyboard

/-- What a key sends is the bytes of a text. -/
theorem KeyEvent.isText_encode {e : KeyEvent} {modes : Modes} {bytes : List UInt8}
    (h : e.encode modes = some bytes) : IsText bytes := by
  unfold KeyEvent.encode at h
  dsimp only at h
  split at h
  · cases h
  cases hcode : e.code
  all_goals rw [hcode] at h
  case capsLock | modifier | other => cases h
  case function n => exact isText_functionKey h
  all_goals obtain rfl := Option.some.inj h
  case char c => exact isText_character _ _
  case enter =>
    split
    · exact (isText_ascii (by decide)).cons (by decide)
    · exact isText_ascii (by decide)
  case backspace => exact isText_withAlt (isText_ascii (by decide)) _
  case tab | escape => exact isText_ascii (by decide)
  case backTab => exact isText_sequence _
  case up | down | right | left | home | endKey => exact isText_letterKey _ _ _
  case pageUp | pageDown | insert | delete => exact isText_numberKey _ _

/-! ### Some bytes -/

theorem Utf8.encode_ne_nil {t : Text} (h : t ≠ []) : encode t ≠ [] := by
  intro hnil
  have hlength := length_le_length_encode t
  rw [hnil, List.length_nil, Nat.le_zero, List.length_eq_zero_iff] at hlength
  exact h hlength

namespace Keyboard

theorem withAlt_ne_nil {bytes : List UInt8} (h : bytes ≠ []) (m : Modifiers) :
    withAlt m bytes ≠ [] := by
  unfold withAlt
  split
  · exact List.cons_ne_nil _ _
  · exact h

theorem character_ne_nil (c : Char) (m : Modifiers) : character c m ≠ [] := by
  unfold character
  split
  · exact withAlt_ne_nil (List.cons_ne_nil _ _) m
  · exact withAlt_ne_nil (Utf8.encode_ne_nil (List.cons_ne_nil _ _)) m

theorem letterKey_ne_nil (letter : Char) (m : Modifiers) (single : Bool) :
    letterKey letter m single ≠ [] := by
  unfold letterKey
  split
  · split <;> exact List.cons_ne_nil _ _
  · exact List.cons_ne_nil _ _

theorem numberKey_ne_nil (number : Nat) (m : Modifiers) : numberKey number m ≠ [] := by
  unfold numberKey
  split <;> exact List.cons_ne_nil _ _

theorem functionKey_ne_nil {n : Nat} {m : Modifiers} {bytes : List UInt8}
    (h : functionKey n m = some bytes) : bytes ≠ [] := by
  unfold functionKey at h
  split at h
  case h_13 => cases h
  all_goals obtain rfl := Option.some.inj h
  case h_1 | h_2 | h_3 | h_4 => exact letterKey_ne_nil _ _ _
  all_goals exact numberKey_ne_nil _ _

end Keyboard

/-- A key that sends anything sends some bytes. -/
theorem KeyEvent.encode_ne_nil {e : KeyEvent} {modes : Modes} {bytes : List UInt8}
    (h : e.encode modes = some bytes) : bytes ≠ [] := by
  unfold KeyEvent.encode at h
  dsimp only at h
  split at h
  · cases h
  cases hcode : e.code
  all_goals rw [hcode] at h
  case capsLock | modifier | other => cases h
  case function n => exact functionKey_ne_nil h
  all_goals obtain rfl := Option.some.inj h
  case char c => exact character_ne_nil _ _
  case enter => split <;> exact List.cons_ne_nil _ _
  case backspace => exact withAlt_ne_nil (List.cons_ne_nil _ _) _
  case tab | escape | backTab => exact List.cons_ne_nil _ _
  case up | down | right | left | home | endKey => exact letterKey_ne_nil _ _ _
  case pageUp | pageDown | insert | delete => exact numberKey_ne_nil _ _

/-- The bytes of a key are read as a text, which is not empty. -/
theorem KeyEvent.exists_text {e : KeyEvent} {modes : Modes} {bytes : List UInt8}
    (h : e.encode modes = some bytes) :
    ∃ t, t ≠ [] ∧ read? bytes = some t ∧ Utf8.encode t = bytes := by
  obtain ⟨t, hread, hbytes⟩ := (isText_encode h).exists_read?
  refine ⟨t, ?_, hread, hbytes⟩
  rintro rfl
  exact encode_ne_nil h hbytes.symm

end TermSession
