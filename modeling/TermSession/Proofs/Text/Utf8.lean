import TermSession.Text.Utf8

/-!
# The bytes of a character

A character is one byte below U+0080, or a byte that announces a sequence and its continuation.

* `Utf8.Spells`, `spells_encodeChar`: what the encoding of a character above U+007F looks like;
* `encode_of_read?`: well-formed bytes are read without loss;
* `lossy_encode`, `read?_encode`: a text is read from its own bytes.
-/

namespace TermSession.Utf8

/-- The bytes of a character above U+007F: the first announces how many there are, the others
continue it, and together they are decoded as the character. -/
structure Spells (c : Char) (lead : UInt8) (rest : List UInt8) : Prop where
  lead_ge : 0x80 ≤ lead.toNat
  announced_eq : announced lead = some (rest.length + 1)
  isContinuation : ∀ b ∈ rest, Utf8.isContinuation b = true
  rest_ne : rest ≠ []
  decode?_eq : decode? (lead :: rest) = some c

theorem scalar?_toNat {least : Nat} (c : Char) (h : least ≤ c.toNat) :
    scalar? least c.toNat = some c := by
  have hv : c.toNat.isValidChar := c.valid
  rw [scalar?, dif_pos hv, if_pos h]
  have h := Char.ofNat_toNat c
  rw [Char.ofNat, dif_pos hv] at h
  exact congrArg some h

theorem toNat_ofNat {n : Nat} (h : n < 256) : (UInt8.ofNat n).toNat = n := by
  simp [Nat.mod_eq_of_lt h]

theorem isContinuation_ofNat {n : Nat} (h : n < 64) :
    isContinuation (UInt8.ofNat (n + 0x80)) = true := by
  simp only [isContinuation, Bool.and_eq_true, decide_eq_true_eq, UInt8.le_iff_toNat_le,
    UInt8.lt_iff_toNat_lt, toNat_ofNat (show n + 0x80 < 256 by omega)]
  simp
  omega

theorem encodeChar_ascii {c : Char} (h : c.toNat < 0x80) :
    String.utf8EncodeChar c = [UInt8.ofNat c.toNat] := by
  have h' : c.val.toNat ≤ 0x7F := Nat.le_of_lt_succ h
  simp only [String.utf8EncodeChar, h', if_true]
  rfl

theorem encodeChar_two {c : Char} (h : 0x80 ≤ c.toNat) (h' : c.toNat ≤ 0x7FF) :
    String.utf8EncodeChar c =
      [UInt8.ofNat (c.toNat / 64 % 0x20 + 0xC0), UInt8.ofNat (c.toNat % 0x40 + 0x80)] := by
  have h₁ : ¬ c.val.toNat ≤ 0x7F := Nat.not_le.2 h
  have h₂ : c.val.toNat ≤ 0x7FF := h'
  simp only [String.utf8EncodeChar, h₁, h₂, if_true, if_false]
  rfl

theorem encodeChar_three {c : Char} (h : 0x800 ≤ c.toNat) (h' : c.toNat ≤ 0xFFFF) :
    String.utf8EncodeChar c =
      [UInt8.ofNat (c.toNat / 4096 % 0x10 + 0xE0), UInt8.ofNat (c.toNat / 64 % 0x40 + 0x80),
        UInt8.ofNat (c.toNat % 0x40 + 0x80)] := by
  have h₁ : ¬ c.val.toNat ≤ 0x7F := Nat.not_le.2 (Nat.lt_of_lt_of_le (by decide) h)
  have h₂ : ¬ c.val.toNat ≤ 0x7FF := Nat.not_le.2 h
  have h₃ : c.val.toNat ≤ 0xFFFF := h'
  simp only [String.utf8EncodeChar, h₁, h₂, h₃, if_true, if_false]
  rfl

theorem encodeChar_four {c : Char} (h : 0x10000 ≤ c.toNat) :
    String.utf8EncodeChar c =
      [UInt8.ofNat (c.toNat / 262144 % 0x08 + 0xF0), UInt8.ofNat (c.toNat / 4096 % 0x40 + 0x80),
        UInt8.ofNat (c.toNat / 64 % 0x40 + 0x80), UInt8.ofNat (c.toNat % 0x40 + 0x80)] := by
  have h₁ : ¬ c.val.toNat ≤ 0x7F := Nat.not_le.2 (Nat.lt_of_lt_of_le (by decide) h)
  have h₂ : ¬ c.val.toNat ≤ 0x7FF := Nat.not_le.2 (Nat.lt_of_lt_of_le (by decide) h)
  have h₃ : ¬ c.val.toNat ≤ 0xFFFF := Nat.not_le.2 h
  simp only [String.utf8EncodeChar, h₁, h₂, h₃, if_false]
  rfl

theorem announced_two {lead : UInt8} (h : 0xC0 ≤ lead.toNat) (h' : lead.toNat < 0xE0) :
    announced lead = some 2 := by
  have : 0xC0 ≤ lead ∧ lead < 0xE0 := ⟨UInt8.le_iff_toNat_le.2 h, UInt8.lt_iff_toNat_lt.2 h'⟩
  simp [announced, this]

theorem announced_three {lead : UInt8} (h : 0xE0 ≤ lead.toNat) (h' : lead.toNat < 0xF0) :
    announced lead = some 3 := by
  have h₁ : ¬ lead < 0xE0 := by simpa [UInt8.lt_iff_toNat_lt] using h
  have h₂ : 0xE0 ≤ lead ∧ lead < 0xF0 := ⟨UInt8.le_iff_toNat_le.2 h, UInt8.lt_iff_toNat_lt.2 h'⟩
  simp [announced, h₁, h₂]

theorem announced_four {lead : UInt8} (h : 0xF0 ≤ lead.toNat) (h' : lead.toNat < 0xF8) :
    announced lead = some 4 := by
  have h₁ : ¬ lead < 0xE0 := by
    simp only [UInt8.lt_iff_toNat_lt, Nat.not_lt]
    exact Nat.le_trans (by decide) h
  have h₂ : ¬ lead < 0xF0 := by simpa [UInt8.lt_iff_toNat_lt] using h
  have h₃ : 0xF0 ≤ lead ∧ lead < 0xF8 := ⟨UInt8.le_iff_toNat_le.2 h, UInt8.lt_iff_toNat_lt.2 h'⟩
  simp [announced, h₁, h₂, h₃]

theorem spells_two {c : Char} (h : 0x80 ≤ c.toNat) (h' : c.toNat ≤ 0x7FF) :
    Spells c (UInt8.ofNat (c.toNat / 64 % 0x20 + 0xC0)) [UInt8.ofNat (c.toNat % 0x40 + 0x80)] := by
  have hlead := toNat_ofNat (show c.toNat / 64 % 0x20 + 0xC0 < 256 by omega)
  have hb := toNat_ofNat (show c.toNat % 0x40 + 0x80 < 256 by omega)
  have hcont := isContinuation_ofNat (show c.toNat % 0x40 < 64 by omega)
  have hvalue : (c.toNat / 64 % 0x20 + 0xC0 - 0xC0) * 64 + (c.toNat % 0x40 + 0x80 - 0x80) =
      c.toNat := by omega
  refine ⟨by omega, ?_, by simpa using hcont, by simp, ?_⟩
  · exact announced_two (by omega) (by omega)
  · simp only [decode?, UInt8.le_iff_toNat_le, UInt8.lt_iff_toNat_lt, hlead, hb, hcont]
    rw [if_pos (by simp; omega), hvalue, scalar?_toNat c h]

theorem spells_three {c : Char} (h : 0x800 ≤ c.toNat) (h' : c.toNat ≤ 0xFFFF) :
    Spells c (UInt8.ofNat (c.toNat / 4096 % 0x10 + 0xE0))
      [UInt8.ofNat (c.toNat / 64 % 0x40 + 0x80), UInt8.ofNat (c.toNat % 0x40 + 0x80)] := by
  have hlead := toNat_ofNat (show c.toNat / 4096 % 0x10 + 0xE0 < 256 by omega)
  have hb := toNat_ofNat (show c.toNat / 64 % 0x40 + 0x80 < 256 by omega)
  have hd := toNat_ofNat (show c.toNat % 0x40 + 0x80 < 256 by omega)
  have hcontb := isContinuation_ofNat (show c.toNat / 64 % 0x40 < 64 by omega)
  have hcontd := isContinuation_ofNat (show c.toNat % 0x40 < 64 by omega)
  have hvalue : ((c.toNat / 4096 % 0x10 + 0xE0 - 0xE0) * 64 +
      (c.toNat / 64 % 0x40 + 0x80 - 0x80)) * 64 + (c.toNat % 0x40 + 0x80 - 0x80) = c.toNat := by
    omega
  refine ⟨by omega, ?_, List.forall_mem_cons.2 ⟨hcontb, List.forall_mem_cons.2 ⟨hcontd, by simp⟩⟩,
    by simp, ?_⟩
  · exact announced_three (by omega) (by omega)
  · simp only [decode?, UInt8.le_iff_toNat_le, UInt8.lt_iff_toNat_lt, hlead, hb, hd, hcontb, hcontd]
    rw [if_pos (by simp; omega), hvalue, scalar?_toNat c h]

theorem spells_four {c : Char} (h : 0x10000 ≤ c.toNat) :
    Spells c (UInt8.ofNat (c.toNat / 262144 % 0x08 + 0xF0))
      [UInt8.ofNat (c.toNat / 4096 % 0x40 + 0x80), UInt8.ofNat (c.toNat / 64 % 0x40 + 0x80),
        UInt8.ofNat (c.toNat % 0x40 + 0x80)] := by
  have hmax : c.toNat < 0x110000 := by
    have hv : c.toNat.isValidChar := c.valid
    unfold Nat.isValidChar at hv
    omega
  have hlead := toNat_ofNat (show c.toNat / 262144 % 0x08 + 0xF0 < 256 by omega)
  have hb := toNat_ofNat (show c.toNat / 4096 % 0x40 + 0x80 < 256 by omega)
  have hd := toNat_ofNat (show c.toNat / 64 % 0x40 + 0x80 < 256 by omega)
  have he := toNat_ofNat (show c.toNat % 0x40 + 0x80 < 256 by omega)
  have hcontb := isContinuation_ofNat (show c.toNat / 4096 % 0x40 < 64 by omega)
  have hcontd := isContinuation_ofNat (show c.toNat / 64 % 0x40 < 64 by omega)
  have hconte := isContinuation_ofNat (show c.toNat % 0x40 < 64 by omega)
  have hvalue : (((c.toNat / 262144 % 0x08 + 0xF0 - 0xF0) * 64 +
      (c.toNat / 4096 % 0x40 + 0x80 - 0x80)) * 64 + (c.toNat / 64 % 0x40 + 0x80 - 0x80)) * 64 +
      (c.toNat % 0x40 + 0x80 - 0x80) = c.toNat := by
    omega
  refine ⟨by omega, ?_, List.forall_mem_cons.2 ⟨hcontb, List.forall_mem_cons.2 ⟨hcontd,
    List.forall_mem_cons.2 ⟨hconte, by simp⟩⟩⟩, by simp, ?_⟩
  · exact announced_four (by omega) (by omega)
  · simp only [decode?, UInt8.le_iff_toNat_le, UInt8.lt_iff_toNat_lt, hlead, hb, hd, he, hcontb,
      hcontd, hconte]
    rw [if_pos (by simp; omega), hvalue, scalar?_toNat c h]

theorem spells_encodeChar {c : Char} (h : 0x80 ≤ c.toNat) :
    ∃ lead rest, String.utf8EncodeChar c = lead :: rest ∧ Spells c lead rest := by
  by_cases h₂ : c.toNat ≤ 0x7FF
  · exact ⟨_, _, encodeChar_two h h₂, spells_two h h₂⟩
  have hge₂ : 0x800 ≤ c.toNat := Nat.not_le.1 h₂
  by_cases h₃ : c.toNat ≤ 0xFFFF
  · exact ⟨_, _, encodeChar_three hge₂ h₃, spells_three hge₂ h₃⟩
  · exact ⟨_, _, encodeChar_four (Nat.not_le.1 h₃), spells_four (Nat.not_le.1 h₃)⟩

/-! ### Reading what was written -/

theorem toNat_of_scalar? {least n : Nat} {c : Char} (h : scalar? least n = some c) :
    c.toNat = n ∧ least ≤ n := by
  unfold scalar? at h
  by_cases hv : n.isValidChar
  · rw [dif_pos hv] at h
    by_cases hle : least ≤ n
    · rw [if_pos hle] at h
      exact ⟨by rw [← Option.some.inj h]; rfl, hle⟩
    · rw [if_neg hle] at h
      cases h
  · rw [dif_neg hv] at h
    cases h

theorem ofNat_eq_of_toNat {n : Nat} {a : UInt8} (h : n = a.toNat) : UInt8.ofNat n = a := by
  rw [h, UInt8.ofNat_toNat]

theorem toNat_of_isContinuation {b : UInt8} (h : isContinuation b = true) :
    0x80 ≤ b.toNat ∧ b.toNat < 0xC0 := by
  simpa [isContinuation, UInt8.le_iff_toNat_le, UInt8.lt_iff_toNat_lt] using h

/-- The bytes that decode to a character are the ones that encode it. -/
theorem encodeChar_of_decode? {bytes : List UInt8} {c : Char} (h : decode? bytes = some c) :
    String.utf8EncodeChar c = bytes := by
  unfold decode? at h
  split at h
  · rename_i a
    split at h
    · rename_i ha
      have ha : a.toNat < 0x80 := UInt8.lt_iff_toNat_lt.1 ha
      obtain ⟨hc, -⟩ := toNat_of_scalar? h
      rw [encodeChar_ascii (by omega), ofNat_eq_of_toNat hc]
    · cases h
  · rename_i a b
    split at h
    · rename_i hab
      simp only [Bool.and_eq_true, decide_eq_true_eq, UInt8.le_iff_toNat_le,
        UInt8.lt_iff_toNat_lt] at hab
      obtain ⟨⟨ha, ha'⟩, hb⟩ := hab
      have hb := toNat_of_isContinuation hb
      obtain ⟨hc, hle⟩ := toNat_of_scalar? h
      simp at ha ha'
      rw [encodeChar_two (by omega) (by omega), ofNat_eq_of_toNat (by omega : _ = a.toNat),
        ofNat_eq_of_toNat (by omega : _ = b.toNat)]
    · cases h
  · rename_i a b d
    split at h
    · rename_i habd
      simp only [Bool.and_eq_true, decide_eq_true_eq, UInt8.le_iff_toNat_le,
        UInt8.lt_iff_toNat_lt] at habd
      obtain ⟨⟨⟨ha, ha'⟩, hb⟩, hd⟩ := habd
      have hb := toNat_of_isContinuation hb
      have hd := toNat_of_isContinuation hd
      obtain ⟨hc, hle⟩ := toNat_of_scalar? h
      simp at ha ha'
      rw [encodeChar_three (by omega) (by omega), ofNat_eq_of_toNat (by omega : _ = a.toNat),
        ofNat_eq_of_toNat (by omega : _ = b.toNat), ofNat_eq_of_toNat (by omega : _ = d.toNat)]
    · cases h
  · rename_i a b d e
    split at h
    · rename_i habde
      simp only [Bool.and_eq_true, decide_eq_true_eq, UInt8.le_iff_toNat_le,
        UInt8.lt_iff_toNat_lt] at habde
      obtain ⟨⟨⟨⟨ha, ha'⟩, hb⟩, hd⟩, he⟩ := habde
      have hb := toNat_of_isContinuation hb
      have hd := toNat_of_isContinuation hd
      have he := toNat_of_isContinuation he
      obtain ⟨hc, hle⟩ := toNat_of_scalar? h
      simp at ha ha'
      rw [encodeChar_four (by omega), ofNat_eq_of_toNat (by omega : _ = a.toNat),
        ofNat_eq_of_toNat (by omega : _ = b.toNat), ofNat_eq_of_toNat (by omega : _ = d.toNat),
        ofNat_eq_of_toNat (by omega : _ = e.toNat)]
    · cases h
  · cases h

theorem continuation_append_drop (lead : UInt8) (rest : List UInt8) :
    continuation lead rest ++ rest.drop (continuation lead rest).length = rest := by
  cases rest with
  | nil => rfl
  | cons b rest =>
    rw [continuation]
    by_cases hb : isSecond lead b
    · rw [if_pos hb]
      have hprefix : (rest.take ((announced lead).getD 2 - 2)).takeWhile isContinuation <+: rest :=
        (List.takeWhile_prefix _).trans (List.take_prefix _ _)
      obtain ⟨more, hmore⟩ := hprefix
      generalize (rest.take ((announced lead).getD 2 - 2)).takeWhile isContinuation = taken at *
      subst hmore
      simp
    · rw [if_neg hb]
      rfl

/-- If every piece is a character, the characters found encode what was scanned. -/
theorem encode_scanAfter (found : List (Option Char)) (bytes : List UInt8)
    (h : (scanAfter found bytes).all Option.isSome = true) :
    encode ((scanAfter found bytes).filterMap id) =
      encode (found.reverse.filterMap id) ++ bytes ∧ found.all Option.isSome = true := by
  induction found, bytes using scanAfter.induct with
  | case1 found =>
    rw [scanAfter] at h ⊢
    exact ⟨by simp, by simpa using h⟩
  | case2 found b rest more ih =>
    rw [scanAfter] at h ⊢
    obtain ⟨hencode, hall⟩ := ih h
    simp only [List.all_cons, Bool.and_eq_true] at hall
    obtain ⟨c, hc⟩ := Option.isSome_iff_exists.1 hall.1
    refine ⟨?_, hall.2⟩
    rw [hencode, hc]
    have hchar : encode [c] = b :: more := by simpa [encode] using encodeChar_of_decode? hc
    simp only [List.reverse_cons, List.filterMap_append, encode_append, List.append_assoc]
    simp [hchar, more, continuation_append_drop]

/-- Well-formed bytes are the encoding of the text that is read from them. -/
theorem encode_of_read? {bytes : List UInt8} {t : Text} (h : read? bytes = some t) :
    encode t = bytes := by
  unfold read? scan at h
  by_cases hall : (scanAfter [] bytes).all Option.isSome
  · rw [if_pos hall] at h
    rw [← Option.some.inj h, (encode_scanAfter [] bytes hall).1]
    rfl
  · rw [if_neg hall] at h
    cases h

/-! ### Writing and reading -/

/-- Which bytes may follow the first byte of a character, in numbers. -/
theorem isSecond_iff (lead b : UInt8) :
    isSecond lead b = true ↔
      (0xC2 ≤ lead.toNat ∧ lead.toNat < 0xF5) ∧ (0x80 ≤ b.toNat ∧ b.toNat < 0xC0) ∧
        (lead.toNat = 0xE0 → 0xA0 ≤ b.toNat) ∧ (lead.toNat = 0xED → b.toNat < 0xA0) ∧
        (lead.toNat = 0xF0 → 0x90 ≤ b.toNat) ∧ (lead.toNat = 0xF4 → b.toNat < 0x90) := by
  have hE0 : lead = 0xE0 ↔ lead.toNat = 0xE0 := UInt8.toNat_inj.symm
  have hED : lead = 0xED ↔ lead.toNat = 0xED := UInt8.toNat_inj.symm
  have hF0 : lead = 0xF0 ↔ lead.toNat = 0xF0 := UInt8.toNat_inj.symm
  have hF4 : lead = 0xF4 ↔ lead.toNat = 0xF4 := UInt8.toNat_inj.symm
  simp only [isSecond, isContinuation, hE0, hED, hF0, hF4, UInt8.le_iff_toNat_le,
    UInt8.lt_iff_toNat_lt, UInt8.reduceToNat]
  split
  · simp; omega
  · split
    · simp; omega
    · split
      · simp; omega
      · split <;> simp <;> omega

/-- The second byte of a character is one that may follow the first: forms that are overlong, too
large or surrogates encode nothing. -/
theorem isSecond_of_decode? {lead b : UInt8} {rest : List UInt8} {c : Char}
    (h : decode? (lead :: b :: rest) = some c) : isSecond lead b = true := by
  have hvalid : c.toNat.isValidChar := c.valid
  have hsome := h
  rw [isSecond_iff]
  unfold decode? at h
  split at h
  · rename_i heq
    cases heq
  · rename_i a d heq
    obtain ⟨rfl, rfl, -⟩ : lead = a ∧ b = d ∧ rest = [] := by simpa using heq
    split at h
    · rename_i hab
      simp only [Bool.and_eq_true, decide_eq_true_eq, UInt8.le_iff_toNat_le,
        UInt8.lt_iff_toNat_lt] at hab
      obtain ⟨⟨ha, ha'⟩, hb⟩ := hab
      have hb := toNat_of_isContinuation hb
      obtain ⟨hc, hle⟩ := toNat_of_scalar? h
      simp at ha ha'
      omega
    · cases h
  · rename_i a d e heq
    obtain ⟨rfl, rfl, -⟩ : lead = a ∧ b = d ∧ rest = [e] := by simpa using heq
    split at h
    · rename_i hab
      simp only [Bool.and_eq_true, decide_eq_true_eq, UInt8.le_iff_toNat_le,
        UInt8.lt_iff_toNat_lt] at hab
      obtain ⟨⟨⟨ha, ha'⟩, hb⟩, he⟩ := hab
      have hb := toNat_of_isContinuation hb
      have he := toNat_of_isContinuation he
      obtain ⟨hc, hle⟩ := toNat_of_scalar? h
      simp at ha ha'
      unfold Nat.isValidChar at hvalid
      omega
    · cases h
  · rename_i a d e f heq
    obtain ⟨rfl, rfl, -⟩ : lead = a ∧ b = d ∧ rest = [e, f] := by simpa using heq
    split at h
    · rename_i hab
      simp only [Bool.and_eq_true, decide_eq_true_eq, UInt8.le_iff_toNat_le,
        UInt8.lt_iff_toNat_lt] at hab
      obtain ⟨⟨⟨⟨ha, ha'⟩, hb⟩, he⟩, hf⟩ := hab
      have hb := toNat_of_isContinuation hb
      have he := toNat_of_isContinuation he
      have hf := toNat_of_isContinuation hf
      obtain ⟨hc, hle⟩ := toNat_of_scalar? h
      simp at ha ha'
      unfold Nat.isValidChar at hvalid
      omega
    · cases h
  · cases h

/-- The bytes of a character are read as far as they go, whatever follows. -/
theorem Spells.continuation_eq {c : Char} {lead : UInt8} {rest : List UInt8}
    (hc : Spells c lead rest) (more : List UInt8) : continuation lead (rest ++ more) = rest := by
  obtain ⟨b, rest, rfl⟩ := List.exists_cons_of_ne_nil hc.rest_ne
  have hsecond := isSecond_of_decode? hc.decode?_eq
  have hrest : ∀ d ∈ rest, Utf8.isContinuation d = true :=
    fun d hd => hc.isContinuation d (List.mem_cons_of_mem _ hd)
  rw [List.cons_append, continuation, if_pos hsecond, hc.announced_eq]
  simp only [Option.getD_some, List.length_cons, Nat.reduceSubDiff]
  have htail := @List.takeWhile_append_of_pos _ Utf8.isContinuation rest [] hrest
  rw [List.append_nil, List.takeWhile_nil, List.append_nil] at htail
  rw [List.take_left' (by simp), htail]

/-- The characters of a text are found in its bytes. -/
theorem scanAfter_encode (found : List (Option Char)) (t : Text) :
    scanAfter found (encode t) = found.reverse ++ t.map some := by
  induction t generalizing found with
  | nil => rw [encode_nil, scanAfter, List.map_nil, List.append_nil]
  | cons c t ih =>
    have hcons : encode (c :: t) = String.utf8EncodeChar c ++ encode t := rfl
    rw [hcons]
    by_cases hlt : c.toNat < 0x80
    · have hascii : (UInt8.ofNat c.toNat).toNat = c.toNat := toNat_ofNat (by omega)
      have hmore : continuation (UInt8.ofNat c.toNat) (encode t) = [] := by
        cases encode t with
        | nil => rfl
        | cons b rest =>
          rw [continuation, if_neg]
          rw [isSecond_iff, hascii]
          omega
      have hdecode : decode? [UInt8.ofNat c.toNat] = some c := by
        have hlt' : UInt8.ofNat c.toNat < 0x80 := by
          rw [UInt8.lt_iff_toNat_lt, hascii]
          exact hlt
        rw [decode?, if_pos hlt', hascii]
        exact scalar?_toNat c (Nat.zero_le _)
      rw [encodeChar_ascii hlt, List.singleton_append, scanAfter]
      simp only [hmore, hdecode, List.length_nil, List.drop_zero]
      rw [ih, List.reverse_cons, List.map_cons, List.append_assoc]
      rfl
    · obtain ⟨lead, rest, hbytes, hc⟩ := spells_encodeChar (Nat.not_lt.1 hlt)
      rw [hbytes, List.cons_append, scanAfter]
      simp only [hc.continuation_eq, hc.decode?_eq, List.drop_left]
      rw [ih, List.reverse_cons, List.map_cons, List.append_assoc]
      rfl

/-- The bytes of a text are read as the text. -/
theorem lossy_encode (t : Text) : lossy (encode t) = t := by
  rw [lossy, scan, scanAfter_encode, List.reverse_nil, List.nil_append, List.map_map]
  exact List.map_id t

/-- The bytes of a text are well formed. -/
theorem read?_encode (t : Text) : read? (encode t) = some t := by
  rw [read?, scan, scanAfter_encode, List.reverse_nil, List.nil_append]
  simp

theorem length_le_length_encode (t : Text) : t.length ≤ (encode t).length := by
  induction t with
  | nil => exact Nat.le_refl 0
  | cons c t ih =>
    have hcons : encode (c :: t) = String.utf8EncodeChar c ++ encode t := rfl
    have hpos := c.utf8Size_pos
    rw [hcons, List.length_append, List.length_cons, String.length_utf8EncodeChar]
    omega

/-- A byte below U+0080 in the bytes of a text is a character of it. -/
theorem ofNat_mem_of_mem_encode {t : Text} {b : UInt8} (hb : b ∈ encode t) (hlt : b.toNat < 0x80) :
    Char.ofNat b.toNat ∈ t := by
  obtain ⟨c, hc, hbc⟩ := List.mem_flatMap.1 hb
  by_cases hascii : c.toNat < 0x80
  · rw [encodeChar_ascii hascii, List.mem_singleton] at hbc
    rw [hbc, toNat_ofNat (by omega), Char.ofNat_toNat]
    exact hc
  · obtain ⟨lead, rest, hbytes, hs⟩ := spells_encodeChar (Nat.not_lt.1 hascii)
    rw [hbytes] at hbc
    rcases List.mem_cons.1 hbc with rfl | hrest
    · exact absurd hs.lead_ge (by omega)
    · exact absurd (toNat_of_isContinuation (hs.isContinuation b hrest)).1 (by omega)

end TermSession.Utf8
