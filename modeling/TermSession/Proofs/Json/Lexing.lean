import Mathlib.Data.List.TakeWhile
import TermSession.Proofs.Terminal.Framing
import TermSession.Wire

/-!
# Tokens of written JSON

The tokens of a text do not depend on what follows it, unless the front of that goes on with a
word.  A written string is one token with the string as its content, whatever escapes it needs, and
a written number is one token with that number.

* `Json.EndsWord`: what does not go on with a word;
* `Json.tokens?_append`: the tokens of a text in front of another;
* `Json.tokens?_writeString_append`, `Json.tokens?_writeNat`: written strings and numbers.
-/

namespace TermSession.Json

/-! ### Step by step -/

theorem isBlank_iff {c : Char} : isBlank c = true ↔ c = ' ' ∨ c = '\t' ∨ c = '\n' ∨ c = '\r' := by
  simp [isBlank, or_assoc]

theorem readString_escape {rest rest' : Text} {c : Option Char}
    (h : readEscape rest = some (c, rest')) (content : Option Text) :
    readString content ('\\' :: rest) = readString (addChar content c) rest' := by
  rw [readString]
  split <;> simp_all

theorem readString_plain {c : Char} (hquote : c ≠ '"') (hslash : c ≠ '\\')
    (hlow : ¬c.toNat < 0x20) (content : Option Text) (rest : Text) :
    readString content (c :: rest) = readString (addChar content (some c)) rest := by
  rw [readString, if_neg hlow]
  · exact hquote
  · exact hslash

theorem tokensAfter_blank {c : Char} (h : isBlank c = true) (found : List Token) (rest : Text) :
    tokensAfter found (c :: rest) = tokensAfter found rest := by
  rw [tokensAfter, if_pos h]

theorem tokensAfter_quote {rest rest' : Text} {content : Option Text}
    (h : readString (some []) rest = some (content, rest')) (found : List Token) :
    tokensAfter found ('"' :: rest) = tokensAfter (.str content :: found) rest' := by
  rw [tokensAfter, if_neg (by decide), if_pos rfl]
  split <;> simp_all

theorem tokensAfter_punctuation {c : Char} {token : Token} (h : punctuation? c = some token)
    (found : List Token) (rest : Text) :
    tokensAfter found (c :: rest) = tokensAfter (token :: found) rest := by
  have hblank : ¬isBlank c = true := by
    intro hblank
    rcases isBlank_iff.1 hblank with rfl | rfl | rfl | rfl <;> cases h
  have hquote : c ≠ '"' := by
    rintro rfl
    cases h
  rw [tokensAfter, if_neg hblank, if_neg hquote]
  simp only [h]

theorem tokensAfter_word {c : Char} {rest : Text} {token : Token} (hblank : ¬isBlank c = true)
    (hquote : c ≠ '"') (hpunct : punctuation? c = none)
    (h : word? (c :: rest.takeWhile isWordChar) = some token) (found : List Token) :
    tokensAfter found (c :: rest) =
      tokensAfter (token :: found) (rest.dropWhile isWordChar) := by
  rw [tokensAfter, if_neg hblank, if_neg hquote]
  simp only [hpunct, h]

/-! ### Texts in front of others -/

/-- An escape by number has four digits. -/
theorem exists_of_readEscape_u {t : Text} (h : readEscape ('u' :: t) ≠ none) :
    ∃ e f g k rest, t = e :: f :: g :: k :: rest := by
  match t, h with
  | [], h => exact absurd rfl h
  | [_], h => exact absurd rfl h
  | [_, _], h => exact absurd rfl h
  | [_, _, _], h => exact absurd rfl h
  | e :: f :: g :: k :: rest, _ => exact ⟨e, f, g, k, rest, rfl⟩

/-- If a string with a second half of a surrogate pair at its front comes to its end, that half
stands there in full. -/
theorem exists_of_readString_pair {content : Option Text} {t : Text} (more : Text)
    {e f g k : Char} {rest : Text} (ht : t ++ more = '\\' :: 'u' :: e :: f :: g :: k :: rest)
    (h : readString content t ≠ none) : ∃ rest', t = '\\' :: 'u' :: e :: f :: g :: k :: rest' := by
  match t, ht, h with
  | [], _, h => simp [readString] at h
  | [b], ht, h =>
    obtain ⟨rfl, -⟩ : b = '\\' ∧ _ := by simpa using ht
    simp [readString, readEscape] at h
  | b :: u :: tail, ht, h =>
    obtain ⟨rfl, rfl, htail⟩ : b = '\\' ∧ u = 'u' ∧ tail ++ more = e :: f :: g :: k :: rest := by
      simpa using ht
    have hesc : readEscape ('u' :: tail) ≠ none := by
      intro hnone
      rw [readString] at h
      split at h <;> simp_all
    obtain ⟨e', f', g', k', rest', rfl⟩ := exists_of_readEscape_u hesc
    simp only [List.cons_append, List.cons.injEq] at htail
    obtain ⟨rfl, rfl, rfl, rfl, -⟩ := htail
    exact ⟨rest', rfl⟩

/-- An escape is read in the same way with more behind it, if the string comes to its end before:
only an unfinished second half of a surrogate pair could make a difference. -/
theorem readEscape_append {t rest : Text} {c : Option Char} (h : readEscape t = some (c, rest))
    {content : Option Text} (hrest : readString content rest ≠ none) (more : Text) :
    readEscape (t ++ more) = some (c, rest ++ more) := by
  unfold readEscape at h
  split at h
  · rename_i a b c' d tail
    obtain ⟨n, hn, h⟩ := Option.bind_eq_some_iff.1 h
    simp only [List.cons_append, readEscape, hn, Option.bind_eq_bind, Option.bind_some]
    split at h
    · rename_i hhigh
      rw [if_pos hhigh]
      split at h
      · rename_i e f g k rest'
        simp only [List.cons_append]
        split at h <;> cases h <;> simp_all
      · rename_i hpair
        obtain ⟨rfl, rfl⟩ : none = c ∧ tail = rest := by simpa using h
        split
        · rename_i e f g k rest' htail
          obtain ⟨rest'', rfl⟩ := exists_of_readString_pair more htail hrest
          exact (hpair _ _ _ _ _ rfl).elim
        · rfl
    · rename_i hhigh
      rw [if_neg hhigh]
      split at h <;> simp_all
  · rename_i c' tail hhex
    obtain ⟨e, he, h⟩ := Option.map_eq_some_iff.1 h
    cases h
    have hu : c' ≠ 'u' := by
      rintro rfl
      simp [escape?] at he
    simp [readEscape, hu, he]
  · cases h

/-- A string that comes to its end is read in the same way with more behind it. -/
theorem readString_append {content result : Option Text} {t rest : Text}
    (h : readString content t = some (result, rest)) (more : Text) :
    readString content (t ++ more) = some (result, rest ++ more) := by
  fun_induction readString content t with
  | case1 => cases h
  | case2 content tail =>
    cases h
    simp [readString]
  | case3 content tail c rest' he ih =>
    have hrest : readString (addChar content c) rest' ≠ none := by simp [h]
    rw [List.cons_append, readString_escape (readEscape_append he hrest more), ih h]
  | case4 => cases h
  | case5 => cases h
  | case6 content c tail hquote hslash hlow ih =>
    rw [List.cons_append, readString_plain hquote hslash hlow, ih h]

/-- What does not go on with a word. -/
def EndsWord (t : Text) : Prop := ∀ c ∈ t.head?, isWordChar c = false

theorem endsWord_cons {c : Char} {t : Text} : EndsWord (c :: t) ↔ isWordChar c = false := by
  simp [EndsWord]

theorem EndsWord.append {t u : Text} (ht : EndsWord t) (hu : EndsWord u) : EndsWord (t ++ u) := by
  cases t with
  | nil => exact hu
  | cons c t => exact endsWord_cons.2 (endsWord_cons.1 ht)

theorem EndsWord.takeWhile_append {more : Text} (h : EndsWord more) (t : Text) :
    (t ++ more).takeWhile isWordChar = t.takeWhile isWordChar := by
  have hmore : more.takeWhile isWordChar = [] := by
    cases more with
    | nil => rfl
    | cons c more => simp [endsWord_cons.1 h]
  rw [List.takeWhile_append, hmore, List.append_nil]
  split
  · rename_i hall
    exact ((List.takeWhile_sublist _).eq_of_length hall).symm
  · rfl

theorem EndsWord.dropWhile_append {more : Text} (h : EndsWord more) (t : Text) :
    (t ++ more).dropWhile isWordChar = t.dropWhile isWordChar ++ more := by
  have hmore : more.dropWhile isWordChar = more := by
    cases more with
    | nil => rfl
    | cons c more => simp [endsWord_cons.1 h]
  rw [List.dropWhile_append, hmore]
  split
  · rename_i hnil
    rw [List.isEmpty_iff.1 hnil, List.nil_append]
  · rfl

@[simp] theorem tokens?_nil : tokens? [] = some [] := by
  simp [tokens?, tokensAfter]

/-- Tokens found before stand in front of those of the text. -/
theorem tokensAfter_append (found before : List Token) (t : Text) :
    tokensAfter (found ++ before) t = (tokensAfter found t).map (before.reverse ++ ·) := by
  fun_induction tokensAfter found t with
  | case1 found => simp [tokensAfter]
  | case2 found c rest hblank ih => rw [tokensAfter_blank hblank, ih]
  | case3 found rest content rest' hstring hblank ih =>
    rw [tokensAfter_quote hstring, ← List.cons_append, ih]
  | case4 found rest hstring hblank =>
    rw [tokensAfter, if_neg hblank, if_pos rfl]
    split <;> simp_all
  | case5 found c rest hblank hquote token htoken ih =>
    rw [tokensAfter_punctuation htoken, ← List.cons_append, ih]
  | case6 found c rest hblank hquote hpunct token hword ih =>
    rw [tokensAfter_word hblank hquote hpunct hword, ← List.cons_append, ih]
  | case7 found c rest hblank hquote hpunct hword =>
    rw [tokensAfter, if_neg hblank, if_neg hquote]
    simp only [hpunct, hword]
    rfl

theorem tokensAfter_eq (found : List Token) (t : Text) :
    tokensAfter found t = (tokens? t).map (found.reverse ++ ·) :=
  tokensAfter_append [] found t

/-- The tokens of a text are the same in front of anything that does not go on with a word. -/
theorem tokensAfter_append_text {found tokens : List Token} {t : Text}
    (h : tokensAfter found t = some tokens) {more : Text} (hmore : EndsWord more) :
    tokensAfter found (t ++ more) = tokensAfter tokens.reverse more := by
  fun_induction tokensAfter found t with
  | case1 found =>
    cases h
    simp
  | case2 found c rest hblank ih => rw [List.cons_append, tokensAfter_blank hblank, ih h]
  | case3 found rest content rest' hstring hblank ih =>
    rw [List.cons_append, tokensAfter_quote (readString_append hstring more), ih h]
  | case4 => cases h
  | case5 found c rest hblank hquote token htoken ih =>
    rw [List.cons_append, tokensAfter_punctuation htoken, ih h]
  | case6 found c rest hblank hquote hpunct token hword ih =>
    -- What follows does not make the word longer.
    rw [← hmore.takeWhile_append] at hword
    rw [List.cons_append, tokensAfter_word hblank hquote hpunct hword, hmore.dropWhile_append, ih h]
  | case7 => cases h

theorem tokens?_append {tokens : List Token} {t : Text} (h : tokens? t = some tokens) {more : Text}
    (hmore : EndsWord more) : tokens? (t ++ more) = (tokens? more).map (tokens ++ ·) := by
  rw [tokens?, tokensAfter_append_text h hmore, tokensAfter_eq, List.reverse_reverse]

/-- A bracket or separator is one token. -/
theorem tokens?_punctuation {c : Char} {token : Token} (h : punctuation? c = some token)
    (rest : Text) : tokens? (c :: rest) = (tokens? rest).map (token :: ·) := by
  rw [tokens?, tokensAfter_punctuation h, tokensAfter_eq]
  rfl

/-! ### Written strings -/

/-- The digits of a control character. -/
theorem read?_control : ∀ n < 0x20,
    Hex.read? ['0', '0', Nat.digitChar (n / 16), Nat.digitChar (n % 16)] = some n := by
  decide

theorem readString_simpleEscape {e c : Char} (h : escape? e = some c) (content rest : Text) :
    readString (some content) ('\\' :: e :: rest) = readString (some (c :: content)) rest := by
  have hesc : readEscape (e :: rest) = some (some c, rest) := by
    rw [readEscape, h]
    · rfl
    · rintro _ _ _ _ _ rfl -
      simp [escape?] at h
  exact readString_escape hesc (some content)

/-- A control character is no half of a surrogate pair, so nothing is read behind its digits. -/
theorem readString_control {c : Char} (h : c.toNat < 0x20) (content rest : Text) :
    readString (some content) ('\\' :: 'u' :: '0' :: '0' :: Nat.digitChar (c.toNat / 16) ::
      Nat.digitChar (c.toNat % 16) :: rest) = readString (some (c :: content)) rest := by
  have hfirst : isHighSurrogate c.toNat = false := by
    simp only [isHighSurrogate, Bool.and_eq_false_imp, decide_eq_true_eq, decide_eq_false_iff_not]
    omega
  have hsecond : isLowSurrogate c.toNat = false := by
    simp only [isLowSurrogate, Bool.and_eq_false_imp, decide_eq_true_eq, decide_eq_false_iff_not]
    omega
  have hesc : readEscape ('u' :: '0' :: '0' :: Nat.digitChar (c.toNat / 16) ::
      Nat.digitChar (c.toNat % 16) :: rest) = some (some c, rest) := by
    simp [readEscape, read?_control _ h, hfirst, hsecond, Char.ofNat_toNat]
  exact readString_escape hesc (some content)

/-- A written character is read as itself. -/
theorem readString_writeChar (content : Text) (c : Char) (rest : Text) :
    readString (some content) (writeChar c ++ rest) = readString (some (c :: content)) rest := by
  unfold writeChar
  split_ifs with hquote hslash hb hf hn hr ht hlow
  · exact readString_simpleEscape (by rw [hquote]; rfl) content rest
  · exact readString_simpleEscape (by rw [hslash]; rfl) content rest
  · exact readString_simpleEscape (by rw [hb]; rfl) content rest
  · exact readString_simpleEscape (by rw [hf]; rfl) content rest
  · exact readString_simpleEscape (by rw [hn]; rfl) content rest
  · exact readString_simpleEscape (by rw [hr]; rfl) content rest
  · exact readString_simpleEscape (by rw [ht]; rfl) content rest
  · exact readString_control hlow content rest
  · exact readString_plain hquote hslash hlow (some content) rest

/-- A written string is read as its content. -/
theorem readString_written (content t rest : Text) :
    readString (some content) (t.flatMap writeChar ++ '"' :: rest) =
      some (some (content.reverse ++ t), rest) := by
  induction t generalizing content with
  | nil => simp [readString]
  | cons c t ih =>
    rw [List.flatMap_cons, List.append_assoc, readString_writeChar, ih, List.reverse_cons,
      List.append_assoc, List.singleton_append]

/-- A written string is one token. -/
theorem tokens?_writeString_append (t rest : Text) :
    tokens? (writeString t ++ rest) = (tokens? rest).map (.str (some t) :: ·) := by
  have hstring := readString_written [] t rest
  rw [List.reverse_nil, List.nil_append] at hstring
  rw [writeString, List.cons_append, List.cons_append, List.append_assoc, List.singleton_append,
    tokens?, tokensAfter_quote hstring, tokensAfter_eq]
  rfl

/-! ### Written numbers -/

theorem Numeral.isWhole_render (n : Nat) : Numeral.isWhole (Decimal.render n) = true := by
  unfold Numeral.isWhole
  split
  · rename_i hnil
    exact absurd hnil Nat.toDigits_ne_nil
  · rename_i rest hrest
    have hn := Decimal.eq_zero_of_render hrest
    subst hn
    cases hrest
    rfl
  · rfl

/-- The numeral of a number is taken apart as that number. -/
theorem Numeral.read?_render (n : Nat) :
    Numeral.read? (Decimal.render n) = some ⟨false, Decimal.render n, none, none⟩ := by
  have hdigits := Decimal.isDigit_of_mem_render (n := n)
  have hsplit : Numeral.digits (Decimal.render n) = (Decimal.render n, []) := by
    rw [Numeral.digits, List.takeWhile_eq_self_iff.2 hdigits, List.dropWhile_eq_nil_iff.2 hdigits]
  have hsign : ∀ rest, Decimal.render n ≠ '-' :: rest := by
    exact Decimal.render_ne_cons (by decide) n
  unfold Numeral.read?
  split
  rename_i negative t heq
  split at heq
  · rename_i rest h
    exact absurd h (hsign rest)
  · cases heq
    simp [hsplit, Numeral.isWhole_render, Numeral.readFraction, Numeral.readExponent]

/-- The numeral of a number is a word for it. -/
theorem word?_render {n : Nat} (h : n ≤ Decimal.maxU64) :
    word? (Decimal.render n) = some (.number (some (.int n))) := by
  have hletters (t : Text) (ht : t.all Char.isDigit = false) : Decimal.render n ≠ t := by
    rintro rfl
    rw [Decimal.all_isDigit_render] at ht
    cases ht
  have hint : Numeral.int? ⟨false, Decimal.render n, none, none⟩ = some (n : Int) := by
    simp [Numeral.int?, Decimal.valueUpTo_eq, Decimal.value_render,
      Nat.min_eq_left (Nat.le_succ_of_le h), h]
  rw [word?, if_neg (hletters _ rfl), if_neg (hletters _ rfl), if_neg (hletters _ rfl),
    Numeral.read?_render, Option.map_some, Numeral.number?, hint]

/-- A digit stands in a word. -/
theorem isWordChar_of_isDigit {c : Char} (h : c.isDigit = true) : isWordChar c = true := by
  have hblank : ¬isBlank c = true := by
    intro hblank
    rcases isBlank_iff.1 hblank with rfl | rfl | rfl | rfl <;> cases h
  have hpunct : punctuation? c = none := by
    unfold punctuation?
    split <;> first | rfl | cases h
  have hquote : c ≠ '"' := by
    rintro rfl
    cases h
  simp [isWordChar, hblank, hpunct, hquote]

/-- A written number is one token. -/
theorem tokens?_writeNat {n : Nat} (h : n ≤ Decimal.maxU64) :
    tokens? (writeNat n) = some [.number (some (.int n))] := by
  obtain ⟨c, ds, hds⟩ := List.exists_cons_of_ne_nil (Nat.toDigits_ne_nil (n := n) (b := 10))
  have hds : Decimal.render n = c :: ds := hds
  have hword := word?_render h
  have hall : ∀ d ∈ c :: ds, isWordChar d = true := fun d hd =>
    isWordChar_of_isDigit (Decimal.isDigit_of_mem_render d (hds ▸ hd))
  have htail : ∀ d ∈ ds, isWordChar d = true := fun d hd => hall d (List.mem_cons_of_mem c hd)
  obtain ⟨⟨hblank, hpunct⟩, hquote⟩ : (isBlank c = false ∧ punctuation? c = none) ∧ c ≠ '"' := by
    simpa [isWordChar] using hall c (by simp)
  rw [hds, ← List.takeWhile_eq_self_iff.2 htail] at hword
  rw [tokens?, writeNat, hds, tokensAfter_word (by simp [hblank]) hquote hpunct hword,
    List.dropWhile_eq_nil_iff.2 htail, tokensAfter]
  rfl

end TermSession.Json
