import Mathlib.Data.List.TakeWhile
import TermSession.Toml.Quoted

/-!
# TOML strings come back

A text is written in one of four forms.  Whichever is chosen, the text is read back from it, and
reading ends where the string ends.  Escapes are single steps of the reader.  In strings of several
lines the quotes need care: a run of them ends the string if there are three or more, and the last
three of the run are the closing ones.

* `Quoted.Spells`: a character as it is written between double quotes; `spells_writeChar`;
* `readLines_close`, `readLines_quote`: runs of quotes in a string of several lines;
* `readLines_writeBody`, `readLines_literal`: strings of several lines;
* `Form.Suits`, `suits_choose`: texts that a form can hold;
* `read_write`: a written text is read back.
-/

namespace TermSession.Toml.Quoted

/-! ### Characters -/

theorem isPlain_iff {c : Char} :
    isPlain c = true ↔ c = '\t' ∨ (0x20 ≤ c.toNat ∧ c.toNat ≠ 0x7F) := by
  simp [isPlain]

theorem needsCode_eq_false_iff {c : Char} : needsCode c = false ↔ isPlain c = true ∨ c = '\n' := by
  have htab : c = '\t' ↔ c.toNat = 0x09 := Char.toNat_inj.symm
  have hline : c = '\n' ↔ c.toNat = 0x0A := Char.toNat_inj.symm
  simp only [needsCode, isPlain_iff, htab, hline, Bool.or_eq_false_iff, Bool.and_eq_false_iff,
    decide_eq_false_iff_not, ne_eq, decide_not, Bool.not_eq_false', decide_eq_true_eq]
  omega

/-- What does not start with an end of line. -/
def StartsInLine (t : Text) : Prop := ∀ c ∈ t.head?, c ≠ '\n' ∧ c ≠ '\r'

theorem StartsInLine.cons {c : Char} (hline : c ≠ '\n') (hreturn : c ≠ '\r') (t : Text) :
    StartsInLine (c :: t) := by
  simpa [StartsInLine] using ⟨hline, hreturn⟩

theorem startsInLine_of_isPlain {c : Char} (h : isPlain c = true) (t : Text) :
    StartsInLine (c :: t) := by
  refine .cons ?_ ?_ t <;> (rintro rfl; revert h; decide)

theorem StartsInLine.afterNewline?_eq {t : Text} (h : StartsInLine t) : afterNewline? t = none := by
  unfold afterNewline?
  split
  · exact absurd rfl (h '\n' rfl).1
  · exact absurd rfl (h '\r' rfl).2
  · rfl

/-- What does not start with a given quote. -/
def Unquoted (quote : Char) (t : Text) : Prop := ∀ c ∈ t.head?, c ≠ quote

/-! ### Step by step -/

section Steps

variable {found rest rest' : Text} {c : Char}

theorem readBasic_quote (found rest : Text) :
    readBasic found ('"' :: rest) = some (found.reverse, rest) := by
  rw [readBasic]

theorem readBasic_escape (h : readEscape rest = some (c, rest')) :
    readBasic found ('\\' :: rest) = readBasic (c :: found) rest' := by
  rw [readBasic]
  split <;> simp_all

theorem readBasic_plain (hquote : c ≠ '"') (hslash : c ≠ '\\') (hplain : isPlain c = true) :
    readBasic found (c :: rest) = readBasic (c :: found) rest := by
  rw [readBasic, if_pos hplain]
  · exact hquote
  · exact hslash

theorem readLiteral_plain (hquote : c ≠ '\'') (hplain : isPlain c = true) :
    readLiteral found (c :: rest) = readLiteral (c :: found) rest := by
  rw [readLiteral, if_pos hplain]
  exact hquote

variable {quote : Char} {escapes : Bool}

theorem readLines_escape (hquote : quote ≠ '\\') (hline : afterEscapedNewline? rest = none)
    (h : readEscape rest = some (c, rest')) :
    readLines quote true found ('\\' :: rest) = readLines quote true (c :: found) rest' := by
  rw [readLines, if_neg hquote.symm, if_pos (by simp)]
  split
  · simp_all
  · split <;> simp_all

theorem readLines_newline (hquote : quote ≠ '\n') (found rest : Text) :
    readLines quote escapes found ('\n' :: rest) =
      readLines quote escapes ('\n' :: found) rest := by
  rw [readLines, if_neg hquote.symm, if_neg (by simp)]
  split <;> simp_all [afterNewline?]

theorem readLines_plain (hquote : c ≠ quote) (hslash : c = '\\' → escapes = false)
    (hplain : isPlain c = true) :
    readLines quote escapes found (c :: rest) = readLines quote escapes (c :: found) rest := by
  have hline := (startsInLine_of_isPlain hplain rest).afterNewline?_eq
  rw [readLines, if_neg hquote, if_neg (by simpa using hslash)]
  split
  · simp_all
  · rw [if_pos hplain]

/-! ### Runs of quotes -/

theorem takeWhile_replicate_append (quote : Char) (n : Nat) (h : Unquoted quote rest) :
    (List.replicate n quote ++ rest).takeWhile (· = quote) = List.replicate n quote := by
  rw [List.takeWhile_append_of_pos (by simp +contextual [List.mem_replicate])]
  cases rest with
  | nil => simp
  | cons c rest => simp [show c ≠ quote from h c rfl]

/-- Three quotes end the string.  Up to two more in front of them belong to the text. -/
theorem readLines_close (escapes : Bool) {n : Nat} (hn : n ≤ 2) (h : Unquoted quote rest)
    (found : Text) :
    readLines quote escapes found (List.replicate n quote ++ [quote, quote, quote] ++ rest) =
      some ((List.replicate n quote ++ found).reverse, rest) := by
  have hrun : List.replicate n quote ++ [quote, quote, quote] ++ rest =
      quote :: (List.replicate (n + 2) quote ++ rest) := by
    rw [show [quote, quote, quote] = List.replicate 3 quote from rfl,
      List.replicate_append_replicate, List.replicate_succ, List.cons_append]
  have htake : (quote :: (List.replicate (n + 2) quote ++ rest)).takeWhile (· = quote) =
      List.replicate (n + 3) quote := by
    rw [← List.cons_append, ← List.replicate_succ, takeWhile_replicate_append quote _ h]
  have hmin : min (n + 3) 5 = n + 3 := by omega
  rw [hrun, readLines, if_pos rfl, htake, List.length_replicate]
  simp only [hmin, Nat.le_add_left, if_true, Nat.add_sub_cancel]
  rw [← List.cons_append, ← List.replicate_succ, List.drop_left' (List.length_replicate)]

/-- One or two quotes in a row stand for themselves. -/
theorem readLines_quote {t : Text} (h : ((quote :: t).takeWhile (· = quote)).length ≤ 2)
    (found : Text) :
    readLines quote escapes found (quote :: t) = readLines quote escapes (quote :: found) t := by
  rw [readLines, if_pos rfl]
  simp only
  rw [if_neg (by omega)]

/-- A quote in a body `w` that reads as `t`.  If only quotes follow, the closing ones end the string
with them; else the run in which the quote stands ends before the closing ones. -/
theorem readLines_quote_body {t w : Text}
    (hrun : ((quote :: w).takeWhile (· = quote)).length ≤ 2) (hrest : Unquoted quote rest)
    (hall : (∀ c ∈ w, c = quote) → w = t)
    (hread : ∀ found, readLines quote escapes found (w ++ [quote, quote, quote] ++ rest) =
      some (found.reverse ++ t, rest)) (found : Text) :
    readLines quote escapes found (quote :: w ++ [quote, quote, quote] ++ rest) =
      some (found.reverse ++ quote :: t, rest) := by
  by_cases hw : ∀ c ∈ w, c = quote
  · -- The reader sees one run, so its own quotes are counted with those that close it.
    obtain ⟨n, rfl⟩ : ∃ n, w = List.replicate n quote := ⟨_, List.eq_replicate_of_mem hw⟩
    rw [← List.replicate_succ] at hrun ⊢
    have hn : n + 1 ≤ 2 := by simpa [List.takeWhile_replicate] using hrun
    rw [readLines_close escapes hn hrest, ← hall hw]
    simp only [List.reverse_append, List.reverse_replicate]
    rw [List.replicate_succ]
  · have hends : ¬(w.takeWhile (· = quote)).length = w.length := by
      intro hlength
      have heq := (List.takeWhile_sublist _).eq_of_length hlength
      exact hw fun c hc => by simpa using List.takeWhile_eq_self_iff.1 heq c hc
    rw [List.append_assoc, List.cons_append, readLines_quote, ← List.append_assoc, hread]
    · simp
    · rwa [List.takeWhile_cons_of_pos (by simp), List.takeWhile_append, if_neg hends,
        ← List.takeWhile_cons_of_pos (by simp)]

end Steps

/-! ### Between double quotes -/

/-- The digits of a control character. -/
theorem read?_upperDigit : ∀ n < 0x80,
    Hex.read? ['0', '0', upperDigit (n / 16), upperDigit (n % 16)] = some n := by
  decide

/-- A character as it is written between double quotes: as itself or, for an end of line in a string
of several lines, or by an escape. -/
inductive Spells (lines : Bool) (c : Char) : Text → Prop where
  | plain (hquote : c ≠ '"') (hslash : c ≠ '\\') (hplain : isPlain c = true) : Spells lines c [c]
  | newline (hlines : lines = true) (hc : c = '\n') : Spells lines c ['\n']
  | escape {e : Char} {code : Text} (he : isPlain e = true ∧ isBlank e = false)
    (hread : ∀ rest, readEscape (e :: code ++ rest) = some (c, rest)) :
    Spells lines c ('\\' :: e :: code)

theorem Spells.ofSimple {e c : Char} (h : escape? e = some c) (lines : Bool) :
    Spells lines c ['\\', e] := by
  refine .escape ?_ fun rest => ?_
  · unfold escape? at h
    split at h <;> cases h <;> decide
  · have hu : e ≠ 'u' := by
      rintro rfl
      cases h
    have hU : e ≠ 'U' := by
      rintro rfl
      cases h
    simp [readEscape, hu, hU, h]

theorem spells_quote (lines : Bool) : Spells lines '"' ['\\', '"'] := .ofSimple rfl lines

/-- A character is written in one of these ways. -/
theorem spells_writeChar (lines : Bool) {c : Char} (hquote : c ≠ '"') :
    Spells lines c (writeChar lines c) := by
  unfold writeChar
  split_ifs with hb ht hn hlines hf hr hslash hcode
  · exact .ofSimple (by rw [hb]; rfl) lines
  · exact .ofSimple (by rw [ht]; rfl) lines
  · exact .newline hlines hn
  · exact .ofSimple (by rw [hn]; rfl) lines
  · exact .ofSimple (by rw [hf]; rfl) lines
  · exact .ofSimple (by rw [hr]; rfl) lines
  · exact .ofSimple (by rw [hslash]; rfl) lines
  · refine .escape (by decide) fun rest => ?_
    have hcode : c.toNat ≤ 0x1F ∨ c.toNat = 0x7F := by simpa using hcode
    have hvalid : c.toNat.isValidChar := c.valid
    have hread := read?_upperDigit c.toNat (by omega)
    have hcode? : ofCode? ['0', '0', upperDigit (c.toNat / 16), upperDigit (c.toNat % 16)] =
        some c := by
      rw [ofCode?, hread]
      exact (dif_pos hvalid).trans rfl
    simp [readEscape, hcode?]
  · have hcode : ¬(c.toNat ≤ 0x1F ∨ c.toNat = 0x7F) := by simpa using hcode
    exact .plain hquote hslash (isPlain_iff.2 (.inr (by omega)))

section Body

variable {c : Char} {w : Text}

theorem Spells.readBasic (h : Spells false c w) (found rest : Text) :
    readBasic found (w ++ rest) = Quoted.readBasic (c :: found) rest := by
  cases h with
  | plain hquote hslash hplain => exact readBasic_plain hquote hslash hplain
  | newline hlines => cases hlines
  | escape he hread => exact readBasic_escape (hread rest)

theorem Spells.readLines {lines : Bool} (h : Spells lines c w) (found rest : Text) :
    readLines '"' true found (w ++ rest) = Quoted.readLines '"' true (c :: found) rest := by
  cases h with
  | plain hquote hslash hplain =>
    exact readLines_plain hquote (fun hc => absurd hc hslash) hplain
  | newline hlines hc =>
    subst hc
    exact readLines_newline (by decide) found rest
  | @escape e code he hread =>
    have hline : afterEscapedNewline? (e :: (code ++ rest)) = none := by
      rw [afterEscapedNewline?, List.dropWhile_cons_of_neg (by simp [he.2]),
        (startsInLine_of_isPlain he.1 _).afterNewline?_eq, Option.map_none]
    exact readLines_escape (by decide) hline (hread rest)

/-- A character as it is written does not start with a quote. -/
theorem Spells.exists_cons {lines : Bool} (h : Spells lines c w) :
    ∃ d rest, w = d :: rest ∧ d ≠ '"' := by
  cases h with
  | plain hquote => exact ⟨_, _, rfl, hquote⟩
  | newline => exact ⟨_, _, rfl, by decide⟩
  | escape => exact ⟨_, _, rfl, by decide⟩

end Body

/-- A text is read back from between double quotes. -/
theorem readBasic_writeBody (run : Nat) (t found rest : Text) :
    readBasic found (writeBody false run t ++ '"' :: rest) = some (found.reverse ++ t, rest) := by
  induction t generalizing found run with
  | nil => simp [readBasic_quote]
  | cons c t ih =>
    have hcons : writeBody false run (c :: t) =
        (if c = '"' then ['\\', '"'] else writeChar false c) ++ writeBody false 0 t := by
      rw [writeBody_cons]
      split <;> rfl
    have hspells : Spells false c (if c = '"' then ['\\', '"'] else writeChar false c) := by
      split
      · rename_i hc
        exact hc ▸ spells_quote false
      · exact spells_writeChar false ‹_›
    rw [hcons, List.append_assoc, hspells.readBasic, ih]
    simp

/-- In a string of several lines no more than two quotes in a row stand for themselves. -/
theorem length_takeWhile_writeBody {run : Nat} (hrun : run ≤ 2) (t : Text) :
    run + ((writeBody true run t).takeWhile (· = '"')).length ≤ 2 := by
  induction t generalizing run with
  | nil => simpa using hrun
  | cons c t ih =>
    rw [writeBody_cons]
    split_ifs with hc hlt
    · have hlt : run < 2 := by simpa using hlt
      have hnext : run + 1 ≤ 2 := hlt
      have := ih hnext
      rw [List.takeWhile_cons_of_pos (by simp), List.length_cons]
      omega
    · simpa using hrun
    · obtain ⟨d, rest, hchar, hd⟩ := (spells_writeChar true hc).exists_cons
      simpa [hchar, hd] using hrun

/-- Where only quotes are written, they are the text. -/
theorem writeBody_eq_self {run : Nat} {t : Text} (h : ∀ c ∈ writeBody true run t, c = '"') :
    writeBody true run t = t := by
  induction t generalizing run with
  | nil => rfl
  | cons c t ih =>
    rw [writeBody_cons] at h ⊢
    split_ifs at h ⊢ with hc hlt
    · rw [ih fun d hd => h d (by simp [hd]), hc]
    · exact absurd (h '\\' (by simp)) (by decide)
    · obtain ⟨d, rest, hchar, hd⟩ := (spells_writeChar true hc).exists_cons
      exact absurd (h d (by simp [hchar])) hd

/-- A text is read back from the lines between tripled double quotes. -/
theorem readLines_writeBody {run : Nat} (hrun : run ≤ 2) (t found : Text) {rest : Text}
    (hrest : Unquoted '"' rest) :
    readLines '"' true found (writeBody true run t ++ ['"', '"', '"'] ++ rest) =
      some (found.reverse ++ t, rest) := by
  induction t generalizing found run with
  | nil => simpa using readLines_close true (Nat.zero_le 2) hrest found
  | cons c t ih =>
    have hspelled {w : Text} (hw : Spells true c w) :
        readLines '"' true found (w ++ writeBody true 0 t ++ ['"', '"', '"'] ++ rest) =
          some (found.reverse ++ c :: t, rest) := by
      rw [List.append_assoc, List.append_assoc, hw.readLines, ← List.append_assoc,
        ih (Nat.zero_le 2)]
      simp
    rw [writeBody_cons]
    split_ifs with hc hlt
    · -- A quote that stands for itself: how it is read depends on what comes after it.
      have hlt : run < 2 := by simpa using hlt
      have hquotes := length_takeWhile_writeBody (Nat.succ_le_of_lt hlt) t
      rw [hc]
      refine readLines_quote_body ?_ hrest writeBody_eq_self (fun found => ih hlt found) found
      rw [List.takeWhile_cons_of_pos (by simp), List.length_cons]
      omega
    · subst hc
      exact hspelled (spells_quote true)
    · exact hspelled (spells_writeChar true hc)

/-! ### Between single quotes -/

/-- A text without quotes and codes is read back from between single quotes. -/
theorem readLiteral_append {t : Text} (ht : ∀ c ∈ t, c ≠ '\'' ∧ isPlain c = true)
    (found rest : Text) :
    readLiteral found (t ++ '\'' :: rest) = some (found.reverse ++ t, rest) := by
  induction t generalizing found with
  | nil => simp [readLiteral]
  | cons c t ih =>
    obtain ⟨hquote, hplain⟩ := ht c (by simp)
    rw [List.cons_append, readLiteral_plain hquote hplain, ih fun d hd => ht d (by simp [hd])]
    simp

/-! ### The longest run -/

section Runs

variable (q : Char)

theorem le_longestRunAfter (run best : Nat) (t : Text) : best ≤ longestRunAfter q run best t := by
  induction t generalizing run best with
  | nil => exact Nat.le_max_right run best
  | cons c t ih =>
    rw [longestRunAfter]
    split
    · exact ih _ _
    · exact (Nat.le_max_right run best).trans (ih _ _)

theorem add_le_longestRunAfter (run best : Nat) (t : Text) :
    run + (t.takeWhile (· = q)).length ≤ longestRunAfter q run best t := by
  induction t generalizing run best with
  | nil => exact Nat.le_max_left run best
  | cons c t ih =>
    rw [longestRunAfter]
    split
    · rename_i hc
      have := ih (run + 1) best
      rw [List.takeWhile_cons_of_pos (by simpa using hc), List.length_cons]
      omega
    · rename_i hc
      rw [List.takeWhile_cons_of_neg (by simpa using hc)]
      exact (Nat.le_max_left run best).trans (le_longestRunAfter q _ _ t)

theorem longestRunAfter_mono {run run' best best' : Nat} (hrun : run ≤ run') (hbest : best ≤ best')
    (t : Text) : longestRunAfter q run best t ≤ longestRunAfter q run' best' t := by
  induction t generalizing run run' best best' with
  | nil =>
    rw [longestRunAfter, longestRunAfter]
    omega
  | cons c t ih =>
    rw [longestRunAfter, longestRunAfter]
    split
    · exact ih (Nat.succ_le_succ hrun) hbest
    · exact ih (Nat.le_refl 0) (by omega)

theorem length_takeWhile_le_longestRun (t : Text) :
    (t.takeWhile (· = q)).length ≤ longestRun q t := by
  have h := add_le_longestRunAfter q 0 0 t
  rwa [Nat.zero_add] at h

theorem longestRun_le_cons (c : Char) (t : Text) : longestRun q t ≤ longestRun q (c :: t) := by
  unfold longestRun
  rw [longestRunAfter]
  split <;> exact longestRunAfter_mono q (Nat.zero_le _) (Nat.zero_le _) t

theorem not_mem_of_longestRun {q : Char} {t : Text} (h : longestRun q t = 0) : q ∉ t := by
  induction t with
  | nil => simp
  | cons c t ih =>
    have hhead := length_takeWhile_le_longestRun q (c :: t)
    have htail := longestRun_le_cons q c t
    have hc : c ≠ q := by
      rintro rfl
      simp [h] at hhead
    simpa [hc.symm] using ih (by omega)

end Runs

/-- A text with few quotes in a row is read back from the lines between tripled single quotes. -/
theorem readLines_literal {t : Text} (ht : ∀ c ∈ t, needsCode c = false)
    (hruns : longestRun '\'' t ≤ 2) (found : Text) {rest : Text} (hrest : Unquoted '\'' rest) :
    readLines '\'' false found (t ++ ['\'', '\'', '\''] ++ rest) =
      some (found.reverse ++ t, rest) := by
  induction t generalizing found with
  | nil => simpa using readLines_close false (Nat.zero_le 2) hrest found
  | cons c t ih =>
    have hread := ih (fun d hd => ht d (by simp [hd])) ((longestRun_le_cons _ c t).trans hruns)
    by_cases hc : c = '\''
    · subst hc
      have hrun := (length_takeWhile_le_longestRun '\'' ('\'' :: t)).trans hruns
      exact readLines_quote_body hrun hrest (fun _ => rfl) hread found
    · have hskip : readLines '\'' false found (c :: (t ++ ['\'', '\'', '\''] ++ rest)) =
          readLines '\'' false (c :: found) (t ++ ['\'', '\'', '\''] ++ rest) := by
        rcases needsCode_eq_false_iff.1 (ht c (by simp)) with hplain | rfl
        · exact readLines_plain hc (fun _ => rfl) hplain
        · exact readLines_newline (by decide) found _
      rw [List.cons_append, List.cons_append, hskip, hread]
      simp

/-! ### The form of a text -/

/-- Texts that a form can hold.  Between double quotes everything can stand, with escapes. -/
def Form.Suits (t : Text) : Form → Prop
  | basic | basicLines => True
  | literal => ∀ c ∈ t, c ≠ '\'' ∧ isPlain c = true
  | literalLines => (∀ c ∈ t, needsCode c = false) ∧ longestRun '\'' t ≤ 2

/-- The form that is chosen for a text can hold it. -/
theorem suits_choose (t : Text) : (choose t).Suits t := by
  have hcodes (h : t.any needsCode = false) : ∀ c ∈ t, needsCode c = false := by simpa using h
  unfold choose
  dsimp only
  split_ifs with hbasic hliteral hbasicLines hliteralLines
  · trivial
  · simp only [Bool.and_eq_true, Bool.not_eq_true', decide_eq_true_eq] at hliteral
    obtain ⟨⟨hcode, hquotes⟩, hlines⟩ := hliteral
    intro c hc
    refine ⟨?_, ?_⟩
    · rintro rfl
      exact not_mem_of_longestRun hquotes hc
    · refine (needsCode_eq_false_iff.1 (hcodes hcode c hc)).resolve_right ?_
      rintro rfl
      simp [hc] at hlines
  · trivial
  · simp only [Bool.and_eq_true, Bool.not_eq_true', decide_eq_true_eq] at hliteralLines
    exact ⟨hcodes hliteralLines.1, hliteralLines.2⟩
  · trivial
  · trivial

/-! ### Whole strings -/

theorem read_basic {t : Text} (h : ∀ rest, t ≠ '"' :: '"' :: rest) :
    read ('"' :: t) = readBasic [] t := by
  unfold read
  split <;> simp_all

theorem read_literal {t : Text} (h : ∀ rest, t ≠ '\'' :: '\'' :: rest) :
    read ('\'' :: t) = readLiteral [] t := by
  unfold read
  split <;> simp_all

/-- The lines of a string start behind its opening quotes and the end of line there. -/
theorem readMultiline_opening {t u : Text} (h : '\n' ∉ t → StartsInLine u) (quote : Char)
    (escapes : Bool) :
    readMultiline quote escapes ((if t.contains '\n' then ['\n'] else []) ++ u) =
      readLines quote escapes [] u := by
  unfold readMultiline
  split_ifs with hline
  · rfl
  · have hline : '\n' ∉ t := by simpa using hline
    rw [List.nil_append, (h hline).afterNewline?_eq, Option.getD_none]

theorem startsInLine_writeBody {t : Text} (ht : '\n' ∉ t) (rest : Text) :
    StartsInLine (writeBody true 0 t ++ ['"', '"', '"'] ++ rest) := by
  cases t with
  | nil => exact .cons (by decide) (by decide) _
  | cons c t =>
    rw [writeBody_cons]
    split_ifs with hc hlt
    · exact .cons (by decide) (by decide) _
    · exact .cons (by decide) (by decide) _
    · generalize hw : writeChar true c = w
      cases hw ▸ spells_writeChar true hc with
      | plain _ _ hplain => exact startsInLine_of_isPlain hplain _
      | newline _ hline => simp [hline] at ht
      | escape => exact .cons (by decide) (by decide) _

theorem startsInLine_literal {t : Text} (hcodes : ∀ c ∈ t, needsCode c = false) (ht : '\n' ∉ t)
    (rest : Text) : StartsInLine (t ++ ['\'', '\'', '\''] ++ rest) := by
  cases t with
  | nil => exact .cons (by decide) (by decide) _
  | cons c t =>
    have hc : c ≠ '\n' := by
      rintro rfl
      simp at ht
    exact startsInLine_of_isPlain
      ((needsCode_eq_false_iff.1 (hcodes c (by simp))).resolve_right hc) _

/-- A text is read back from a form that can hold it. -/
theorem read_writeAs {form : Form} {t rest : Text} (h : form.Suits t) (hdouble : Unquoted '"' rest)
    (hsingle : Unquoted '\'' rest) : read (writeAs form t ++ rest) = some (t, rest) := by
  cases form with
  | basic =>
    have hstart (more : Text) : writeBody false 0 t ++ '"' :: rest ≠ '"' :: '"' :: more := by
      intro heq
      cases t with
      | nil =>
        rw [writeBody_nil, List.nil_append, List.cons.injEq] at heq
        exact hdouble '"' (by simp [heq.2]) rfl
      | cons c t =>
        rw [writeBody_cons] at heq
        split_ifs at heq with hc hlt
        · simp at hlt
        · simp at heq
        · obtain ⟨d, w, hchar, hd⟩ := (spells_writeChar false hc).exists_cons
          simp [hchar, hd] at heq
    have hread := readBasic_writeBody 0 t [] rest
    simpa [writeAs, read_basic hstart] using hread
  | literal =>
    have hstart (more : Text) : t ++ '\'' :: rest ≠ '\'' :: '\'' :: more := by
      intro heq
      cases t with
      | nil =>
        rw [List.nil_append, List.cons.injEq] at heq
        exact hsingle '\'' (by simp [heq.2]) rfl
      | cons c t => exact (h c (by simp)).1 (List.cons.inj heq).1
    have hread := readLiteral_append h [] rest
    simpa [writeAs, read_literal hstart] using hread
  | basicLines =>
    have hread := readLines_writeBody (Nat.zero_le 2) t [] hdouble
    have hstart :=
      readMultiline_opening (t := t) (fun ht => startsInLine_writeBody ht rest) '"' true
    rw [hread] at hstart
    simpa [writeAs, opening, read] using hstart
  | literalLines =>
    have hread := readLines_literal h.1 h.2 [] hsingle
    have hstart :=
      readMultiline_opening (t := t) (fun ht => startsInLine_literal h.1 ht rest) '\'' false
    rw [hread] at hstart
    simpa [writeAs, opening, read] using hstart

/-- A written text is read back, up to its closing quotes. -/
theorem read_write (t : Text) {rest : Text} (hdouble : Unquoted '"' rest)
    (hsingle : Unquoted '\'' rest) : read (write t ++ rest) = some (t, rest) :=
  read_writeAs (suits_choose t) hdouble hsingle

end TermSession.Toml.Quoted
