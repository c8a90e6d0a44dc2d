import TermSession.Text.Hex
import TermSession.Toml.Value

/-!
# TOML strings

Strings stand between double quotes, with escapes, or between single quotes, without; either quote
tripled makes a string of several lines.

* `Quoted.readBasic`, `Quoted.readLiteral`, `Quoted.readLines`: reading after the opening quotes;
* `Quoted.Form`, `Quoted.choose`: the form a text is best written in;
* `Quoted.write`: writing.
-/

namespace TermSession.Toml.Quoted

/-! ### Reading -/

/-- Characters that stand for themselves on one line: all but controls, and the tab. -/
def isPlain (c : Char) : Bool := c = '\t' || (0x20 ≤ c.toNat && c.toNat ≠ 0x7F)

/-- Blanks within a line. -/
def isBlank (c : Char) : Bool := c = ' ' || c = '\t'

/-- What follows the end of a line. -/
def afterNewline? : Text → Option Text
  | '\n' :: rest => some rest
  | '\r' :: '\n' :: rest => some rest
  | _ => none

/-- The character with a hexadecimal code. -/
def ofCode? (digits : Text) : Option Char := do
  let n ← Hex.read? digits
  if h : n.isValidChar then some (Char.ofNatAux n h) else none

/-- The character of a simple escape. -/
def escape? (c : Char) : Option Char :=
  match c with
  | 'b' => some '\x08'
  | 't' => some '\t'
  | 'n' => some '\n'
  | 'f' => some '\x0c'
  | 'r' => some '\r'
  | '"' => some '"'
  | '\\' => some '\\'
  | _ => none

/-- Reads an escape after its backslash: a letter, or a code of four or eight digits. -/
def readEscape : Text → Option (Char × Text)
  | 'u' :: a :: b :: c :: d :: rest => (ofCode? [a, b, c, d]).map (·, rest)
  | 'U' :: a :: b :: c :: d :: e :: f :: g :: h :: rest =>
    (ofCode? [a, b, c, d, e, f, g, h]).map (·, rest)
  | c :: rest => (escape? c).map (·, rest)
  | [] => none

/-- What follows an escape is shorter than the text it was read from. -/
theorem length_of_readEscape {t rest : Text} {c : Char} (h : readEscape t = some (c, rest)) :
    rest.length < t.length := by
  unfold readEscape at h
  split at h <;> simp at h <;> obtain ⟨_, _, _, rfl⟩ := h <;> simp <;> omega

/-- Reads on after a double quote, up to the closing one; `found` is newest first. -/
def readBasic (found : Text) : Text → Option (Text × Text)
  | [] => none
  | '"' :: rest => some (found.reverse, rest)
  | '\\' :: rest =>
    match _h : readEscape rest with
    | some (c, rest') => readBasic (c :: found) rest'
    | none => none
  | c :: rest => if isPlain c then readBasic (c :: found) rest else none
termination_by t => t.length
decreasing_by
  · have := length_of_readEscape _h
    simp; omega
  · simp

/-- Reads on after a single quote, up to the closing one. -/
def readLiteral (found : Text) : Text → Option (Text × Text)
  | [] => none
  | '\'' :: rest => some (found.reverse, rest)
  | c :: rest => if isPlain c then readLiteral (c :: found) rest else none

/-- Drops blanks and ends of lines. -/
def dropBlankLines : Text → Text
  | '\n' :: rest => dropBlankLines rest
  | '\r' :: '\n' :: rest => dropBlankLines rest
  | ' ' :: rest => dropBlankLines rest
  | '\t' :: rest => dropBlankLines rest
  | rest => rest

/-- What follows an escaped end of line: blanks, the end, and all blanks and ends after it. -/
def afterEscapedNewline? (t : Text) : Option Text :=
  (afterNewline? (t.dropWhile isBlank)).map dropBlankLines

theorem length_dropBlankLines (t : Text) : (dropBlankLines t).length ≤ t.length := by
  fun_induction dropBlankLines t with
  | case1 rest ih | case2 rest ih | case3 rest ih | case4 rest ih =>
    simp only [List.length_cons]; omega
  | case5 => exact Nat.le_refl _

theorem length_of_afterNewline? {t rest : Text} (h : afterNewline? t = some rest) :
    rest.length < t.length := by
  unfold afterNewline? at h
  split at h <;> simp at h <;> subst h <;> simp only [List.length_cons] <;> omega

theorem length_of_afterEscapedNewline? {t rest : Text} (h : afterEscapedNewline? t = some rest) :
    rest.length < t.length := by
  simp only [afterEscapedNewline?, Option.map_eq_some_iff] at h
  obtain ⟨u, hu, rfl⟩ := h
  have := length_of_afterNewline? hu
  have := (List.dropWhile_sublist isBlank (l := t)).length_le
  have := length_dropBlankLines u
  omega

/-- Reads on after three quotes, up to three closing ones, which one or two more of the text may
precede.  Ends of lines read as line feeds. -/
def readLines (quote : Char) (escapes : Bool) (found : Text) : Text → Option (Text × Text)
  | [] => none
  | c :: rest =>
    if c = quote then
      let n := min ((c :: rest).takeWhile (· = quote)).length 5
      if 3 ≤ n then
        some ((List.replicate (n - 3) quote ++ found).reverse, (c :: rest).drop n)
      else readLines quote escapes (c :: found) rest
    else if c = '\\' && escapes then
      match _h : afterEscapedNewline? rest with
      | some rest' => readLines quote escapes found rest'
      | none =>
        match _h' : readEscape rest with
        | some (c, rest') => readLines quote escapes (c :: found) rest'
        | none => none
    else
      match _h : afterNewline? (c :: rest) with
      | some rest' => readLines quote escapes ('\n' :: found) rest'
      | none => if isPlain c then readLines quote escapes (c :: found) rest else none
termination_by t => t.length
decreasing_by
  · simp
  · have := length_of_afterEscapedNewline? _h
    simp; omega
  · have := length_of_readEscape _h'
    simp; omega
  · exact length_of_afterNewline? _h
  · simp

/-- Reads a string of several lines after its opening quotes; an end of line there is dropped. -/
def readMultiline (quote : Char) (escapes : Bool) (t : Text) : Option (Text × Text) :=
  readLines quote escapes [] ((afterNewline? t).getD t)

/-- Reads a string. -/
def read : Text → Option (Text × Text)
  | '"' :: '"' :: '"' :: rest => readMultiline '"' true rest
  | '\'' :: '\'' :: '\'' :: rest => readMultiline '\'' false rest
  | '"' :: rest => readBasic [] rest
  | '\'' :: rest => readLiteral [] rest
  | _ => none

/-! ### Writing -/

/-- How a string is quoted. -/
inductive Form where
  | basic
  | literal
  | basicLines
  | literalLines
  deriving DecidableEq, Repr, Inhabited

/-- Is this a control character that no line can hold as itself? -/
def needsCode (c : Char) : Bool :=
  (c.toNat ≤ 0x1F && c ≠ '\t' && c ≠ '\n') || c.toNat = 0x7F

/-- The longest run of a character, after `run` of them and a longest run of `best` before. -/
def longestRunAfter (q : Char) (run best : Nat) : Text → Nat
  | [] => max run best
  | c :: rest =>
    if c = q then longestRunAfter q (run + 1) best rest
    else longestRunAfter q 0 (max run best) rest

/-- The longest run of a character. -/
def longestRun (q : Char) (t : Text) : Nat := longestRunAfter q 0 0 t

/-- The form in which a text looks most like itself: the first of the four that needs no escape,
tabs apart; else double quotes. -/
def choose (t : Text) : Form :=
  let coded := t.any needsCode
  let escape := t.contains '\\'
  let lines := t.contains '\n'
  let singles := longestRun '\'' t
  let doubles := longestRun '"' t
  if !coded && !escape && doubles = 0 && !lines then .basic
  else if !coded && singles = 0 && !lines then .literal
  else if !coded && !escape && doubles ≤ 2 then .basicLines
  else if !coded && singles ≤ 2 then .literalLines
  else if lines then .basicLines
  else .basic

/-- An upper-case hexadecimal digit. -/
def upperDigit (n : Nat) : Char := (Nat.digitChar n).toUpper

/-- How a character other than a double quote is written between double quotes. -/
def writeChar (lines : Bool) (c : Char) : Text :=
  if c = '\x08' then ['\\', 'b']
  else if c = '\t' then ['\\', 't']
  else if c = '\n' then if lines then ['\n'] else ['\\', 'n']
  else if c = '\x0c' then ['\\', 'f']
  else if c = '\r' then ['\\', 'r']
  else if c = '\\' then ['\\', '\\']
  else if c.toNat ≤ 0x1F || c.toNat = 0x7F then
    ['\\', 'u', '0', '0', upperDigit (c.toNat / 16), upperDigit (c.toNat % 16)]
  else [c]

/-- The text between double quotes, after what is already written (newest first).  In a string of
several lines two quotes in a row stand for themselves; `run` counts those just written. -/
def writeBodyAfter (done : Text) (lines : Bool) (run : Nat) : Text → Text
  | [] => done.reverse
  | c :: rest =>
    if c = '"' then
      if lines && run < 2 then writeBodyAfter ('"' :: done) lines (run + 1) rest
      else writeBodyAfter ('"' :: '\\' :: done) lines 0 rest
    else writeBodyAfter ((writeChar lines c).reverse ++ done) lines 0 rest

/-- The text between double quotes. -/
def writeBody (lines : Bool) (run : Nat) (t : Text) : Text := writeBodyAfter [] lines run t

theorem writeBodyAfter_eq (done : Text) (lines : Bool) (run : Nat) (t : Text) :
    writeBodyAfter done lines run t = done.reverse ++ writeBody lines run t := by
  unfold writeBody
  induction t generalizing done run with
  | nil => simp [writeBodyAfter]
  | cons c t ih =>
    simp only [writeBodyAfter]
    split
    · split
      · rw [ih, ih ['"']]; simp
      · rw [ih, ih ['"', '\\']]; simp
    · rw [ih, ih ((writeChar lines c).reverse ++ [])]; simp

@[simp] theorem writeBody_nil (lines : Bool) (run : Nat) : writeBody lines run [] = [] := rfl

theorem writeBody_cons (lines : Bool) (run : Nat) (c : Char) (t : Text) :
    writeBody lines run (c :: t) =
      if c = '"' then
        if lines && run < 2 then '"' :: writeBody lines (run + 1) t
        else '\\' :: '"' :: writeBody lines 0 t
      else writeChar lines c ++ writeBody lines 0 t := by
  rw [writeBody, writeBodyAfter]
  simp only [writeBodyAfter_eq]
  split
  · split <;> simp
  · simp

/-- Three quotes, and an end of line if the text has one. -/
def opening (q : Char) (t : Text) : Text := [q, q, q] ++ if t.contains '\n' then ['\n'] else []

/-- A text in a given form. -/
def writeAs (form : Form) (t : Text) : Text :=
  match form with
  | .basic => ['"'] ++ writeBody false 0 t ++ ['"']
  | .literal => ['\''] ++ t ++ ['\'']
  | .basicLines => opening '"' t ++ writeBody true 0 t ++ ['"', '"', '"']
  | .literalLines => opening '\'' t ++ t ++ ['\'', '\'', '\'']

/-- A text as a string. -/
def write (t : Text) : Text := writeAs (choose t) t

end TermSession.Toml.Quoted
