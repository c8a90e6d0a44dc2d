import TermSession.Json.Number
import TermSession.Text.Hex

/-!
# JSON tokens

* `Json.Token`: brackets, separators, strings and atoms;
* `Json.readString`: the content of a string, with its escapes replaced;
* `Json.tokens?`: the tokens of a text, between blanks.

A string whose escapes spell half of a surrogate pair, and a numeral beyond the floating-point
range, are tokens with no content: they are well formed, and only a reader that wants their content
refuses them.
-/

namespace TermSession.Json

/-- One token. -/
inductive Token where
  | openArr
  | closeArr
  | openObj
  | closeObj
  | comma
  | colon
  | null
  | bool (b : Bool)
  | number (n : Option Number)
  | str (t : Option Text)
  deriving DecidableEq, Repr, Inhabited

/-- The characters between tokens. -/
def isBlank (c : Char) : Bool := c = ' ' || c = '\t' || c = '\n' || c = '\r'

/-- Brackets and separators. -/
def punctuation? (c : Char) : Option Token :=
  match c with
  | '[' => some .openArr
  | ']' => some .closeArr
  | '\x7b' => some .openObj
  | '\x7d' => some .closeObj
  | ',' => some .comma
  | ':' => some .colon
  | _ => none

/-- Characters of a literal name or a numeral. -/
def isWordChar (c : Char) : Bool := !isBlank c && (punctuation? c).isNone && c ≠ '"'

/-- The token of a word. -/
def word? (t : Text) : Option Token :=
  if t = "null".toList then some .null
  else if t = "true".toList then some (.bool true)
  else if t = "false".toList then some (.bool false)
  else (Numeral.read? t).map fun n => .number n.number?

/-- The character of a simple escape. -/
def escape? (c : Char) : Option Char :=
  match c with
  | '"' => some '"'
  | '\\' => some '\\'
  | '/' => some '/'
  | 'b' => some '\x08'
  | 'f' => some '\x0c'
  | 'n' => some '\n'
  | 'r' => some '\r'
  | 't' => some '\t'
  | _ => none

/-- The first half of a surrogate pair. -/
def isHighSurrogate (n : Nat) : Bool := 0xD800 ≤ n && n < 0xDC00

/-- The second half of a surrogate pair. -/
def isLowSurrogate (n : Nat) : Bool := 0xDC00 ≤ n && n < 0xE000

/-- The character of a surrogate pair. -/
def joinSurrogates (high low : Nat) : Char :=
  Char.ofNat (0x10000 + (high - 0xD800) * 1024 + (low - 0xDC00))

/-- Reads an escape after its backslash; half of a surrogate pair is no character. -/
def readEscape : Text → Option (Option Char × Text)
  | 'u' :: a :: b :: c :: d :: rest => do
    let n ← Hex.read? [a, b, c, d]
    if isHighSurrogate n then
      match rest with
      | '\\' :: 'u' :: e :: f :: g :: h :: rest' =>
        match (Hex.read? [e, f, g, h]).filter isLowSurrogate with
        | some low => some (some (joinSurrogates n low), rest')
        | none => some (none, rest)
      | _ => some (none, rest)
    else if isLowSurrogate n then some (none, rest)
    else some (some (Char.ofNat n), rest)
  | c :: rest => (escape? c).map fun c => (some c, rest)
  | [] => none

/-- What follows an escape is shorter than the text it was read from. -/
theorem length_of_readEscape {t rest : Text} {c : Option Char}
    (h : readEscape t = some (c, rest)) : rest.length < t.length := by
  unfold readEscape at h
  split at h
  · simp only [Option.bind_eq_bind, Option.bind_eq_some_iff] at h
    obtain ⟨n, -, h⟩ := h
    repeat' split at h
    all_goals simp_all
    all_goals omega
  · simp only [Option.map_eq_some_iff] at h
    obtain ⟨_, -, h⟩ := h
    simp_all
  · simp at h

/-- Adds a character to the content of a string, unless either is lost. -/
def addChar (content : Option Text) (c : Option Char) : Option Text :=
  content.bind fun t => c.map (· :: t)

/-- Reads on after an opening quote, up to the closing one.  `content` is what was read before,
newest first; it is lost at half of a surrogate pair. -/
def readString (content : Option Text) : Text → Option (Option Text × Text)
  | [] => none
  | '"' :: rest => some (content.map List.reverse, rest)
  | '\\' :: rest =>
    match _h : readEscape rest with
    | some (c, rest') => readString (addChar content c) rest'
    | none => none
  | c :: rest => if c.toNat < 0x20 then none else readString (addChar content (some c)) rest
termination_by t => t.length
decreasing_by
  · have := length_of_readEscape _h
    simp; omega
  · simp

/-- What follows a string is shorter than the text it was read from. -/
theorem length_of_readString {t rest : Text} {content result : Option Text}
    (h : readString content t = some (result, rest)) : rest.length < t.length := by
  fun_induction readString content t with
  | case1 => simp at h
  | case2 => simp_all
  | case3 content tail c rest' he ih =>
    have := length_of_readEscape he
    have := ih h
    simp; omega
  | case4 => simp at h
  | case5 => simp at h
  | case6 content c tail _ _ _ ih =>
    have := ih h
    simp; omega

/-- The tokens of a text, after those already found (newest first). -/
def tokensAfter (found : List Token) : Text → Option (List Token)
  | [] => some found.reverse
  | c :: rest =>
    if isBlank c then tokensAfter found rest
    else if c = '"' then
      match _h : readString (some []) rest with
      | some (content, rest') => tokensAfter (.str content :: found) rest'
      | none => none
    else
      match punctuation? c with
      | some token => tokensAfter (token :: found) rest
      | none =>
        match word? (c :: rest.takeWhile isWordChar) with
        | some token => tokensAfter (token :: found) (rest.dropWhile isWordChar)
        | none => none
termination_by t => t.length
decreasing_by
  · simp
  · have := length_of_readString _h
    simp; omega
  · simp
  · have := (List.dropWhile_sublist isWordChar (l := rest)).length_le
    simp; omega

/-- The tokens of a text. -/
def tokens? (t : Text) : Option (List Token) := tokensAfter [] t

end TermSession.Json
