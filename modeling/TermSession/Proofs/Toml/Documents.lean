import Mathlib.Data.List.Nodup
import TermSession.Config.File
import TermSession.Proofs.Text.Decimal
import TermSession.Proofs.Toml.Strings

/-!
# TOML documents come back

A document of sections gives keys their values: first some without a header, then those of each
section under its header.  What is written for it is read line by line, and each line does to the
draft what it says, whatever stands behind it.

* `Scalar`, `Assignment`, `Document`: what is written, and `Document.WellFormed`;
* `readValue_write`: a written value is read back;
* `Draft.Reads`: what lines do to a draft; `reads_writeLine`, `reads_writeHeader`;
* `readDocument_write`: a document is read back;
* `Document.fields?_values`, `Document.find?_top`, `Document.find?_section`: its values are found.
-/

namespace TermSession.Toml

open Quoted (StartsInLine Unquoted isBlank isPlain afterNewline?)

/-! ### Documents -/

/-- A value that stands on one line. -/
inductive Scalar where
  | text (t : Text)
  | truth (b : Bool)
  | number (n : Nat)
  deriving DecidableEq, Repr, Inhabited

namespace Scalar

/-- A value as it is written. -/
def write : Scalar → Text
  | text t => Quoted.write t
  | truth b => Config.writeBool b
  | number n => Decimal.render n

/-- What a value is read as. -/
def value : Scalar → Value
  | text t => .str t
  | truth b => .bool b
  | number n => .int n

/-- Numbers are in the range of integers. -/
def Fits : Scalar → Prop
  | number n => n ≤ maxInt
  | _ => True

end Scalar

/-- A key with its value. -/
abbrev Assignment := String × Scalar

/-- A key that needs no quotes. -/
def IsBare (key : String) : Prop := key.toList ≠ [] ∧ key.toList.all isBareChar = true

instance : DecidablePred IsBare := fun _ => inferInstanceAs (Decidable (_ ∧ _))

/-- Keys that need no quotes and differ from each other. -/
def AreKeys (keys : List String) : Prop := (∀ k ∈ keys, IsBare k) ∧ keys.Nodup

instance : DecidablePred AreKeys := fun _ => inferInstanceAs (Decidable (_ ∧ _))

/-- Each key has one value, and that can be written. -/
structure WellKeyed (assignments : List Assignment) : Prop where
  areKeys : AreKeys (assignments.map Prod.fst)
  fits : ∀ a ∈ assignments, a.2.Fits

/-- Keys without header, and sections by their headers. -/
structure Document where
  top : List Assignment
  sections : List (String × List Assignment)

namespace Document

/-- The lines of keys with their values. -/
def writeLines (assignments : List Assignment) : Text :=
  assignments.flatMap fun a => Config.writeLine a.1 a.2.write

/-- The lines of sections. -/
def writeSections (sections : List (String × List Assignment)) : Text :=
  sections.flatMap fun s => Config.writeHeader s.1 ++ writeLines s.2

/-- The text of a document. -/
def write (d : Document) : Text := writeLines d.top ++ writeSections d.sections

/-- What keys are read as. -/
def values (assignments : List Assignment) : List (Text × Value) :=
  assignments.map fun a => (a.1.toList, a.2.value)

/-- What a document is read as. -/
def entries (d : Document) : List (Text × Value) :=
  values d.top ++ d.sections.map fun s => (s.1.toList, .table (values s.2))

/-- A document in which each key and header stands once. -/
structure WellFormed (d : Document) : Prop where
  areKeys : AreKeys (d.top.map Prod.fst ++ d.sections.map Prod.fst)
  fits : ∀ a ∈ d.top, a.2.Fits
  sections : ∀ s ∈ d.sections, WellKeyed s.2

end Document

/-! ### Values -/

theorem ne_of_isBareChar {c d : Char} (hc : isBareChar c = true) (hd : isBareChar d = false) :
    c ≠ d := by
  rintro rfl
  rw [hc] at hd
  cases hd

theorem isBareChar_of_isDigit {c : Char} (h : c.isDigit = true) : isBareChar c = true := by
  simp [isBareChar, Char.isAlphanum, h]

theorem isWordChar_of_isBareChar {c : Char} (h : isBareChar c = true) : isWordChar c = true := by
  have hne {d : Char} (hd : isBareChar d = false) : decide (c = d) = false :=
    decide_eq_false (ne_of_isBareChar h hd)
  simp only [isWordChar, hne (d := ' ') rfl, hne (d := '\t') rfl, hne (d := '\n') rfl,
    hne (d := '\r') rfl, hne (d := '#') rfl, hne (d := ',') rfl, hne (d := ']') rfl,
    hne (d := '\x7d') rfl, Bool.or_false, Bool.not_false]

theorem areGrouped_of_isDigit {t : Text} (hne : t ≠ []) (ht : ∀ c ∈ t, c.isDigit = true) :
    areGrouped Char.isDigit t = true := by
  fun_induction areGrouped Char.isDigit t with
  | case1 => exact absurd rfl hne
  | case2 c => exact ht c (by simp)
  | case3 c rest => exact absurd (ht '_' (by simp)) (by decide)
  | case4 c rest hrest _ ih =>
    rw [ht c (by simp), ih hrest fun d hd => ht d (by simp [hd])]
    rfl

theorem whole?_render (n : Nat) : whole? (Decimal.render n) = some (Decimal.render n) := by
  have hdigits := Decimal.isDigit_of_mem_render (n := n)
  unfold whole?
  split
  · simp_all
  · rename_i rest hzero hrest
    have hn := Decimal.eq_zero_of_render hrest
    subst hn
    obtain ⟨-, rfl⟩ := List.cons.inj hrest
    exact (hzero rfl).elim
  · have hfilter : (Decimal.render n).filter (· ≠ '_') = Decimal.render n := by
      refine List.filter_eq_self.2 fun c hc => ?_
      rw [decide_eq_true_eq]
      rintro rfl
      exact absurd (hdigits _ hc) (by decide)
    rw [ungroup?, if_pos (areGrouped_of_isDigit (Decimal.render_ne_nil n) hdigits), hfilter]

/-- The numeral of a number in range is an integer. -/
theorem int?_render {n : Nat} (h : n ≤ maxInt) : int? (Decimal.render n) = some (n : Int) := by
  have hsign : sign (Decimal.render n) = (false, Decimal.render n) := by
    unfold sign
    split
    · exact absurd ‹_› (Decimal.render_ne_cons (by decide) n _)
    · exact absurd ‹_› (Decimal.render_ne_cons (by decide) n _)
    · rfl
  -- A second character would make a leading zero the start of `0x`, `0o` or `0b`.
  have hbase {c : Char} {rest : Text} : Decimal.render n ≠ '0' :: c :: rest := by
    intro hrest
    have hn := Decimal.eq_zero_of_render hrest
    subst hn
    cases hrest
  have hvalue : Decimal.valueUpTo (maxInt + 2) (Decimal.render n) = n := by
    rw [Decimal.valueUpTo_eq, Decimal.value_render, Nat.min_eq_left (by omega)]
  unfold int?
  split
  · exact absurd ‹_› hbase
  · exact absurd ‹_› hbase
  · exact absurd ‹_› hbase
  · simp [hsign, whole?_render, hvalue, h]

theorem ofWord?_render {n : Nat} (h : n ≤ maxInt) :
    Value.ofWord? (Decimal.render n) = some (.int n) := by
  have htrue : Decimal.render n ≠ "true".toList := Decimal.render_ne_cons (by decide) n _
  have hfalse : Decimal.render n ≠ "false".toList := Decimal.render_ne_cons (by decide) n _
  rw [Value.ofWord?, if_neg htrue, if_neg hfalse, int?_render h]

/-- A word is read as its value, up to the end of its line. -/
theorem readValue_word {word : Text} {v : Value} (h : Value.ofWord? word = some v)
    (hne : word ≠ []) (hword : word.all isBareChar = true) (steps depth : Nat) (rest : Text) :
    readValue steps depth (word ++ '\n' :: rest) = some (v, '\n' :: rest) := by
  rw [List.all_eq_true] at hword
  have hchars : ∀ c ∈ word, isWordChar c = true := fun c hc => isWordChar_of_isBareChar (hword c hc)
  have htake : (word ++ '\n' :: rest).takeWhile isWordChar = word := by
    rw [List.takeWhile_append_of_pos hchars]
    simp [isWordChar]
  have hdrop : (word ++ '\n' :: rest).dropWhile isWordChar = '\n' :: rest := by
    rw [List.dropWhile_append_of_pos hchars]
    simp [isWordChar]
  have hread : readWord (word ++ '\n' :: rest) = some (v, '\n' :: rest) := by
    simp [readWord, htake, hdrop, h]
  obtain ⟨c, word, rfl⟩ := List.exists_cons_of_ne_nil hne
  have hhead {d : Char} {u : Text} (hd : isBareChar d = false) :
      c :: word ++ '\n' :: rest ≠ d :: u := by
    intro heq
    exact ne_of_isBareChar (hword c (by simp)) hd (List.cons.inj heq).1
  unfold readValue
  split
  · exact absurd ‹_› (hhead rfl)
  · exact absurd ‹_› (hhead rfl)
  · exact absurd ‹_› (hhead rfl)
  · exact absurd ‹_› (hhead rfl)
  · exact hread

theorem readValue_of_read {t rest : Text} {s : Text} (h : Quoted.read t = some (s, rest))
    (steps depth : Nat) : readValue steps depth t = some (.str s, rest) := by
  have hread : (Quoted.read t).map (fun r => (Value.str r.1, r.2)) = some (.str s, rest) := by
    rw [h, Option.map_some]
  unfold Quoted.read at h
  unfold readValue
  split at h
  · exact hread
  · exact hread
  · exact hread
  · exact hread
  · cases h

/-- A written value is read back, up to the end of its line. -/
theorem readValue_write {s : Scalar} (h : s.Fits) (steps depth : Nat) (rest : Text) :
    readValue steps depth (s.write ++ '\n' :: rest) = some (s.value, '\n' :: rest) := by
  cases s with
  | text t =>
    have hquote {q : Char} (hq : q ≠ '\n') : Unquoted q ('\n' :: rest) := by
      simpa [Unquoted] using hq.symm
    exact readValue_of_read (Quoted.read_write t (hquote (by decide)) (hquote (by decide))) _ _
  | truth b =>
    cases b
    · exact readValue_word rfl (by decide) (by decide) steps depth rest
    · exact readValue_word rfl (by decide) (by decide) steps depth rest
  | number n =>
    have hdigits : (Decimal.render n).all isBareChar = true :=
      List.all_eq_true.2 fun c hc => isBareChar_of_isDigit (Decimal.isDigit_of_mem_render c hc)
    exact readValue_word (ofWord?_render h) (Decimal.render_ne_nil n) hdigits steps depth rest

/-! ### Keys and lines -/

/-- A character with which an entry can start: no blank, comment or end of a line. -/
def StartsEntry (c : Char) : Prop := isBlank c = false ∧ c ≠ '#' ∧ c ≠ '\n' ∧ c ≠ '\r'

theorem startsEntry_of_isBareChar {c : Char} (h : isBareChar c = true) : StartsEntry c := by
  have hblank : isBlank c = false := by
    simp [isBlank, ne_of_isBareChar h (d := ' ') rfl, ne_of_isBareChar h (d := '\t') rfl]
  exact ⟨hblank, ne_of_isBareChar h rfl, ne_of_isBareChar h rfl, ne_of_isBareChar h rfl⟩

theorem Quoted.exists_cons_write (t : Text) :
    ∃ q rest, Quoted.write t = q :: rest ∧ isBlank q = false := by
  unfold Quoted.write Quoted.writeAs Quoted.opening
  split <;> exact ⟨_, _, rfl, by decide⟩

theorem Scalar.exists_cons_write (s : Scalar) :
    ∃ c rest, s.write = c :: rest ∧ isBlank c = false := by
  cases s with
  | text t => exact Quoted.exists_cons_write t
  | truth b => cases b <;> exact ⟨_, _, rfl, by decide⟩
  | number n =>
    obtain ⟨c, rest, hrender⟩ := List.exists_cons_of_ne_nil (Decimal.render_ne_nil n)
    have hdigit := Decimal.isDigit_of_mem_render (n := n) c (by simp [hrender])
    exact ⟨c, rest, hrender, (startsEntry_of_isBareChar (isBareChar_of_isDigit hdigit)).1⟩

theorem dropBlanks_cons {c : Char} (h : isBlank c = false) (t : Text) :
    dropBlanks (c :: t) = c :: t :=
  List.dropWhile_cons_of_neg (by simp [h])

theorem StartsEntry.afterLine?_eq {c : Char} (h : StartsEntry c) (t : Text) :
    afterLine? (c :: t) = none := by
  obtain ⟨hblank, hcomment, hline, hreturn⟩ := h
  have hkeep : dropComment (c :: t) = c :: t := by
    unfold dropComment
    split
    · exact absurd (List.cons.inj ‹_›).1 hcomment
    · rfl
  rw [afterLine?, dropBlanks_cons hblank, hkeep]
  exact (StartsInLine.cons hline hreturn t).afterNewline?_eq

theorem AreKeys.of_cons {k : String} {keys : List String} (h : AreKeys (k :: keys)) :
    IsBare k ∧ k ∉ keys ∧ AreKeys keys := by
  obtain ⟨hbare, hnodup⟩ := h
  obtain ⟨hk, hnodup⟩ := List.nodup_cons.1 hnodup
  exact ⟨hbare k (by simp), hk, fun l hl => hbare l (by simp [hl]), hnodup⟩

theorem AreKeys.of_append {keys keys' : List String} (h : AreKeys (keys ++ keys')) :
    AreKeys keys ∧ AreKeys keys' ∧ ∀ k ∈ keys, k ∉ keys' := by
  obtain ⟨hbare, hnodup⟩ := h
  obtain ⟨hnodup, hnodup', hapart⟩ := List.nodup_append.1 hnodup
  refine ⟨⟨fun k hk => ?_, hnodup⟩, ⟨fun k hk => ?_, hnodup'⟩, fun k hk hk' => ?_⟩
  · exact hbare k (List.mem_append_left _ hk)
  · exact hbare k (List.mem_append_right _ hk)
  · exact hapart k hk k hk' rfl

theorem AreKeys.nodup_toList {keys : List String} (h : AreKeys keys) :
    (keys.map String.toList).Nodup :=
  h.2.map fun _ _ => String.toList_inj.1

theorem IsBare.exists_cons {key : String} (h : IsBare key) :
    ∃ c rest, key.toList = c :: rest ∧ isBareChar c = true := by
  obtain ⟨c, rest, hkey⟩ := List.exists_cons_of_ne_nil h.1
  exact ⟨c, rest, hkey, List.all_eq_true.1 h.2 c (by simp [hkey])⟩

/-- A key that needs no quotes is read up to the first character that cannot belong to it. -/
theorem readKey_bare {key : String} (h : IsBare key) {t : Text}
    (hend : ∀ c ∈ t.head?, isBareChar c = false) (hdot : ∀ u, dropBlanks t ≠ '.' :: u) :
    readKey (key.toList ++ t) = some ([key.toList], dropBlanks t) := by
  have hchars : ∀ c ∈ key.toList, isBareChar c = true := List.all_eq_true.1 h.2
  have htake : (key.toList ++ t).takeWhile isBareChar = key.toList := by
    rw [List.takeWhile_append_of_pos hchars]
    cases t with
    | nil => simp
    | cons c t => simp [hend c rfl]
  have hdrop : (key.toList ++ t).dropWhile isBareChar = t := by
    rw [List.dropWhile_append_of_pos hchars]
    cases t with
    | nil => simp
    | cons c t => simp [hend c rfl]
  obtain ⟨c, cs, hkey, hc⟩ := IsBare.exists_cons h
  have hblanks : dropBlanks (key.toList ++ t) = key.toList ++ t := by
    rw [hkey, List.cons_append, dropBlanks_cons (startsEntry_of_isBareChar hc).1]
  have hpart : readPart (key.toList ++ t) = some (key.toList, t) := by
    unfold readPart
    split
    · rename_i heq
      rw [hkey] at heq
      exact absurd (List.cons.inj heq).1 (ne_of_isBareChar hc rfl)
    · rename_i heq
      rw [hkey] at heq
      exact absurd (List.cons.inj heq).1 (ne_of_isBareChar hc rfl)
    · simp [htake, hdrop, h.1]
  rw [readKey, nesting, readParts, hblanks, hpart]
  simp only [Option.bind_eq_bind, Option.bind_some]

/-! ### Entries -/

namespace Node

variable {es : Entries} {k : Text}

theorem find?_eq_none (h : k ∉ es.map Prod.fst) : find? es k = none := by
  have hnone : (es.find? fun e => decide (e.1 = k)) = none := by
    refine List.find?_eq_none.2 fun e he => ?_
    have hk : e.1 ≠ k := fun hk => h (hk ▸ List.mem_map_of_mem he)
    simpa using hk
  rw [find?, hnone, Option.map_none]

theorem find?_append (h : k ∉ es.map Prod.fst) (n : Node) : find? (es ++ [(k, n)]) k = some n := by
  have hnone := find?_eq_none h
  rw [find?, Option.map_eq_none_iff] at hnone
  rw [find?, List.find?_append, hnone]
  simp

theorem replace_append (h : k ∉ es.map Prod.fst) (n n' : Node) :
    replace (es ++ [(k, n)]) k n' = es ++ [(k, n')] := by
  have hkeep : es.map (fun e => if e.1 = k then (k, n') else e) = es.map id :=
    List.map_congr_left fun e he => if_neg fun (hk : e.1 = k) => h (hk ▸ List.mem_map_of_mem he)
  rw [replace, List.map_append, hkeep, List.map_id]
  simp

theorem define_new (h : k ∉ es.map Prod.fst) :
    define es [k] = some (es ++ [(k, .table .header [])]) := by
  simp [define, splitPath, descend, find?_eq_none h]

theorem assignIn_root (h : k ∉ es.map Prod.fst) (v : Value) :
    assignIn es [] [k] v = some (es ++ [(k, .value v)]) := by
  simp [assignIn, assign, splitPath, descend, find?_eq_none h]

theorem assignIn_section {made : Entries} {header : Text} (hheader : header ∉ es.map Prod.fst)
    (h : k ∉ made.map Prod.fst) (v : Value) :
    assignIn (es ++ [(header, .table .header made)]) [header] [k] v =
      some (es ++ [(header, .table .header (made ++ [(k, .value v)]))]) := by
  simp [assignIn, assign, splitPath, descend, find?_eq_none h, find?_append hheader,
    replace_append hheader]

theorem toEntries_append (es es' : Entries) :
    toEntries (es ++ es') = toEntries es ++ toEntries es' := by
  induction es with
  | nil => rfl
  | cons e es ih => simp [toEntries, ih]

end Node

/-! ### What lines do -/

namespace Draft

/-- The lines of a text take a draft to another, whatever stands behind them. -/
def Reads (d : Draft) (t : Text) (d' : Draft) : Prop :=
  ∃ n ≤ t.length, ∀ steps rest, readLines d (steps + n) (t ++ rest) = readLines d' steps rest

namespace Reads

theorem nil (d : Draft) : d.Reads [] d := ⟨0, Nat.le_refl 0, fun _ _ => rfl⟩

theorem append {d d' d'' : Draft} {t u : Text} (h : d.Reads t d') (h' : d'.Reads u d'') :
    d.Reads (t ++ u) d'' := by
  obtain ⟨m, hm, hread⟩ := h
  obtain ⟨n, hn, hread'⟩ := h'
  refine ⟨n + m, ?_, fun steps rest => ?_⟩
  · rw [List.length_append]
    omega
  · rw [← Nat.add_assoc, List.append_assoc, hread, hread']

/-- An entry with which a text starts, up to the end of its line. -/
theorem of_entry {d d' : Draft} {c : Char} {t : Text} (hc : StartsEntry c)
    (h : ∀ steps rest, readEntry d steps (c :: t ++ rest) = some (d', rest)) :
    d.Reads (c :: t) d' := by
  refine ⟨1, by simp, fun steps rest => ?_⟩
  rw [readLines, List.cons_append, dropBlanks_cons hc.1]
  simp only [hc.afterLine?_eq]
  rw [← List.cons_append, h]
  rfl

theorem newline (d : Draft) : d.Reads ['\n'] d := ⟨1, by simp, fun _ _ => rfl⟩

/-- All lines of a text without byte order mark. -/
theorem readDocument_eq {d : Draft} {t : Text} (h : Reads {} t d) (hmark : ∀ u, t ≠ '\uFEFF' :: u) :
    readDocument t = some (Node.toEntries d.root) := by
  obtain ⟨n, hn, hread⟩ := h
  have hlines : readLines {} (t.length + 1) t = some d := by
    have hread := hread (t.length - n + 1) []
    rw [List.append_nil, show t.length - n + 1 + n = t.length + 1 by omega] at hread
    rw [hread]
    rfl
  unfold readDocument
  split
  · exact absurd rfl (hmark _)
  · simp only [hlines, Option.map_some]

end Reads

end Draft

/-! ### Lines of a document -/

theorem dropBlanks_blank {c : Char} (h : isBlank c = true) (t : Text) :
    dropBlanks (c :: t) = dropBlanks t :=
  List.dropWhile_cons_of_pos h

/-- The rest of a line is blank. -/
theorem afterLine?_newline (rest : Text) : afterLine? ('\n' :: rest) = some rest := rfl

theorem readPair_writeLine {key : String} (h : IsBare key) {s : Scalar} (hs : s.Fits)
    (steps depth : Nat) (rest : Text) :
    readPair (readValue steps depth) (Config.writeLine key s.write ++ rest) =
      some ([key.toList], s.value, '\n' :: rest) := by
  obtain ⟨c, w, hwrite, hblank⟩ := s.exists_cons_write
  have hline : Config.writeLine key s.write ++ rest =
      key.toList ++ ' ' :: '=' :: ' ' :: (s.write ++ '\n' :: rest) := by
    simp [Config.writeLine]
  have hequals : dropBlanks (' ' :: '=' :: ' ' :: (s.write ++ '\n' :: rest)) =
      '=' :: ' ' :: (s.write ++ '\n' :: rest) := by
    rw [dropBlanks_blank rfl, dropBlanks_cons rfl]
  have hvalue : dropBlanks (' ' :: (s.write ++ '\n' :: rest)) = s.write ++ '\n' :: rest := by
    rw [dropBlanks_blank rfl, hwrite, List.cons_append, dropBlanks_cons hblank]
  have hkey := readKey_bare h (t := ' ' :: '=' :: ' ' :: (s.write ++ '\n' :: rest))
    (by simp [isBareChar]) (by simp [hequals])
  rw [hline, readPair, hkey, hequals]
  simp [hvalue, readValue_write hs]

/-- A line that gives a key its value. -/
theorem reads_writeLine {d : Draft} {root : Entries} {key : String} (h : IsBare key) {s : Scalar}
    (hs : s.Fits) (hassign : Node.assignIn d.root d.header [key.toList] s.value = some root) :
    d.Reads (Config.writeLine key s.write) { d with root } := by
  obtain ⟨c, cs, hkey, hc⟩ := h.exists_cons
  obtain ⟨t, ht⟩ : ∃ t, Config.writeLine key s.write = c :: t := by
    simp [Config.writeLine, hkey]
  rw [ht]
  refine .of_entry (startsEntry_of_isBareChar hc) fun steps rest => ?_
  have hpair := readPair_writeLine h hs steps nesting rest
  rw [ht] at hpair
  have hbracket : c ≠ '[' := ne_of_isBareChar hc rfl
  unfold readEntry
  split
  · exact absurd (List.cons.inj ‹_›).1 hbracket
  · exact absurd (List.cons.inj ‹_›).1 hbracket
  · simp only [hpair, Option.bind_eq_bind, Option.bind_some, hassign, afterLine?_newline]

theorem readHeader_key {key : String} (h : IsBare key) (rest : Text) :
    readHeader [']'] (key.toList ++ ']' :: '\n' :: rest) = some ([key.toList], rest) := by
  have hclose : dropBlanks (']' :: '\n' :: rest) = ']' :: '\n' :: rest := dropBlanks_cons rfl _
  have hkey := readKey_bare h (t := ']' :: '\n' :: rest) (by simp [isBareChar]) (by simp [hclose])
  rw [readHeader, hkey, hclose]
  simp [afterLine?_newline]

/-- An empty line, and a header on the next. -/
theorem reads_writeHeader {d : Draft} {root : Entries} {key : String} (h : IsBare key)
    (hdefine : Node.define d.root [key.toList] = some root) :
    d.Reads (Config.writeHeader key) ⟨root, [key.toList]⟩ := by
  obtain ⟨c, cs, hkey, hc⟩ := h.exists_cons
  have hentry : d.Reads ('[' :: (key.toList ++ [']', '\n'])) ⟨root, [key.toList]⟩ := by
    refine .of_entry ⟨rfl, by decide, by decide, by decide⟩ fun steps rest => ?_
    have hheader := readHeader_key h rest
    have hline : '[' :: (key.toList ++ [']', '\n']) ++ rest =
        '[' :: (key.toList ++ ']' :: '\n' :: rest) := by simp
    have hbracket : ∀ u, key.toList ++ ']' :: '\n' :: rest ≠ '[' :: u := by
      intro u heq
      rw [hkey] at heq
      exact ne_of_isBareChar hc rfl (List.cons.inj heq).1
    rw [hline]
    unfold readEntry
    split
    · exact absurd (List.cons.inj ‹_›).2 (hbracket _)
    · rename_i heq
      obtain ⟨-, rfl⟩ := List.cons.inj heq
      simp [hheader, hdefine]
    · rename_i hother
      exact (hother _ rfl).elim
  exact (Draft.Reads.newline d).append hentry

/-! ### Sections -/

/-- Keys with their values as entries of a table in the making. -/
def nodes (assignments : List Assignment) : Entries :=
  assignments.map fun a => (a.1.toList, .value a.2.value)

/-- A section as an entry of the root table. -/
def sectionNode (s : String × List Assignment) : Text × Node :=
  (s.1.toList, .table .header (nodes s.2))

/-- A new key with its value goes to the end of the table at a place. -/
def Collects (place : Entries → Draft) : Prop :=
  ∀ (made : Entries) (k : Text) (v : Value), k ∉ made.map Prod.fst →
    ∃ root, Node.assignIn (place made).root (place made).header [k] v = some root ∧
      place (made ++ [(k, .value v)]) = { place made with root }

theorem collects_root : Collects fun made => ⟨made, []⟩ :=
  fun _ _ v h => ⟨_, Node.assignIn_root h v, rfl⟩

theorem collects_section {es : Entries} {header : Text} (h : header ∉ es.map Prod.fst) :
    Collects fun made => ⟨es ++ [(header, .table .header made)], [header]⟩ :=
  fun _ _ v hk => ⟨_, Node.assignIn_section h hk v, rfl⟩

theorem map_fst_nodes (assignments : List Assignment) :
    (nodes assignments).map Prod.fst = assignments.map fun a => a.1.toList := by
  simp [nodes]

/-- The lines of keys put them into the table at their place. -/
theorem reads_writeLines {place : Entries → Draft} (hplace : Collects place)
    {assignments : List Assignment} (h : WellKeyed assignments) (made : Entries)
    (hnew : ∀ a ∈ assignments, a.1.toList ∉ made.map Prod.fst) :
    (place made).Reads (Document.writeLines assignments) (place (made ++ nodes assignments)) := by
  -- What has been made so far grows by an entry per line, so that no key of the rest is in it yet.
  induction assignments generalizing made with
  | nil => simpa [nodes, Document.writeLines] using Draft.Reads.nil (place made)
  | cons a assignments ih =>
    obtain ⟨hbare, ha, hkeys⟩ := AreKeys.of_cons h.areKeys
    obtain ⟨root, hassign, hroot⟩ := hplace made a.1.toList a.2.value (hnew a (by simp))
    have hline := reads_writeLine hbare (h.fits a (by simp)) hassign
    rw [← hroot] at hline
    have hrest : WellKeyed assignments := ⟨hkeys, fun b hb => h.fits b (by simp [hb])⟩
    have hnext : ∀ b ∈ assignments,
        b.1.toList ∉ (made ++ [(a.1.toList, Node.value a.2.value)]).map Prod.fst := by
      intro b hb
      have hne : b.1 ≠ a.1 := fun heq => ha (heq ▸ List.mem_map_of_mem hb)
      simpa [String.toList_inj, hne] using hnew b (by simp [hb])
    have hlines := ih hrest _ hnext
    simpa [nodes, Document.writeLines] using hline.append hlines

/-- The lines of sections put them at the end of the root table. -/
theorem reads_writeSections {sections : List (String × List Assignment)}
    (hkeys : AreKeys (sections.map Prod.fst)) (hkeyed : ∀ s ∈ sections, WellKeyed s.2)
    (es : Entries) (hnew : ∀ s ∈ sections, s.1.toList ∉ es.map Prod.fst) (header : List Text) :
    ∃ header', Draft.Reads ⟨es, header⟩ (Document.writeSections sections)
      ⟨es ++ sections.map sectionNode, header'⟩ := by
  induction sections generalizing es header with
  | nil => exact ⟨header, by simpa [Document.writeSections] using Draft.Reads.nil ⟨es, header⟩⟩
  | cons s sections ih =>
    obtain ⟨hbare, hs, hkeys⟩ := AreKeys.of_cons hkeys
    have hfresh := hnew s (by simp)
    have hheader : Draft.Reads ⟨es, header⟩ (Config.writeHeader s.1) _ :=
      reads_writeHeader hbare (Node.define_new hfresh)
    have hlines := reads_writeLines (collects_section hfresh) (hkeyed s (by simp)) [] (by simp)
    have hnext : ∀ t ∈ sections, t.1.toList ∉ (es ++ [sectionNode s]).map Prod.fst := by
      intro t ht
      have hne : t.1 ≠ s.1 := fun heq => hs (heq ▸ List.mem_map_of_mem ht)
      simpa [sectionNode, String.toList_inj, hne] using hnew t (by simp [ht])
    obtain ⟨header', hsections⟩ :=
      ih hkeys (fun t ht => hkeyed t (by simp [ht])) _ hnext [s.1.toList]
    refine ⟨header', ?_⟩
    have hall := (hheader.append hlines).append hsections
    simpa [Document.writeSections] using hall

/-! ### Whole documents -/

theorem toEntries_nodes (assignments : List Assignment) :
    Node.toEntries (nodes assignments) = Document.values assignments := by
  induction assignments with
  | nil => rfl
  | cons a assignments ih =>
    simpa [nodes, Document.values, Node.toEntries, Node.toValue] using ih

theorem toEntries_sections (sections : List (String × List Assignment)) :
    Node.toEntries (sections.map sectionNode) =
      sections.map fun s => (s.1.toList, .table (Document.values s.2)) := by
  induction sections with
  | nil => rfl
  | cons s sections ih => simp [sectionNode, Node.toEntries, Node.toValue, toEntries_nodes, ← ih]

/-- What is written does not start with a byte order mark. -/
theorem write_ne_mark {d : Document} (h : d.WellFormed) (t : Text) : d.write ≠ '\uFEFF' :: t := by
  intro heq
  obtain ⟨top, sections⟩ := d
  cases top with
  | cons a top =>
    obtain ⟨c, cs, hkey, hc⟩ := (AreKeys.of_cons h.areKeys).1.exists_cons
    obtain ⟨u, hu⟩ : ∃ u, Document.write ⟨a :: top, sections⟩ = c :: u := by
      simp [Document.write, Document.writeLines, Config.writeLine, hkey]
    rw [hu] at heq
    exact ne_of_isBareChar hc rfl (List.cons.inj heq).1
  | nil =>
    cases sections with
    | nil => cases heq
    | cons s sections => exact absurd (List.cons.inj heq).1 (by decide)

/-- A document is read back. -/
theorem readDocument_write {d : Document} (h : d.WellFormed) :
    readDocument d.write = some d.entries := by
  obtain ⟨htop, hheaders, hapart⟩ := h.areKeys.of_append
  have htop := reads_writeLines collects_root ⟨htop, h.fits⟩ [] (by simp)
  rw [List.nil_append] at htop
  have hnew : ∀ s ∈ d.sections, s.1.toList ∉ (nodes d.top).map Prod.fst := by
    intro s hs hmem
    rw [map_fst_nodes] at hmem
    obtain ⟨a, ha, heq⟩ := List.mem_map.1 hmem
    have hkey : a.1 = s.1 := String.toList_inj.1 heq
    exact hapart a.1 (List.mem_map_of_mem ha) (hkey ▸ List.mem_map_of_mem hs)
  obtain ⟨header, hsections⟩ := reads_writeSections hheaders h.sections _ hnew []
  have hread := (htop.append hsections).readDocument_eq (write_ne_mark h)
  rw [Document.write, hread, Node.toEntries_append, toEntries_nodes, toEntries_sections]
  rfl

/-! ### Looking up what was read -/

/-- Of keys that differ each is found with its value. -/
theorem Value.find?_eq_some {entries : List (Text × Value)} (h : (entries.map Prod.fst).Nodup)
    {key : String} {v : Value} (hv : (key.toList, v) ∈ entries) : find? entries key = some v := by
  unfold find?
  induction entries with
  | nil => cases hv
  | cons e entries ih =>
    obtain ⟨hfresh, hnodup⟩ := List.nodup_cons.1 h
    rcases List.mem_cons.1 hv with rfl | hv
    · rw [List.find?_cons_of_pos (by simp), Option.map_some]
    · have hne : e.1 ≠ key.toList := fun heq => hfresh (heq ▸ List.mem_map_of_mem hv)
      rw [List.find?_cons_of_neg (by simpa using hne), ih hnodup hv]

namespace Document

theorem map_fst_values (assignments : List Assignment) :
    (values assignments).map Prod.fst = (assignments.map Prod.fst).map String.toList := by
  rw [values, List.map_map, List.map_map]
  rfl

/-- The fields of a section are the values of its keys. -/
theorem fields?_values {assignments : List Assignment}
    (h : AreKeys (assignments.map Prod.fst)) :
    (Value.table (values assignments)).fields? (assignments.map Prod.fst) =
      some (assignments.map fun a => some a.2.value) := by
  have hnodup : ((values assignments).map Prod.fst).Nodup := by
    rw [map_fst_values]
    exact h.nodup_toList
  rw [Value.fields?, List.map_map]
  refine congrArg some (List.map_congr_left fun a ha => ?_)
  have hmem : (a.1.toList, a.2.value) ∈ values assignments := List.mem_map.2 ⟨a, ha, rfl⟩
  exact Value.find?_eq_some hnodup hmem

variable {d : Document} (h : AreKeys (d.top.map Prod.fst ++ d.sections.map Prod.fst))
include h

theorem nodup_entries : (d.entries.map Prod.fst).Nodup := by
  have hsections : (d.sections.map fun s => (s.1.toList, Value.table (values s.2))).map Prod.fst =
      (d.sections.map Prod.fst).map String.toList := by
    rw [List.map_map, List.map_map]
    rfl
  rw [entries, List.map_append, map_fst_values, hsections, ← List.map_append]
  exact h.nodup_toList

theorem find?_top {a : Assignment} (ha : a ∈ d.top) :
    Value.find? d.entries a.1 = some a.2.value :=
  Value.find?_eq_some (nodup_entries h)
    (List.mem_append_left _ (List.mem_map.2 ⟨a, ha, rfl⟩))

theorem find?_section {s : String × List Assignment} (hs : s ∈ d.sections) :
    Value.find? d.entries s.1 = some (.table (values s.2)) :=
  Value.find?_eq_some (nodup_entries h)
    (List.mem_append_right _ (List.mem_map.2 ⟨s, hs, rfl⟩))

end Document

end TermSession.Toml
