import TermSession.Text.WidthTable

/-!
# Column widths

How many columns of a terminal grid a character takes: none for a control or a combining
character, two for a wide one, one for almost everything else.

* `Text`: a text is a list of characters;
* `charWidth`: the width of one character;
* `Text.width`: the width of a text laid out on one line.
-/

namespace TermSession

/-- A text is its list of characters. -/
abbrev Text := List Char

namespace Text

/-- Is a number in one of these closed ranges, which are in increasing order? -/
def inRanges : List (Nat × Nat) → Nat → Bool
  | [], _ => false
  | r :: ranges, n => r.1 ≤ n && (n ≤ r.2 || inRanges ranges n)

theorem inRanges_iff {ranges : List (Nat × Nat)} (h : ranges.Pairwise fun r s => r.1 ≤ s.1)
    (n : Nat) : inRanges ranges n = true ↔ ∃ r ∈ ranges, r.1 ≤ n ∧ n ≤ r.2 := by
  induction h with
  | nil => simp [inRanges]
  | cons first _ ih =>
    rename_i r ranges
    simp only [inRanges, Bool.and_eq_true, Bool.or_eq_true, decide_eq_true_eq, ih,
      List.mem_cons, exists_eq_or_imp]
    constructor
    · rintro ⟨hr, hn | hn⟩
      · exact .inl ⟨hr, hn⟩
      · exact .inr hn
    · rintro (⟨hr, hn⟩ | ⟨s, hs, hr, hn⟩)
      · exact ⟨hr, .inl hn⟩
      · exact ⟨Nat.le_trans (first s hs) hr, .inr ⟨s, hs, hr, hn⟩⟩

end Text

/-- The columns a character takes.  Controls take none; the Khmer sign beyyal is the only
character that takes three. -/
def charWidth (c : Char) : Nat :=
  let n := c.toNat
  if n < 0x20 then 0
  else if n < 0x7F then 1
  else if n < 0xA0 then 0
  else if n = 0x17D8 then 3
  else if Text.inRanges Text.zeroWidth n then 0
  else if Text.inRanges Text.wide n then 2
  else 1

/-- The columns a text takes on a line of its own. -/
def Text.width : Text → Nat
  | [] => 0
  | c :: t => charWidth c + Text.width t

theorem charWidth_le_three (c : Char) : charWidth c ≤ 3 := by
  unfold charWidth
  grind

theorem charWidth_space : charWidth ' ' = 1 := by decide

@[simp] theorem Text.width_nil : Text.width [] = 0 := rfl

@[simp] theorem Text.width_cons (c : Char) (t : Text) :
    Text.width (c :: t) = charWidth c + Text.width t := rfl

@[simp] theorem Text.width_append (s t : Text) :
    Text.width (s ++ t) = Text.width s + Text.width t := by
  induction s with
  | nil => simp
  | cons c s ih => simp [ih, Nat.add_assoc]

end TermSession
