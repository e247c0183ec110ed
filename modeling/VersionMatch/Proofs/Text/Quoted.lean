import Mathlib.Algebra.GroupWithZero.Nat
import VersionMatch.Text.Quoted

/-!
# Quoted texts can be read

Between quotes, every character is written as itself, by a letter behind a backslash, or by a letter
and the digits of its code. No way of writing one character begins another, and none begins with the
closing quote. So what stands between quotes determines the text and shows where it ends,
`quoted_append_inj`. A text of ordinary characters is shown as it is, `quoted_of_plain`.
-/

namespace VersionMatch.Text

/-! ## Hexadecimal numerals -/

/-- A numeral of several digits ends with the remainder by 16, behind the numeral of the quotient.
-/
theorem hexadecimal_succ {width : Nat} (n : Nat) (hwidth : 0 < width) :
    hexadecimal (width + 1) n = hexadecimal width (n / 16) ++ [Nat.digitChar (n % 16)] := by
  unfold hexadecimal List.leftpad
  by_cases h : n < 16
  · -- The quotient is zero, whose numeral is padding throughout.
    obtain ⟨width, rfl⟩ : ∃ less, width = less + 1 := ⟨width - 1, by omega⟩
    rw [Nat.toDigits_of_lt_base h, Nat.div_eq_of_lt h, Nat.mod_eq_of_lt h, Nat.toDigits_zero]
    simp [List.replicate_succ']
  · rw [Nat.toDigits_of_base_le (by omega) (by omega)]
    simp

theorem hexadecimal_one {n : Nat} (h : n < 16) : hexadecimal 1 n = [Nat.digitChar n] := by
  rw [hexadecimal, Nat.toDigits_of_lt_base h]
  rfl

/-- The four digits of a number below 2 ^ 16. -/
theorem hexadecimal_four {n : Nat} (h : n < 0x10000) :
    hexadecimal 4 n =
      [Nat.digitChar (n / 16 / 16 / 16), Nat.digitChar (n / 16 / 16 % 16),
        Nat.digitChar (n / 16 % 16), Nat.digitChar (n % 16)] := by
  rw [hexadecimal_succ n (by omega), hexadecimal_succ (n / 16) (by omega),
    hexadecimal_succ (n / 16 / 16) (by omega), hexadecimal_one (by omega)]
  rfl

/-- A number that fits into the digits of a numeral fills them exactly. -/
theorem length_hexadecimal {width n : Nat} (h : n < 16 ^ (width + 1)) :
    (hexadecimal (width + 1) n).length = width + 1 := by
  induction width generalizing n with
  | zero => rw [hexadecimal_one (by omega), List.length_singleton]
  | succ width ih =>
      have hquotient : n / 16 < 16 ^ (width + 1) := by
        rw [Nat.pow_succ] at h
        omega
      rw [hexadecimal_succ n (by omega), List.length_append, ih hquotient, List.length_singleton]

theorem digit_char_inj {m n : Nat} (hm : m < 16) (hn : n < 16)
    (h : Nat.digitChar m = Nat.digitChar n) : m = n := by
  have hall : ∀ m < 16, ∀ n < 16, Nat.digitChar m = Nat.digitChar n → m = n := by decide
  exact hall m hm n hn h

/-- Numbers that fit into the digits of a numeral are told apart by it. -/
theorem hexadecimal_inj {width m n : Nat} (hm : m < 16 ^ (width + 1)) (hn : n < 16 ^ (width + 1))
    (h : hexadecimal (width + 1) m = hexadecimal (width + 1) n) : m = n := by
  induction width generalizing m n with
  | zero =>
      rw [hexadecimal_one (by omega), hexadecimal_one (by omega)] at h
      exact digit_char_inj (by omega) (by omega) (List.cons.inj h).1
  | succ width ih =>
      rw [Nat.pow_succ] at hm hn
      rw [hexadecimal_succ m (by omega), hexadecimal_succ n (by omega)] at h
      obtain ⟨hquotient, hdigit⟩ := List.append_inj' h rfl
      have hdiv : m / 16 = n / 16 := ih (by omega) (by omega) hquotient
      have hmod : m % 16 = n % 16 :=
        digit_char_inj (by omega) (by omega) (List.cons.inj hdigit).1
      omega

/-! ## Characters between quotes -/

/-- The letters behind a backslash that stand for a single character, in a text between quotes
`mark`, each with that character. -/
def letters (mark : Char) : List (Char × Char) :=
  [(mark, mark), ('\\', '\\'), ('t', '\t'), ('n', '\n'), ('r', '\r')]

/-- The letters behind a backslash that begin the code of a character, each with the number of
digits, less one. -/
def codeLetters : List (Char × Nat) :=
  [('x', 1), ('u', 3), ('U', 7)]

/-- `Written mark c text` says that the text is a way to write the character between quotes. -/
inductive Written (mark c : Char) : Text → Prop where
  | plain : c ≠ '\\' → c ≠ mark → Written mark c [c]
  | letter (letter) : (letter, c) ∈ letters mark → Written mark c ['\\', letter]
  | code (letter width) : (letter, width) ∈ codeLetters → c.toNat < 16 ^ (width + 1) →
      Written mark c ('\\' :: letter :: hexadecimal (width + 1) c.toNat)

/-- The code of a character is written with the number of digits that its letter stands for. -/
theorem written_code_escape (mark c : Char) : Written mark c (codeEscape c) := by
  have hvalid : c.toNat < 0xd800 ∨ 0xdfff < c.toNat ∧ c.toNat < 0x110000 := c.valid
  unfold codeEscape
  split
  · exact .code 'x' 1 (by decide) (by omega)
  · split
    · exact .code 'u' 3 (by decide) (by omega)
    · exact .code 'U' 7 (by decide) (by omega)

/-- Each branch of `quotedChar` is one of the ways to write a character. -/
theorem written_quoted_char (mark c : Char) : Written mark c (quotedChar mark c) := by
  unfold quotedChar
  by_cases hescaped : c = mark ∨ c = '\\'
  · rw [if_pos (by simpa using hescaped)]
    exact .letter c (by rcases hescaped with rfl | rfl <;> simp [letters])
  rw [if_neg (by simpa using hescaped)]
  by_cases htab : c = '\t'
  · rw [if_pos (beq_iff_eq.2 htab)]
    exact .letter 't' (by simp [letters, htab])
  rw [if_neg (by simpa using htab)]
  by_cases hfeed : c = '\n'
  · rw [if_pos (beq_iff_eq.2 hfeed)]
    exact .letter 'n' (by simp [letters, hfeed])
  rw [if_neg (by simpa using hfeed)]
  by_cases hreturn : c = '\r'
  · rw [if_pos (beq_iff_eq.2 hreturn)]
    exact .letter 'r' (by simp [letters, hreturn])
  rw [if_neg (by simpa using hreturn)]
  split
  · obtain ⟨hmark, hbackslash⟩ := not_or.1 hescaped
    exact .plain hbackslash hmark
  · exact written_code_escape mark c

section Reading

variable {mark c d : Char} {text other rest more : Text}

/-- The quote that is in use is one of the two. -/
def IsMark (mark : Char) : Prop :=
  mark = '\'' ∨ mark = '"'

theorem is_mark_quote_mark (text : Text) : IsMark (quoteMark text) := by
  unfold quoteMark
  split
  · exact .inr rfl
  · exact .inl rfl

/-- A letter behind a backslash stands for one character only. -/
theorem letter_inj (hmark : IsMark mark) {letter : Char} (hc : (letter, c) ∈ letters mark)
    (hd : (letter, d) ∈ letters mark) : c = d := by
  rcases hmark with rfl | rfl <;> simp [letters] at hc hd <;> grind

/-- A letter behind a backslash does not both stand for a character and begin a code. -/
theorem letter_not_code (hmark : IsMark mark) {letter : Char} {width : Nat}
    (hc : (letter, c) ∈ letters mark) : (letter, width) ∉ codeLetters := by
  rcases hmark with rfl | rfl <;> simp [letters, codeLetters] at hc ⊢ <;> grind

theorem code_letter_inj {letter : Char} {width less : Nat} (hc : (letter, width) ∈ codeLetters)
    (hd : (letter, less) ∈ codeLetters) : width = less := by
  simp [codeLetters] at hc hd
  grind

/-- What is written for a character shows which one it is and where the next one begins. -/
theorem Written.append_inj (hmark : IsMark mark) (hc : Written mark c text)
    (hd : Written mark d other) (h : text ++ rest = other ++ more) : c = d ∧ rest = more := by
  cases hc with
  | plain hbackslash _ =>
      cases hd with
      | plain => exact List.cons.inj h
      | letter | code => exact absurd (List.cons.inj h).1 hbackslash
  | letter letter hletter =>
      cases hd with
      | plain hbackslash _ => exact absurd (List.cons.inj h).1.symm hbackslash
      | letter named hnamed =>
          obtain ⟨-, htail⟩ := List.cons.inj h
          obtain ⟨rfl, hrest⟩ := List.cons.inj htail
          exact ⟨letter_inj hmark hletter hnamed, hrest⟩
      | code named width hnamed _ =>
          obtain ⟨-, htail⟩ := List.cons.inj h
          obtain ⟨rfl, -⟩ := List.cons.inj htail
          exact absurd hnamed (letter_not_code hmark hletter)
  | code letter width hletter hfits =>
      cases hd with
      | plain hbackslash _ => exact absurd (List.cons.inj h).1.symm hbackslash
      | letter named hnamed =>
          obtain ⟨-, htail⟩ := List.cons.inj h
          obtain ⟨rfl, -⟩ := List.cons.inj htail
          exact absurd hletter (letter_not_code hmark hnamed)
      | code named less hnamed hother =>
          obtain ⟨-, htail⟩ := List.cons.inj h
          obtain ⟨rfl, hdigits⟩ := List.cons.inj htail
          obtain rfl := code_letter_inj hletter hnamed
          obtain ⟨hcode, hrest⟩ := List.append_inj hdigits
            ((length_hexadecimal hfits).trans (length_hexadecimal hother).symm)
          exact ⟨Char.toNat_inj.1 (hexadecimal_inj hfits hother hcode), hrest⟩

/-- What is written for a character does not begin with the quote. -/
theorem Written.not_mark (hmark : IsMark mark) (hc : Written mark c text) :
    text ++ rest ≠ mark :: more := by
  have hbackslash : '\\' ≠ mark := by
    rcases hmark with rfl | rfl <;> decide
  cases hc with
  | plain _ hother => exact fun h => hother (List.cons.inj h).1
  | letter | code => exact fun h => hbackslash (List.cons.inj h).1

/-- The characters up to the closing quote are those of one text only. -/
theorem written_chars_inj (hmark : IsMark mark)
    (h : text.flatMap (quotedChar mark) ++ mark :: rest =
      other.flatMap (quotedChar mark) ++ mark :: more) : text = other ∧ rest = more := by
  induction text generalizing other with
  | nil =>
      cases other with
      | nil => exact ⟨rfl, (List.cons.inj h).2⟩
      | cons d other =>
          rw [List.flatMap_cons, List.append_assoc] at h
          exact absurd h.symm ((written_quoted_char mark d).not_mark hmark)
  | cons c text ih =>
      rw [List.flatMap_cons, List.append_assoc] at h
      cases other with
      | nil => exact absurd h ((written_quoted_char mark c).not_mark hmark)
      | cons d other =>
          rw [List.flatMap_cons, List.append_assoc] at h
          obtain ⟨rfl, hrest⟩ :=
            (written_quoted_char mark c).append_inj hmark (written_quoted_char mark d) h
          obtain ⟨rfl, hmore⟩ := ih hrest
          exact ⟨rfl, hmore⟩

end Reading

/-! ## Quoted texts -/

/-- A quoted text shows which text it is and where it ends. -/
theorem quoted_append_inj {text other rest more : Text}
    (h : quoted text ++ rest = quoted other ++ more) : text = other ∧ rest = more := by
  simp only [quoted, List.cons_append, List.append_assoc, List.nil_append] at h
  obtain ⟨hmark, hchars⟩ := List.cons.inj h
  rw [← hmark] at hchars
  exact written_chars_inj (is_mark_quote_mark text) hchars

theorem quoted_inj {text other : Text} (h : quoted text = quoted other) : text = other :=
  (quoted_append_inj (congrArg (· ++ []) h)).1

/-- An absent text is told apart from every quoted one. -/
theorem quoted_option_inj {text other : Option Text}
    (h : quotedOption text = quotedOption other) : text = other := by
  have hnone : ∀ text, quoted text ≠ "None".toList := by
    intro text hquoted
    have hmark : quoteMark text = 'N' := (List.cons.inj hquoted).1
    rcases is_mark_quote_mark text with hsingle | hdouble
    · exact absurd (hsingle.symm.trans hmark) (by decide)
    · exact absurd (hdouble.symm.trans hmark) (by decide)
  cases text with
  | none =>
      cases other with
      | none => rfl
      | some other => exact absurd h.symm (hnone other)
  | some text =>
      cases other with
      | none => exact absurd h (hnone text)
      | some other => exact congrArg some (quoted_inj h)

/-- A printable character that is neither the quote nor a backslash is written as itself. -/
theorem quoted_char_of_plain {mark c : Char} (hprintable : isPrintable c = true) (hmark : c ≠ mark)
    (hbackslash : c ≠ '\\') : quotedChar mark c = [c] := by
  have htab : c ≠ '\t' := by
    rintro rfl
    exact absurd hprintable (by decide)
  have hfeed : c ≠ '\n' := by
    rintro rfl
    exact absurd hprintable (by decide)
  have hreturn : c ≠ '\r' := by
    rintro rfl
    exact absurd hprintable (by decide)
  simp [quotedChar, hmark, hbackslash, htab, hfeed, hreturn, hprintable]

theorem quoted_chars_of_plain {mark : Char} {text : Text}
    (h : ∀ c ∈ text, isPrintable c = true ∧ c ≠ mark ∧ c ≠ '\\') :
    text.flatMap (quotedChar mark) = text := by
  induction text with
  | nil => rfl
  | cons c text ih =>
      obtain ⟨⟨hprintable, hmark, hbackslash⟩, hrest⟩ := List.forall_mem_cons.1 h
      rw [List.flatMap_cons, quoted_char_of_plain hprintable hmark hbackslash, ih hrest]
      rfl

/-- A text of printable characters without apostrophes and backslashes stands between apostrophes as
it is. -/
theorem quoted_of_plain {text : Text}
    (h : ∀ c ∈ text, isPrintable c = true ∧ c ≠ '\'' ∧ c ≠ '\\') :
    quoted text = '\'' :: (text ++ ['\'']) := by
  have hmark : quoteMark text = '\'' := by
    have hnot : '\'' ∉ text := fun hmem => (h _ hmem).2.1 rfl
    simp [quoteMark, hnot]
  rw [quoted, hmark, quoted_chars_of_plain h]

end VersionMatch.Text
