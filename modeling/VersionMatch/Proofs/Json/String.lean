import VersionMatch.Proofs.Json.Grammar
import VersionMatch.Proofs.Text.Quoted

/-!
# Strings can be read back

Every character of a string is written in printable ASCII, and the grammar gives it back and goes on
behind it, whatever follows. So the characters of a string, up to its closing quote, have one
reading, `reads_chars_iff`.
-/

namespace VersionMatch.Json

/-! ## Units of 16 bits -/

theorem digit_value_digit_char {n : Nat} (h : n < 16) : digitValue? (Nat.digitChar n) = some n := by
  have hall : ∀ n < 16, digitValue? (Nat.digitChar n) = some n := by decide
  exact hall n h

/-- The four digits of a unit stand for it and for nothing else. -/
theorem reads_unit_iff {n unit : Nat} {text rest : Text} (h : n < 0x10000) :
    ReadsUnit (Text.hexadecimal 4 n ++ text) unit rest ↔ unit = n ∧ rest = text := by
  have hunit : ((n / 16 / 16 / 16 * 16 + n / 16 / 16 % 16) * 16 + n / 16 % 16) * 16 + n % 16 =
      n := by
    omega
  have ha := digit_value_digit_char (show n / 16 / 16 / 16 < 16 by omega)
  have hb := digit_value_digit_char (show n / 16 / 16 % 16 < 16 by omega)
  have hc := digit_value_digit_char (show n / 16 % 16 < 16 by omega)
  have hd := digit_value_digit_char (show n % 16 < 16 by omega)
  rw [Text.hexadecimal_four h]
  constructor
  · intro hread
    cases hread with
    | digits _ _ _ _ w x y z _ hw hx hy hz =>
        rw [ha] at hw
        rw [hb] at hx
        rw [hc] at hy
        rw [hd] at hz
        cases hw
        cases hx
        cases hy
        cases hz
        exact ⟨hunit, rfl⟩
  · rintro ⟨rfl, rfl⟩
    have hread := ReadsUnit.digits _ _ _ _ _ _ _ _ rest ha hb hc hd
    rwa [hunit] at hread

/-- No character is a surrogate. -/
theorem not_surrogate (c : Char) : c.toNat < 0xd800 ∨ 0xe000 ≤ c.toNat := by
  have hvalid : c.toNat < 0xd800 ∨ 0xdfff < c.toNat ∧ c.toNat < 0x110000 := c.valid
  omega

theorem to_nat_lt (c : Char) : c.toNat < 0x110000 := by
  have hvalid : c.toNat < 0xd800 ∨ 0xdfff < c.toNat ∧ c.toNat < 0x110000 := c.valid
  omega

/-! ## Characters -/

variable {c : Char} {text value rest : Text}

/-- The letter of a short escape stands for its character and for nothing else. It is not the letter
of the long escapes. -/
theorem letter_of_short_escape {letter : Char} (h : shortEscapes.lookup c = some letter) :
    letter ≠ 'u' ∧ ∀ other, (letter, other) ∈ escapeLetters ↔ other = c := by
  have hall : ∀ entry ∈ shortEscapes, entry.2 ≠ 'u' ∧ (entry.2, entry.1) ∈ escapeLetters ∧
      ∀ pair ∈ escapeLetters, pair.1 = entry.2 → pair.2 = entry.1 := by decide
  obtain ⟨before, after, hentries, -⟩ := List.lookup_eq_some_iff.1 h
  obtain ⟨hlong, hmem, honly⟩ := hall (c, letter) (by simp [hentries])
  refine ⟨hlong, fun other => ⟨fun hother => honly _ hother rfl, ?_⟩⟩
  rintro rfl
  exact hmem

/-- A character without a short escape is neither the quote nor the backslash. -/
theorem ne_of_no_short_escape (h : shortEscapes.lookup c = none) : c ≠ '"' ∧ c ≠ '\\' := by
  constructor
  · rintro rfl
    cases h
  · rintro rfl
    cases h

theorem reads_short_escape_iff {letter : Char} (h : shortEscapes.lookup c = some letter) :
    ReadsChars ('\\' :: letter :: text) value rest ↔
      ∃ later, value = c :: later ∧ ReadsChars text later rest := by
  obtain ⟨hlong, hletter⟩ := letter_of_short_escape h
  constructor
  · intro hread
    cases hread with
    | plain _ _ _ _ _ _ hbackslash _ => exact absurd rfl hbackslash
    | letter _ other _ later _ hother hlater =>
        cases (hletter other).1 hother
        exact ⟨later, rfl, hlater⟩
    | unit | surrogates => exact absurd rfl hlong
  · rintro ⟨later, rfl, hlater⟩
    exact .letter letter c text later rest ((hletter c).2 rfl) hlater

theorem reads_plain_iff (hle : ' ' ≤ c) (hquote : c ≠ '"') (hbackslash : c ≠ '\\') :
    ReadsChars (c :: text) value rest ↔
      ∃ later, value = c :: later ∧ ReadsChars text later rest := by
  constructor
  · intro hread
    cases hread with
    | close => exact absurd rfl hquote
    | plain _ _ later _ _ _ _ hlater => exact ⟨later, rfl, hlater⟩
    | letter | unit | surrogates => exact absurd rfl hbackslash
  · rintro ⟨later, rfl, hlater⟩
    exact .plain c text later rest hle hquote hbackslash hlater

theorem letter_ne_of_mem {letter other : Char} (h : (letter, other) ∈ escapeLetters) :
    letter ≠ 'u' := by
  have hall : ∀ entry ∈ escapeLetters, entry.1 ≠ 'u' := by decide
  exact hall _ h

/-- A character of one unit. Its unit is no surrogate, so the escape cannot be the first of a pair.
-/
theorem reads_unit_escape_iff (h : c.toNat < 0x10000) :
    ReadsChars (unitEscape c.toNat ++ text) value rest ↔
      ∃ later, value = c :: later ∧ ReadsChars text later rest := by
  show ReadsChars ('\\' :: 'u' :: (Text.hexadecimal 4 c.toNat ++ text)) value rest ↔ _
  constructor
  · intro hread
    cases hread with
    | plain _ _ _ _ _ _ hbackslash _ => exact absurd rfl hbackslash
    | letter _ _ _ _ _ hletter _ => exact absurd rfl (letter_ne_of_mem hletter)
    | unit other _ _ later _ hunit hlater =>
        obtain ⟨hcode, rfl⟩ := (reads_unit_iff h).1 hunit
        cases Char.toNat_inj.1 hcode
        exact ⟨later, rfl, hlater⟩
    | surrogates _ high _ _ _ _ _ _ hunit hhigh hhigh' =>
        obtain ⟨hcode, -⟩ := (reads_unit_iff h).1 hunit
        have hc := not_surrogate c
        omega
  · rintro ⟨later, rfl, hlater⟩
    exact .unit c _ text later rest ((reads_unit_iff h).2 ⟨rfl, rfl⟩) hlater

/-- A character of two units. The first one is a surrogate, which is no character of its own, and
the two together stand for the character alone. -/
theorem reads_surrogate_escapes_iff {high low : Nat} (hhigh : 0xd800 ≤ high ∧ high < 0xdc00)
    (hlow : 0xdc00 ≤ low ∧ low < 0xe000)
    (hc : c.toNat = 0x10000 + (high - 0xd800) * 0x400 + (low - 0xdc00)) :
    ReadsChars (unitEscape high ++ (unitEscape low ++ text)) value rest ↔
      ∃ later, value = c :: later ∧ ReadsChars text later rest := by
  have hhigh' : high < 0x10000 := by omega
  have hlow' : low < 0x10000 := by omega
  show ReadsChars ('\\' :: 'u' :: (Text.hexadecimal 4 high ++ (unitEscape low ++ text)))
    value rest ↔ _
  constructor
  · intro hread
    cases hread with
    | plain _ _ _ _ _ _ hbackslash _ => exact absurd rfl hbackslash
    | letter _ _ _ _ _ hletter _ => exact absurd rfl (letter_ne_of_mem hletter)
    | unit other _ _ _ _ hunit _ =>
        obtain ⟨hcode, -⟩ := (reads_unit_iff hhigh').1 hunit
        have hother := not_surrogate other
        omega
    | surrogates other _ _ _ lowDigits _ later _ hunit _ _ hunitLow _ _ hcode hlater =>
        obtain ⟨rfl, hrest⟩ := (reads_unit_iff hhigh').1 hunit
        have hdigits : lowDigits = Text.hexadecimal 4 low ++ text :=
          (List.cons.inj (List.cons.inj hrest).2).2
        rw [hdigits] at hunitLow
        obtain ⟨rfl, rfl⟩ := (reads_unit_iff hlow').1 hunitLow
        have hother : other = c := Char.toNat_inj.1 (hcode.trans hc.symm)
        subst hother
        exact ⟨later, rfl, hlater⟩
  · rintro ⟨later, rfl, hlater⟩
    exact .surrogates c high low _ _ text later rest ((reads_unit_iff hhigh').2 ⟨rfl, rfl⟩)
      hhigh.1 hhigh.2 ((reads_unit_iff hlow').2 ⟨rfl, rfl⟩) hlow.1 hlow.2 hc hlater

/-- However a character is written, the grammar gives it back and goes on behind it. -/
theorem reads_escape_iff :
    ReadsChars (escape c ++ text) value rest ↔
      ∃ later, value = c :: later ∧ ReadsChars text later rest := by
  unfold escape
  cases hshort : shortEscapes.lookup c with
  | some letter => exact reads_short_escape_iff hshort
  | none =>
      obtain ⟨hquote, hbackslash⟩ := ne_of_no_short_escape hshort
      by_cases hplain : ' ' ≤ c ∧ c ≤ '~'
      · simp only [hplain.1, hplain.2, decide_true, Bool.and_self, if_true]
        exact reads_plain_iff hplain.1 hquote hbackslash
      · have hlong : (decide (' ' ≤ c) && decide (c ≤ '~')) = false := by
          simpa using hplain
        simp only [hlong, Bool.false_eq_true, if_false, units]
        by_cases hone : c.toNat < 0x10000
        · rw [if_pos hone, List.flatMap_singleton]
          exact reads_unit_escape_iff hone
        · have hlt := to_nat_lt c
          rw [if_neg hone, List.flatMap_cons, List.flatMap_singleton, List.append_assoc]
          exact reads_surrogate_escapes_iff (by omega) (by omega) (by omega)

/-- The characters of a string and its closing quote have one reading. -/
theorem reads_chars_iff {string : Text} :
    ReadsChars (string.flatMap escape ++ '"' :: text) value rest ↔
      value = string ∧ rest = text := by
  induction string generalizing value with
  | nil =>
      constructor
      · intro hread
        cases hread with
        | close => exact ⟨rfl, rfl⟩
        | plain _ _ _ _ _ hquote _ _ => exact absurd rfl hquote
      · rintro ⟨rfl, rfl⟩
        exact .close rest
  | cons c string ih =>
      rw [List.flatMap_cons, List.append_assoc, reads_escape_iff]
      constructor
      · rintro ⟨later, rfl, hlater⟩
        obtain ⟨rfl, hrest⟩ := ih.1 hlater
        exact ⟨rfl, hrest⟩
      · rintro ⟨rfl, hrest⟩
        exact ⟨string, rfl, ih.2 ⟨rfl, hrest⟩⟩

end VersionMatch.Json
