import VersionMatch.Expression.Basic

/-!
# Taking a modifier off the text of a simple-element

`ofText?` looks at the last character of a text only. `of_text_eq_some_iff` says what that comes
to: the result is the one reading of the text whose version-id is as short as possible, and it
renders as the text.
-/

namespace VersionMatch

/-- What holds of both modifiers holds of all. -/
theorem Modifier.forall_iff {P : Modifier → Prop} :
    (∀ modifier, P modifier) ↔ P .atLeast ∧ P .prefixMatch := by
  constructor
  · intro h
    exact ⟨h .atLeast, h .prefixMatch⟩
  · intro ⟨hplus, hstar⟩ modifier
    cases modifier with
    | atLeast => exact hplus
    | prefixMatch => exact hstar

theorem Modifier.of_symbol_eq_some_iff {c : Char} {modifier : Modifier} :
    ofSymbol? c = some modifier ↔ c = modifier.symbol := by
  constructor
  · intro h
    simp only [ofSymbol?, beq_iff_eq] at h
    split at h
    case isTrue hc =>
      cases h
      exact hc
    case isFalse =>
      split at h
      case isTrue hc =>
        cases h
        exact hc
      case isFalse => cases h
  · rintro rfl
    exact of_symbol_symbol modifier

namespace SimpleElement

/-- A text that ends in a modifier is read as a modified version-id. -/
theorem of_text_modified (versionId : Text) (modifier : Modifier) :
    ofText? (versionId ++ [modifier.symbol]) = some ⟨versionId, some modifier⟩ := by
  simp [ofText?, Modifier.of_symbol_symbol]

/-- A text that ends in any other character is read as a version-id without a modifier. -/
theorem of_text_plain {text : Text} (hne : text ≠ [])
    (hplain : ∀ modifier : Modifier, text.getLast? ≠ some modifier.symbol) :
    ofText? text = some ⟨text, none⟩ := by
  have hlast := List.getLast?_eq_some_getLast hne
  have hsymbol : Modifier.ofSymbol? (text.getLast hne) = none := by
    rw [Option.eq_none_iff_forall_ne_some]
    intro modifier h
    exact hplain modifier (by rw [hlast, Modifier.of_symbol_eq_some_iff.1 h])
  simp [ofText?, hlast, hsymbol]

/-- A text is read as a simple-element exactly if this renders as the text, is not empty, and has
a modifier whenever the text ends in one. -/
theorem of_text_eq_some_iff {text : Text} {simple : SimpleElement} :
    ofText? text = some simple ↔
      text ≠ [] ∧ simple.render = text ∧
        (simple.modifier = none → ∀ modifier : Modifier, text.getLast? ≠ some modifier.symbol) := by
  constructor
  · intro h
    have hne : text ≠ [] := by
      rintro rfl
      cases h
    refine ⟨hne, ?_⟩
    by_cases hmodified : ∃ modifier : Modifier, text.getLast? = some modifier.symbol
    · obtain ⟨modifier, hlast⟩ := hmodified
      obtain ⟨versionId, rfl⟩ := List.getLast?_eq_some_iff.1 hlast
      rw [of_text_modified] at h
      cases h
      exact ⟨rfl, nofun⟩
    · have hplain : ∀ modifier : Modifier, text.getLast? ≠ some modifier.symbol :=
        fun modifier hlast => hmodified ⟨modifier, hlast⟩
      rw [of_text_plain hne hplain] at h
      cases h
      exact ⟨rfl, fun _ => hplain⟩
  · rintro ⟨hne, rfl, hplain⟩
    obtain ⟨versionId, modifier⟩ := simple
    cases modifier with
    | none => exact of_text_plain hne (hplain rfl)
    | some modifier => exact of_text_modified versionId modifier

end SimpleElement

end VersionMatch
