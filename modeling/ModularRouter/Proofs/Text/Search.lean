import ModularRouter.Text.Search

/-!
# Finding text

A piece that is taken off a text stands at its end, and what is left is the rest of the text. A
pattern that is replaced is passed over as a whole where it stands, and any other character is kept.
-/

namespace ModularRouter.Text

/-- What is left of a text behind a piece at its start. -/
theorem dropStart?_eq_some_iff {pattern text rest : List Char} :
    dropStart? pattern text = some rest ↔ text = pattern ++ rest := by
  induction pattern generalizing text with
  | nil => rw [dropStart?, Option.some_inj, List.nil_append]
  | cons first pattern ih =>
    cases text with
    | nil => simp [dropStart?]
    | cons char text =>
      rw [dropStart?, List.cons_append, List.cons.injEq]
      by_cases same : first = char
      · rw [if_pos same, ih, and_iff_right same.symm]
      · rw [if_neg same]
        simp [Ne.symm same]

/-- What is left of a text in front of a piece at its end. -/
theorem dropEnd?_eq_some_iff {pattern text rest : List Char} :
    dropEnd? pattern text = some rest ↔ text = rest ++ pattern := by
  rw [dropEnd?, Option.map_eq_some_iff]
  constructor
  · rintro ⟨reversed, dropped, rfl⟩
    rw [← text.reverse_reverse, dropStart?_eq_some_iff.1 dropped, List.reverse_append,
      List.reverse_reverse]
  · rintro rfl
    exact ⟨rest.reverse, dropStart?_eq_some_iff.2 (List.reverse_append ..), rest.reverse_reverse⟩

/-- Where a pattern stands in front of a text, the first one stands there or before, so that the text
is what comes last. -/
theorem exists_splitOnce?_append {pattern : List Char} (nonempty : pattern ≠ [])
    (front text : List Char) :
    ∃ before between,
      splitOnce? pattern (front ++ (pattern ++ text)) = some (before, between ++ text) := by
  induction front with
  | nil =>
    obtain ⟨first, rest, rfl⟩ := List.exists_cons_of_ne_nil nonempty
    have found : dropStart? (first :: rest) (first :: (rest ++ text)) = some text :=
      dropStart?_eq_some_iff.2 rfl
    exact ⟨[], [], by simp only [List.nil_append, List.cons_append, splitOnce?, found]⟩
  | cons c front ih =>
    cases found : dropStart? pattern (c :: (front ++ (pattern ++ text))) with
    | none =>
      obtain ⟨before, between, later⟩ := ih
      exact ⟨c :: before, between, by simp only [List.cons_append, splitOnce?, found, later,
        Option.map_some]⟩
    | some rest =>
      have whole := dropStart?_eq_some_iff.1 found
      have behind : text <:+ pattern ++ rest := by
        rw [← whole, ← List.cons_append, ← List.append_assoc]
        exact List.suffix_append ..
      have size : text.length ≤ rest.length := by
        have total := congrArg List.length whole
        simp only [List.length_cons, List.length_append] at total
        omega
      obtain ⟨between, rfl⟩ :=
        List.suffix_of_suffix_length_le behind (List.suffix_append pattern rest) size
      exact ⟨[], between, by simp only [List.cons_append, splitOnce?, found]⟩

section

variable {pattern replacement : List Char}

/-- Characters that are passed over are as good as not there. -/
theorem replaceAfter_eq_drop (skip : Nat) (text : List Char) :
    replaceAfter pattern replacement skip text =
      replaceAll pattern replacement (text.drop skip) := by
  induction text generalizing skip with
  | nil => cases skip <;> rfl
  | cons c text ih =>
    cases skip with
    | zero => rfl
    | succ skip => exact ih skip

/-- A character at which the pattern does not start is kept. -/
theorem replaceAll_cons {c : Char} {text : List Char} (other : ¬ pattern <+: c :: text) :
    replaceAll pattern replacement (c :: text) =
      c :: replaceAll pattern replacement text := by
  rw [replaceAll, replaceAfter, if_neg (mt List.isPrefixOf_iff_prefix.1 other), ← replaceAll]

/-- The pattern is replaced where it stands. -/
theorem replaceAll_append_self (nonempty : pattern ≠ []) (text : List Char) :
    replaceAll pattern replacement (pattern ++ text) =
      replacement ++ replaceAll pattern replacement text := by
  obtain ⟨first, rest, rfl⟩ := List.exists_cons_of_ne_nil nonempty
  have found : (first :: rest).isPrefixOf (first :: (rest ++ text)) = true :=
    List.isPrefixOf_iff_prefix.2 (List.prefix_append ..)
  rw [List.cons_append, replaceAll, replaceAfter, if_pos found, replaceAfter_eq_drop]
  simp

/-- A text is kept as far as the pattern does not start in it. -/
theorem replaceAll_append {front text : List Char}
    (clear : ∀ before after, front = before ++ after → after ≠ [] → ¬ pattern <+: after ++ text) :
    replaceAll pattern replacement (front ++ text) =
      front ++ replaceAll pattern replacement text := by
  induction front with
  | nil => rfl
  | cons c front ih =>
    have here : ¬ pattern <+: c :: (front ++ text) :=
      clear [] (c :: front) rfl (List.cons_ne_nil c front)
    have later := ih fun before after split => clear (c :: before) after (by rw [split]; rfl)
    rw [List.cons_append, replaceAll_cons here, later, List.cons_append]

end

end ModularRouter.Text
