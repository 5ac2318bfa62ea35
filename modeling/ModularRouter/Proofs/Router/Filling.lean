import Mathlib.Data.List.Count
import Mathlib.Logic.Function.Basic
import ModularRouter.Proofs.Text.Search
import ModularRouter.Router.Template

/-!
# Filling templates

A template is filled with one text after the other, and each text is put into what the ones before
it have left. `Template.filledAtOnce` is what one would get if all places were found in the template
itself (`pieces`), before anything is put in. The two agree as long as no text makes a placeholder
that the template does not have, be it inside the text or together with what stands around it
(`fill_verbatim_iff`). What this rests on is that two placeholders never overlap
(`pieces_append_hole`), so that a text is told by its pieces and none of its placeholders is lost
when another one is filled (`put_substitute_iff`).
-/

namespace ModularRouter.Router

/-! ## Placeholders -/

namespace Placeholder

/-- The characters of a placeholder. -/
def chars (placeholder : Placeholder) : List Char :=
  placeholder.toText.toList

/-- The placeholder that stands at the start of a text. -/
def atStart? (text : List Char) : Option Placeholder :=
  [.routerName, .moduleConstants, .dispatch].find? fun placeholder =>
    placeholder.chars.isPrefixOf text

/-- Only the first two characters of a placeholder are opening braces. -/
theorem exists_chars_eq (placeholder : Placeholder) :
    ∃ c rest, placeholder.chars = '\x7b' :: '\x7b' :: c :: rest ∧ '\x7b' ∉ c :: rest := by
  cases placeholder <;> exact ⟨_, _, rfl, by decide⟩

/-- A placeholder has characters. -/
theorem chars_ne_nil (placeholder : Placeholder) : placeholder.chars ≠ [] := by
  obtain ⟨c, rest, eq, -⟩ := placeholder.exists_chars_eq
  rw [eq]
  exact List.cons_ne_nil _ _

/-- No placeholder is the start of another one. -/
theorem eq_of_starts {placeholder other : Placeholder}
    (start : placeholder.chars <+: other.chars) : placeholder = other := by
  revert start
  cases placeholder <;> cases other <;> decide

/-- No placeholder starts inside another one. -/
theorem append_ne_chars_append {placeholder other : Placeholder} {before after : List Char}
    (split : placeholder.chars = before ++ after) (inside : before ≠ []) (nonempty : after ≠ [])
    (rest further : List Char) : after ++ rest ≠ other.chars ++ further := by
  obtain ⟨c, tail, eq, single⟩ := placeholder.exists_chars_eq
  obtain ⟨d, otherTail, otherEq, -⟩ := other.exists_chars_eq
  obtain ⟨first, after, rfl⟩ := List.exists_cons_of_ne_nil nonempty
  rw [eq] at split
  rw [otherEq]
  intro same
  obtain ⟨rfl, second⟩ := List.cons.inj same
  -- What is left of the placeholder starts with its second brace or holds none of the two.
  match before, inside with
  | [_], _ =>
    cases split
    have opens : c = '\x7b' := (List.cons.inj second).1
    exact single (by rw [opens]; exact List.mem_cons_self)
  | _ :: _ :: before, _ =>
    have behind : c :: tail = before ++ '\x7b' :: after :=
      (List.cons.inj (List.cons.inj split).2).2
    exact single (by rw [behind]; exact List.mem_append_right _ List.mem_cons_self)

/-- At most one placeholder stands at the start of a text. -/
theorem eq_of_both_start {placeholder other : Placeholder} {text : List Char}
    (start : placeholder.chars <+: text) (otherStart : other.chars <+: text) :
    placeholder = other := by
  rcases List.prefix_or_prefix_of_prefix start otherStart with first | first
  · exact eq_of_starts first
  · exact (eq_of_starts first).symm

/-- The placeholder at the start of a text is found. -/
theorem atStart?_eq_some_iff {text : List Char} {placeholder : Placeholder} :
    atStart? text = some placeholder ↔ placeholder.chars <+: text := by
  constructor
  · exact fun found => List.isPrefixOf_iff_prefix.1 (List.find?_some found :)
  · intro start
    have listed : placeholder ∈ [Placeholder.routerName, .moduleConstants, .dispatch] := by
      cases placeholder <;> decide
    cases found : atStart? text with
    | none =>
      have absent := List.find?_eq_none.1 found placeholder listed
      exact absurd (List.isPrefixOf_iff_prefix.2 start) absent
    | some other =>
      have otherStart := List.isPrefixOf_iff_prefix.1 (List.find?_some found :)
      rw [eq_of_both_start otherStart start]

end Placeholder

/-! ## Pieces -/

/-- A piece of a template. -/
inductive Piece where
  /-- A character that stands for itself. -/
  | char (c : Char)
  /-- A placeholder. -/
  | hole (placeholder : Placeholder)
  deriving Repr, DecidableEq

/-- What a piece is filled with, given a text for each placeholder. -/
def Piece.fill (texts : Placeholder → List Char) : Piece → List Char
  | .char c => [c]
  | .hole placeholder => texts placeholder

/-- The pieces of a text without its first `skip` characters. -/
def piecesAfter : (skip : Nat) → List Char → List Piece
  | _, [] => []
  | skip + 1, _ :: text => piecesAfter skip text
  | 0, c :: text =>
    match Placeholder.atStart? (c :: text) with
    | some placeholder => .hole placeholder :: piecesAfter (placeholder.chars.length - 1) text
    | none => .char c :: piecesAfter 0 text

/-- The pieces of a text. -/
def pieces (text : List Char) : List Piece :=
  piecesAfter 0 text

/-- A text with all of its placeholders filled at once. -/
def substitute (texts : Placeholder → List Char) (text : List Char) : List Char :=
  (pieces text).flatMap (Piece.fill texts)

/-- How often a placeholder stands in a text. -/
def occurrences (placeholder : Placeholder) (text : List Char) : Nat :=
  (pieces text).count (.hole placeholder)

/-- Characters that are passed over are as good as not there. -/
theorem piecesAfter_eq_drop (skip : Nat) (text : List Char) :
    piecesAfter skip text = pieces (text.drop skip) := by
  induction text generalizing skip with
  | nil => cases skip <;> rfl
  | cons c text ih =>
    cases skip with
    | zero => rfl
    | succ skip => exact ih skip

/-- A character at which no placeholder starts stands for itself. -/
theorem pieces_cons {c : Char} {text : List Char}
    (other : ∀ placeholder : Placeholder, ¬ placeholder.chars <+: c :: text) :
    pieces (c :: text) = .char c :: pieces text := by
  have none : Placeholder.atStart? (c :: text) = none :=
    Option.eq_none_iff_forall_ne_some.2 fun placeholder found =>
      other placeholder (Placeholder.atStart?_eq_some_iff.1 found)
  rw [pieces, piecesAfter, none, pieces]

/-- A placeholder at the start of a text is its first piece. -/
theorem pieces_chars_append (placeholder : Placeholder) (text : List Char) :
    pieces (placeholder.chars ++ text) = .hole placeholder :: pieces text := by
  obtain ⟨c, rest, eq⟩ := List.exists_cons_of_ne_nil placeholder.chars_ne_nil
  have found : Placeholder.atStart? (c :: (rest ++ text)) = some placeholder := by
    rw [Placeholder.atStart?_eq_some_iff, eq]
    exact List.prefix_append ..
  rw [eq, List.cons_append, pieces, piecesAfter, found]
  simp [eq, piecesAfter_eq_drop]

/-- What holds of the empty text and is kept when a character that stands for itself or a
placeholder is put in front holds of all texts. -/
@[elab_as_elim]
theorem pieces_induction {motive : List Char → Prop} (text : List Char) (nil : motive [])
    (char : ∀ (c : Char) (text : List Char),
      (∀ placeholder : Placeholder, ¬ placeholder.chars <+: c :: text) →
        motive text → motive (c :: text))
    (hole : ∀ (placeholder : Placeholder) (text : List Char),
      motive text → motive (placeholder.chars ++ text)) : motive text := by
  induction size : text.length using Nat.strongRecOn generalizing text with
  | ind count ih =>
    cases text with
    | nil => exact nil
    | cons c text =>
      by_cases starts : ∃ placeholder : Placeholder, placeholder.chars <+: c :: text
      · obtain ⟨placeholder, rest, split⟩ := starts
        have shorter : rest.length < count := by
          have filled := List.length_pos_iff.2 placeholder.chars_ne_nil
          rw [← size, ← split, List.length_append]
          omega
        rw [← split]
        exact hole placeholder rest (ih _ shorter rest rfl)
      · have shorter : text.length < count := by
          rw [← size, List.length_cons]
          omega
        exact char c text (not_exists.1 starts) (ih _ shorter text rfl)

/-- A text is made of its pieces. -/
theorem substitute_chars (text : List Char) : substitute Placeholder.chars text = text := by
  induction text using pieces_induction with
  | nil => rfl
  | char c text other ih =>
    rw [substitute] at ih
    rw [substitute, pieces_cons other, List.flatMap_cons, ih]
    rfl
  | hole placeholder text ih =>
    rw [substitute] at ih
    rw [substitute, pieces_chars_append, List.flatMap_cons, ih]
    rfl

/-- Placeholders do not overlap: wherever one stands in a text, it is a piece of its own. -/
theorem pieces_append_hole (before : List Char) (placeholder : Placeholder) (after : List Char) :
    pieces (before ++ placeholder.chars ++ after) =
      pieces before ++ .hole placeholder :: pieces after := by
  induction before using pieces_induction with
  | nil => exact pieces_chars_append placeholder after
  | char c before other ih =>
    have still (starting : Placeholder) :
        ¬ starting.chars <+: c :: (before ++ placeholder.chars ++ after) := by
      rintro ⟨rest, split⟩
      rw [List.append_assoc, ← List.cons_append] at split
      rcases List.append_eq_append_iff.1 split with ⟨shared, ends, -⟩ | ⟨shared, ends, same⟩
      · exact other starting ⟨shared, ends.symm⟩
      · -- It would reach into the placeholder, which would then start inside it.
        rcases eq_or_ne shared [] with rfl | nonempty
        · exact other starting ⟨[], by rw [ends, List.append_nil, List.append_nil]⟩
        · exact Placeholder.append_ne_chars_append ends (List.cons_ne_nil c before) nonempty
            rest after same.symm
    rw [List.cons_append, List.cons_append, pieces_cons still, ih, pieces_cons other]
    rfl
  | hole first before ih =>
    rw [List.append_assoc, List.append_assoc, pieces_chars_append, ← List.append_assoc, ih,
      pieces_chars_append]
    rfl

section

variable {placeholder : Placeholder} {texts : Placeholder → List Char}

/-- The pieces before and after a placeholder are filled apart. -/
theorem substitute_append_hole (texts : Placeholder → List Char) (before : List Char)
    (placeholder : Placeholder) (after : List Char) :
    substitute texts (before ++ placeholder.chars ++ after) =
      substitute texts before ++ texts placeholder ++ substitute texts after := by
  rw [substitute, pieces_append_hole, List.flatMap_append, List.flatMap_cons, List.append_assoc]
  rfl

/-- A placeholder is counted where it stands, before it and behind it. -/
theorem occurrences_append_hole (before after : List Char) :
    occurrences placeholder (before ++ placeholder.chars ++ after) =
      occurrences placeholder before + 1 + occurrences placeholder after := by
  rw [occurrences, pieces_append_hole, List.count_append, List.count_cons_self, occurrences,
    occurrences]
  omega

/-- A character that stands for itself is no placeholder. -/
theorem occurrences_cons {c : Char} {text : List Char}
    (other : ∀ placeholder : Placeholder, ¬ placeholder.chars <+: c :: text) :
    occurrences placeholder (c :: text) = occurrences placeholder text := by
  rw [occurrences, pieces_cons other, List.count_cons_of_ne (by simp), occurrences]

/-- A placeholder is no other one. -/
theorem occurrences_chars_append {other : Placeholder} (apart : other ≠ placeholder)
    (text : List Char) :
    occurrences placeholder (other.chars ++ text) = occurrences placeholder text := by
  have otherPiece : Piece.hole other ≠ .hole placeholder := fun same =>
    apart (Piece.hole.inj same)
  rw [occurrences, pieces_chars_append, List.count_cons_of_ne otherPiece, occurrences]

/-- What a placeholder is filled with does not matter where it does not stand. -/
theorem substitute_update_of_absent {text : List Char} (absent : occurrences placeholder text = 0)
    (filling : List Char) :
    substitute (Function.update texts placeholder filling) text = substitute texts text := by
  rw [substitute, substitute, List.flatMap_def, List.flatMap_def]
  congr 1
  refine List.map_congr_left fun piece mem => ?_
  cases piece with
  | char c => rfl
  | hole other =>
    have apart : other ≠ placeholder := by
      rintro rfl
      exact List.count_eq_zero.1 absent mem
    exact Function.update_of_ne apart filling texts

/-- A text in which a placeholder stands is split where it first does. -/
theorem exists_split_of_occurs {text : List Char} (occurs : occurrences placeholder text ≠ 0) :
    ∃ before after, text = before ++ placeholder.chars ++ after ∧
      occurrences placeholder before = 0 := by
  induction text using pieces_induction with
  | nil => exact absurd rfl occurs
  | char c text other ih =>
    rw [occurrences_cons other] at occurs
    obtain ⟨before, after, rfl, absent⟩ := ih occurs
    have still (starting : Placeholder) : ¬ starting.chars <+: c :: before := by
      rintro ⟨rest, split⟩
      refine other starting ⟨rest ++ (placeholder.chars ++ after), ?_⟩
      rw [← List.append_assoc, split, List.cons_append, List.append_assoc]
    exact ⟨c :: before, after, rfl, by rw [occurrences_cons still, absent]⟩
  | hole first text ih =>
    by_cases same : first = placeholder
    · exact ⟨[], text, by rw [same, List.nil_append], rfl⟩
    · rw [occurrences_chars_append same] at occurs
      obtain ⟨before, after, rfl, absent⟩ := ih occurs
      exact ⟨first.chars ++ before, after, by simp only [List.append_assoc],
        by rw [occurrences_chars_append same, absent]⟩

end

/-! ## One placeholder after the other -/

section

variable {placeholder : Placeholder} {texts : Placeholder → List Char}

/-- What holds of the texts without a placeholder and is kept when one of them is put in front of
the placeholder and a text behind it holds of all texts. -/
@[elab_as_elim]
theorem occurrence_induction {motive : List Char → Prop} (placeholder : Placeholder)
    (text : List Char) (absent : ∀ text, occurrences placeholder text = 0 → motive text)
    (split : ∀ before after, occurrences placeholder before = 0 → motive after →
      motive (before ++ placeholder.chars ++ after)) : motive text := by
  induction count : occurrences placeholder text generalizing text with
  | zero => exact absent text count
  | succ count ih =>
    obtain ⟨before, after, rfl, none⟩ :=
      exists_split_of_occurs (count ▸ Nat.succ_ne_zero _ : occurrences placeholder text ≠ 0)
    rw [occurrences_append_hole] at count
    exact split before after none (ih after (by omega))

/-- A character that stands for itself is kept. -/
theorem put_cons {c : Char} {text : List Char} (filling : String)
    (other : ∀ placeholder : Placeholder, ¬ placeholder.chars <+: c :: text) :
    Template.put placeholder filling (c :: text) = c :: Template.put placeholder filling text :=
  Text.replaceAll_cons (other placeholder)

/-- To put a text in place of a placeholder is to fill this one alone. -/
theorem put_eq_substitute (filling : String) (text : List Char) :
    Template.put placeholder filling text =
      substitute (Function.update Placeholder.chars placeholder filling.toList) text := by
  induction text using pieces_induction with
  | nil => rfl
  | char c text other ih =>
    rw [put_cons filling other, ih, substitute, substitute, pieces_cons other, List.flatMap_cons]
    rfl
  | hole first text ih =>
    have filled : substitute (Function.update Placeholder.chars placeholder filling.toList)
        (first.chars ++ text) =
          Function.update Placeholder.chars placeholder filling.toList first ++
            Template.put placeholder filling text := by
      rw [ih, substitute, substitute, pieces_chars_append, List.flatMap_cons]
      rfl
    rw [filled]
    by_cases same : first = placeholder
    · rw [same, Function.update_self]
      exact Text.replaceAll_append_self placeholder.chars_ne_nil text
    · rw [Function.update_of_ne same]
      refine Text.replaceAll_append fun before after split nonempty starts => ?_
      obtain ⟨rest, starts⟩ := starts
      rcases eq_or_ne before [] with rfl | inside
      · rw [List.nil_append] at split
        rw [← split] at starts
        exact same (Placeholder.eq_of_both_start ⟨text, rfl⟩ ⟨rest, starts⟩)
      · exact Placeholder.append_ne_chars_append split inside nonempty text rest starts.symm

/-- A placeholder that is not filled is not lost. -/
theorem occurrences_le_substitute (kept : texts placeholder = placeholder.chars)
    (text : List Char) :
    occurrences placeholder text ≤ occurrences placeholder (substitute texts text) := by
  induction text using occurrence_induction placeholder with
  | absent text none => omega
  | split before after none ih =>
    rw [substitute_append_hole, kept, occurrences_append_hole, occurrences_append_hole]
    omega

/-- How long a text gets when one more placeholder is filled. -/
theorem length_substitute_update (kept : texts placeholder = placeholder.chars)
    (filling text : List Char) :
    (substitute (Function.update texts placeholder filling) text).length +
        occurrences placeholder text * placeholder.chars.length =
      (substitute texts text).length + occurrences placeholder text * filling.length := by
  induction text using occurrence_induction placeholder with
  | absent text none => rw [substitute_update_of_absent none, none, Nat.zero_mul, Nat.zero_mul]
  | split before after none ih =>
    rw [substitute_append_hole, substitute_append_hole, occurrences_append_hole, none,
      substitute_update_of_absent none, Function.update_self, kept]
    simp only [List.length_append, Nat.zero_add, Nat.add_mul, Nat.one_mul]
    omega

/-- A placeholder that does not stand in a text is not replaced. -/
theorem put_of_absent (filling : String) {text : List Char}
    (absent : occurrences placeholder text = 0) :
    Template.put placeholder filling text = text := by
  rw [put_eq_substitute, substitute_update_of_absent absent, substitute_chars]

/-- The texts before and after a placeholder are filled apart. -/
theorem put_append_hole (filling : String) (before after : List Char) :
    Template.put placeholder filling (before ++ placeholder.chars ++ after) =
      Template.put placeholder filling before ++ filling.toList ++
        Template.put placeholder filling after := by
  simp only [put_eq_substitute, substitute_append_hole, Function.update_self]

/-- How long a text gets when a placeholder is filled. -/
theorem length_put (placeholder : Placeholder) (filling : String) (text : List Char) :
    (Template.put placeholder filling text).length +
        occurrences placeholder text * placeholder.chars.length =
      text.length + occurrences placeholder text * filling.toList.length := by
  have kept : Placeholder.chars placeholder = placeholder.chars := rfl
  have total := length_substitute_update kept filling.toList text
  rwa [substitute_chars, ← put_eq_substitute] at total

/-- A text is as it was after a placeholder has been filled with as many characters only if the
placeholder is filled with itself or does not stand there. -/
theorem absent_of_put_eq_self {filling : String}
    (size : filling.toList.length = placeholder.chars.length)
    (other : filling.toList ≠ placeholder.chars) {text : List Char}
    (same : Template.put placeholder filling text = text) : occurrences placeholder text = 0 := by
  by_contra occurs
  obtain ⟨before, after, rfl, none⟩ := exists_split_of_occurs occurs
  rw [put_append_hole, put_of_absent filling none, List.append_assoc, List.append_assoc] at same
  exact other (List.append_inj_left (List.append_cancel_left same) size)

/-- A placeholder that is filled with as many characters, once together with others and once after
them, tells the one from the other wherever it is new. -/
theorem occurrences_of_put_substitute_eq (kept : texts placeholder = placeholder.chars)
    {filling : String} (size : filling.toList.length = placeholder.chars.length)
    (other : filling.toList ≠ placeholder.chars) {text : List Char}
    (same : Template.put placeholder filling (substitute texts text) =
      substitute (Function.update texts placeholder filling.toList) text) :
    occurrences placeholder (substitute texts text) = occurrences placeholder text := by
  induction text using occurrence_induction placeholder with
  | absent text none =>
    rw [substitute_update_of_absent none] at same
    rw [none, absent_of_put_eq_self size other same]
  | split before after none ih =>
    rw [substitute_append_hole, substitute_append_hole, kept, put_append_hole, Function.update_self,
      substitute_update_of_absent none, List.append_assoc, List.append_assoc] at same
    have frontSize := length_put placeholder filling (substitute texts before)
    rw [size] at frontSize
    obtain ⟨front, rest⟩ := List.append_inj same (Nat.add_right_cancel frontSize)
    rw [substitute_append_hole, kept, occurrences_append_hole, occurrences_append_hole, none,
      absent_of_put_eq_self size other front, ih (List.append_cancel_left rest)]

/-- To fill one more placeholder later is to fill it together with the others, if these have made no
new ones of it. -/
theorem put_substitute_eq (kept : texts placeholder = placeholder.chars) (filling : String)
    {text : List Char}
    (none : occurrences placeholder (substitute texts text) = occurrences placeholder text) :
    Template.put placeholder filling (substitute texts text) =
      substitute (Function.update texts placeholder filling.toList) text := by
  induction text using occurrence_induction placeholder with
  | absent text absent =>
    rw [absent] at none
    rw [put_of_absent filling none, substitute_update_of_absent absent]
  | split before after absent ih =>
    rw [substitute_append_hole, kept, occurrences_append_hole, occurrences_append_hole,
      absent] at none
    have later := occurrences_le_substitute kept after
    rw [substitute_append_hole, substitute_append_hole, kept, put_append_hole, Function.update_self,
      substitute_update_of_absent absent, put_of_absent filling (by omega), ih (by omega)]

/-- To fill one more placeholder later is to fill it together with the others exactly if it is
filled with itself or these have made no new ones of it. -/
theorem put_substitute_iff (kept : texts placeholder = placeholder.chars) (filling : String)
    (text : List Char) :
    Template.put placeholder filling (substitute texts text) =
        substitute (Function.update texts placeholder filling.toList) text ↔
      filling.toList = placeholder.chars ∨
        occurrences placeholder (substitute texts text) = occurrences placeholder text := by
  constructor
  · intro same
    rw [or_iff_not_imp_left]
    intro other
    by_cases size : filling.toList.length = placeholder.chars.length
    · exact occurrences_of_put_substitute_eq kept size other same
    · -- Every new placeholder changes the length of the text by the same amount.
      have together := length_substitute_update kept filling.toList text
      have later := length_put placeholder filling (substitute texts text)
      obtain ⟨new, grown⟩ := Nat.exists_eq_add_of_le (occurrences_le_substitute kept text)
      rw [same, grown, Nat.add_mul, Nat.add_mul] at later
      have balanced : new * filling.toList.length = new * placeholder.chars.length := by omega
      rcases Nat.eq_zero_or_pos new with rfl | some
      · exact grown
      · exact absurd (Nat.eq_of_mul_eq_mul_left some balanced) size
  · rintro (own | none)
    · rw [put_eq_substitute, own, Function.update_eq_self, substitute_chars, ← kept,
        Function.update_eq_self]
    · exact put_substitute_eq kept filling none

end

/-! ## Templates -/

/-- What the placeholders are filled with. -/
def fillings (routerName constants dispatch : String) : Placeholder → List Char
  | .routerName => routerName.toList
  | .moduleConstants => constants.toList
  | .dispatch => dispatch.toList

namespace Template

/-- The source of a router with all placeholders found in the template itself, so that nothing that
is put in is looked at again. -/
def filledAtOnce (template : Template) (routerName constants dispatch : String) : String :=
  String.ofList (substitute (fillings routerName constants dispatch) template.source.toList)

/-- Whether a text has a placeholder just as often as the template it comes from. -/
def MakesNo (template : Template) (placeholder : Placeholder) (text : String) : Prop :=
  occurrences placeholder text.toList = occurrences placeholder template.source.toList

end Template

section

variable (routerName constants dispatch : String) (source : List Char)

/-- The name is filled while the other two placeholders stay. -/
theorem put_routerName_eq :
    Template.put .routerName routerName source =
      substitute (fillings routerName Placeholder.moduleConstants.toText
        Placeholder.dispatch.toText) source := by
  have named : Function.update Placeholder.chars .routerName routerName.toList =
      fillings routerName Placeholder.moduleConstants.toText Placeholder.dispatch.toText := by
    funext placeholder
    cases placeholder <;> rfl
  rw [put_eq_substitute, named]

/-- The constants are filled behind the name as if both were filled at once. -/
theorem put_moduleConstants_iff :
    Template.put .moduleConstants constants (substitute (fillings routerName
        Placeholder.moduleConstants.toText Placeholder.dispatch.toText) source) =
      substitute (fillings routerName constants Placeholder.dispatch.toText) source ↔
    constants = Placeholder.moduleConstants.toText ∨
      occurrences .moduleConstants (substitute (fillings routerName
        Placeholder.moduleConstants.toText Placeholder.dispatch.toText) source) =
        occurrences .moduleConstants source := by
  have both : Function.update (fillings routerName Placeholder.moduleConstants.toText
        Placeholder.dispatch.toText) .moduleConstants constants.toList =
      fillings routerName constants Placeholder.dispatch.toText := by
    funext placeholder
    cases placeholder <;> rfl
  have kept : fillings routerName Placeholder.moduleConstants.toText Placeholder.dispatch.toText
      .moduleConstants = Placeholder.moduleConstants.chars := rfl
  rw [← both, put_substitute_iff kept, Placeholder.chars, String.toList_inj]

/-- The table is filled behind the others as if all were filled at once. -/
theorem put_dispatch_iff :
    Template.put .dispatch dispatch
        (substitute (fillings routerName constants Placeholder.dispatch.toText) source) =
      substitute (fillings routerName constants dispatch) source ↔
    dispatch = Placeholder.dispatch.toText ∨
      occurrences .dispatch
        (substitute (fillings routerName constants Placeholder.dispatch.toText) source) =
        occurrences .dispatch source := by
  have all : Function.update (fillings routerName constants Placeholder.dispatch.toText) .dispatch
      dispatch.toList = fillings routerName constants dispatch := by
    funext placeholder
    cases placeholder <;> rfl
  have kept : fillings routerName constants Placeholder.dispatch.toText .dispatch =
      Placeholder.dispatch.chars := rfl
  rw [← all, put_substitute_iff kept, Placeholder.chars, String.toList_inj]

end

/-- A template is filled as if all of its placeholders were filled at once, whatever table is put
in, exactly if no placeholder is made on the way: the name makes no new place for the constants, or
one that these leave as it is, and the name and the constants make no new place for the table. -/
theorem fill_verbatim_iff (template : Template) (routerName constants : String) :
    (∀ dispatch, template.fill routerName constants dispatch =
        template.filledAtOnce routerName constants dispatch) ↔
      (constants = Placeholder.moduleConstants.toText ∨
        template.MakesNo .moduleConstants (template.filledAtOnce routerName
          Placeholder.moduleConstants.toText Placeholder.dispatch.toText)) ∧
      template.MakesNo .dispatch
        (template.filledAtOnce routerName constants Placeholder.dispatch.toText) := by
  simp only [Template.fill, Template.filledAtOnce, Template.MakesNo, String.toList_ofList,
    String.ofList_inj, put_routerName_eq]
  constructor
  · intro verbatim
    -- Put in place of itself, the placeholder of the table shows what the step before has left.
    have left := verbatim Placeholder.dispatch.toText
    have own : Placeholder.dispatch.toText.toList = Placeholder.chars .dispatch := rfl
    rw [put_eq_substitute, own, Function.update_eq_self, substitute_chars] at left
    have erased := verbatim ""
    rw [left, put_dispatch_iff] at erased
    exact ⟨(put_moduleConstants_iff ..).1 left, erased.resolve_left (by decide)⟩
  · rintro ⟨constantsKept, dispatchKept⟩ dispatch
    rw [(put_moduleConstants_iff ..).2 constantsKept, (put_dispatch_iff ..).2 (.inr dispatchKept)]

/-- A template of the three placeholders between bars. -/
def barredTemplate : Template :=
  ⟨Placeholder.routerName.toText ++ "|" ++ Placeholder.moduleConstants.toText ++ "|" ++
    Placeholder.dispatch.toText, 0, 0⟩

/-- Where a router is named like the place for the table, the table is put in for its name. -/
theorem table_replaces_name :
    Template.ofSource barredTemplate.source 0 0 = .ok barredTemplate ∧
      barredTemplate.fill Placeholder.dispatch.toText "constants" "table" =
        "table|constants|table" ∧
      barredTemplate.filledAtOnce Placeholder.dispatch.toText "constants" "table" =
        "\x7b\x7bdispatch\x7d\x7d|constants|table" :=
  ⟨rfl, rfl, rfl⟩

end ModularRouter.Router
