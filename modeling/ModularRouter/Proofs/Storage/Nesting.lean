import ModularRouter.Proofs.Storage.Displacement

/-!
# Values inside other values

A value may lie inside mappings, arrays and structs, in any order and to any depth. A `Frame` is one
of these around a value, and `enclose` puts a value into several of them. A comparison never loses
sight of what is inside: a breaking difference between two values breaks whatever they are enclosed
in, as long as both are found by the same steps (`enclosed_clash_breaks`).

The frames of the two versions may differ in everything but these steps. Frames that do not differ
break nothing of their own, except that a value of another size displaces others.
-/

namespace ModularRouter.Storage

/-! ## Frames -/

/-- What is right around a value. -/
inductive Frame where
  /-- A mapping that has the value behind its keys. -/
  | mapping (name : Option String) (key : Builtin)
  /-- An array that has the value as its element. -/
  | array (name : Option String) (length : Option Nat)
  /-- A struct that has the value as a member, behind some members and before others. -/
  | struct (structName : String) (name : Option String) (before after : List Shape)
      (slots : Option Nat)

namespace Frame

/-- A frame with a value inside it. -/
def around (value : Shape) : Frame → Shape
  | .mapping name key => .mapping name key value
  | .array name length => .array name value length
  | .struct structName name before after slots =>
    .struct structName name (before ++ value :: after) slots

/-- The step from a frame to the value inside it. -/
def step : Frame → Step
  | .mapping .. => .key
  | .array .. => .element 0
  | .struct _ _ before _ _ => .member before.length

/-- The step of a frame leads to the value inside it. -/
theorem part?_around (frame : Frame) (value : Shape) :
    (frame.around value).part? frame.step = some value := by
  cases frame with
  | mapping | array => rfl
  | struct structName name before after slots =>
    unfold around step Shape.part?
    simp

/-- What is inside a frame makes no difference to its name. -/
theorem name?_around (frame : Frame) (old new : Shape) :
    (frame.around old).name? = (frame.around new).name? := by
  cases frame <;> rfl

end Frame

/-- A value inside frames, of which the first one is the outermost. -/
def enclose (frames : List Frame) (value : Shape) : Shape :=
  frames.foldr (fun frame inner => frame.around inner) value

/-- The steps of frames lead to the value inside them. -/
theorem at?_enclose (frames : List Frame) (value : Shape) :
    (enclose frames value).at? (frames.map Frame.step) = some value := by
  induction frames with
  | nil => rfl
  | cons frame rest ih =>
    have inside := frame.part?_around (enclose rest value)
    calc (enclose (frame :: rest) value).at? ((frame :: rest).map Frame.step)
        = (enclose rest value).at? (rest.map Frame.step) := Shape.at?_cons inside _
      _ = some value := ih

/-! ## Values inside the same frames -/

/-- No part of a shape is at another place than itself. -/
theorem not_displaced_self (shape : Shape) : ¬ Displaced shape shape := by
  intro displaced
  cases shape with
  | builtin | mapping | enum => exact displaced
  | array name value length => exact displaced.1 rfl
  | struct structName name members slots =>
    obtain ⟨index, -, moved⟩ := displaced
    exact moved rfl

/-- Shapes are compatible with themselves. -/
theorem Compatible.refl (shape : Shape) : Compatible shape shape := by
  have stays : ¬ DisplacedWithin shape shape := by
    rintro ⟨path, oldPart, newPart, oldAt, newAt, displaced⟩
    obtain rfl : oldPart = newPart := Option.some.inj (oldAt.symm.trans newAt)
    exact not_displaced_self oldPart displaced
  exact (compatible_iff_not_displacedWithin rfl).2 stays

/-- Members at one index of two lists that differ in one member are the same, unless they are that
member. -/
theorem eq_or_eq_of_getElem? {before after : List Shape} {old new oldPart newPart : Shape}
    {index : Nat} (oldAt : (before ++ old :: after)[index]? = some oldPart)
    (newAt : (before ++ new :: after)[index]? = some newPart) :
    oldPart = newPart ∨ oldPart = old ∧ newPart = new := by
  -- The members in front are the same, the next one is the one that differs, and so on behind it.
  rcases Nat.lt_or_ge index before.length with ahead | behind
  · rw [List.getElem?_append_left ahead] at oldAt newAt
    exact .inl (Option.some.inj (oldAt.symm.trans newAt))
  · rw [List.getElem?_append_right behind, List.getElem?_cons] at oldAt newAt
    by_cases here : index - before.length = 0
    · rw [if_pos here, Option.some.injEq] at oldAt newAt
      exact .inr ⟨oldAt.symm, newAt.symm⟩
    · rw [if_neg here] at oldAt newAt
      exact .inl (Option.some.inj (oldAt.symm.trans newAt))

/-- Values of one name are compatible inside one frame exactly when they are on their own and
nothing is displaced in the frame. -/
theorem Frame.compatible_around_iff (frame : Frame) {old new : Shape}
    (named : old.name? = new.name?) :
    Compatible (frame.around old) (frame.around new) ↔
      Compatible old new ∧ ¬ Displaced (frame.around old) (frame.around new) := by
  constructor
  · intro compatible
    exact ⟨compatible.part frame.step (frame.part?_around old) (frame.part?_around new),
      compatible.not_displaced⟩
  · rintro ⟨compatible, stays⟩
    cases frame with
    | mapping name key => exact .mapping (.inl rfl) compatible
    | array name length =>
      refine .array ?_ compatible
      by_contra other
      simp only [not_or, Bool.not_eq_true] at other
      exact stays other
    | struct structName name before after slots =>
      refine compatible_struct_iff.2 ⟨?names, ?places, ?shapes⟩
      case names =>
        intro index oldPart newPart oldAt newAt
        apply keepsName_of_name?_eq
        rcases eq_or_eq_of_getElem? oldAt newAt with rfl | ⟨rfl, rfl⟩
        · rfl
        · exact named
      case places =>
        intro index inside
        by_contra moved
        exact stays ⟨index, inside, moved⟩
      case shapes =>
        intro index oldPart newPart oldAt newAt
        rcases eq_or_eq_of_getElem? oldAt newAt with rfl | ⟨rfl, rfl⟩
        · exact .refl _
        · exact compatible

/-- Values of one name have one name inside the same frames. -/
theorem name?_enclose (frames : List Frame) {old new : Shape} (named : old.name? = new.name?) :
    (enclose frames old).name? = (enclose frames new).name? := by
  cases frames with
  | nil => exact named
  | cons frame rest => exact frame.name?_around _ _

/-- Values of one name are compatible inside the same frames exactly when they are on their own and
nothing is displaced anywhere inside the outermost frame. -/
theorem compatible_enclose_iff (frames : List Frame) {old new : Shape}
    (named : old.name? = new.name?) :
    Compatible (enclose frames old) (enclose frames new) ↔
      Compatible old new ∧ ¬ DisplacedWithin (enclose frames old) (enclose frames new) := by
  induction frames with
  | nil => exact (and_iff_left_of_imp Compatible.not_displacedWithin).symm
  | cons frame rest ih =>
    have outer := frame.compatible_around_iff (name?_enclose rest named)
    constructor
    · intro compatible
      exact ⟨(ih.1 (outer.1 compatible).1).1, compatible.not_displacedWithin⟩
    · rintro ⟨compatible, stays⟩
      have inner : Compatible (enclose rest old) (enclose rest new) := by
        refine ih.2 ⟨compatible, fun displaced => stays ?_⟩
        exact displaced.of_part frame.step (frame.part?_around _) (frame.part?_around _)
      exact outer.2 ⟨inner, fun displaced => stays displaced.within⟩

/-! ## Values inside different frames -/

/-- What is compatible around two values is compatible in the values, however their frames differ,
as long as the same steps lead to the values. -/
theorem Compatible.of_enclose {olds news : List Frame}
    (alike : olds.map Frame.step = news.map Frame.step) {old new : Shape}
    (compatible : Compatible (enclose olds old) (enclose news new)) : Compatible old new := by
  have newAt : (enclose news new).at? (olds.map Frame.step) = some new := by
    rw [alike, at?_enclose]
  exact compatible.along _ (at?_enclose olds old) newAt

/-- Let the comparison of two values find a breaking difference, and let the values be enclosed in
any number of mappings, arrays and structs, each in frames of its own that are entered by the same
steps. Then the comparison of what encloses them finds a breaking difference, and so does that of
two dumps in which this is a member, at one index, of two structs that are compared. If the frames
are the same for both and the values have one name, the frames add nothing: what encloses them
breaks exactly when the values do or something inside the frames is displaced. -/
theorem enclosed_clash_breaks (old new : Shape) (olds news : List Frame)
    (alike : olds.map Frame.step = news.map Frame.step) (text outerText : String) :
    (¬ Harmless (Comparison.shapeChanges text old new) →
      ¬ Harmless (Comparison.shapeChanges outerText (enclose olds old) (enclose news new)) ∧
      ∀ (previous current : Dump) (before after : StructLayout) (index : Nat),
        previous.Pairs current before after →
        before.members[index]? = some (enclose olds old) →
        after.members[index]? = some (enclose news new) →
        ¬ Harmless (compare? (some previous) current)) ∧
    (olds = news → old.name? = new.name? →
      (¬ Harmless (Comparison.shapeChanges outerText (enclose olds old) (enclose news new)) ↔
        ¬ Harmless (Comparison.shapeChanges text old new) ∨
          DisplacedWithin (enclose olds old) (enclose news new))) := by
  simp only [Comparison.shapeChanges_harmless_iff]
  refine ⟨fun clash => ⟨fun compatible => clash (compatible.of_enclose alike), ?dumps⟩, ?same⟩
  case dumps =>
    intro previous current before after index paired oldAt newAt harmless
    -- Harmless dumps have compatible members, from which the frames lead on to the values.
    have oldInside : before.shape.part? (.member index) = some (enclose olds old) := oldAt
    have newInside : after.shape.part? (.member index) = some (enclose news new) := newAt
    have members : Compatible (enclose olds old) (enclose news new) :=
      paired.compatible_of_harmless harmless [.member index] (Shape.at?_cons oldInside [])
        (Shape.at?_cons newInside [])
    exact clash (members.of_enclose alike)
  case same =>
    rintro rfl named
    rw [compatible_enclose_iff olds named, not_and_or, not_not]

/-! ## Prices -/

/-- The price of an order, which is cut to half a word by an upgrade. -/
def price (valueType : String) : Shape :=
  .builtin { valueType, name := some "price" }

/-- What is around the price before the upgrade: it is the second member of an order, and the orders
of an account are kept in a list. -/
def priceBefore : List Frame :=
  [.mapping (some "orders") { valueType := "address" }, .array none none,
    .struct "Order" none [.builtin { valueType := "bool", name := some "open" }] [] none]

/-- What is around the price after the upgrade. -/
def priceAfter : List Frame :=
  [.mapping (some "book") { valueType := "uint256" }, .array none (some 8),
    .struct "Offer" none [.builtin { valueType := "address", name := some "owner" }]
      [.enum "Side" (some "side") ["Buy", "Sell"]] none]

/-- A price of half the size is noticed behind keys of another type, in lists of another length and
in orders of another name and other members. -/
theorem enclosed_price_is_noticed :
    priceBefore.map Frame.step = priceAfter.map Frame.step ∧
      ¬ Harmless (compare?
        (some (marketDump ⟨"Data", [enclose priceBefore (price "uint256")]⟩))
        (marketDump ⟨"Data", [enclose priceAfter (price "uint128")]⟩)) := by
  have alike : priceBefore.map Frame.step = priceAfter.map Frame.step := by decide
  obtain ⟨noticed, -⟩ := enclosed_clash_breaks (price "uint256") (price "uint128") priceBefore
    priceAfter alike "" ""
  have clash : ¬ Harmless (Comparison.shapeChanges "" (price "uint256") (price "uint128")) := by
    decide +kernel
  have paired : (marketDump ⟨"Data", [enclose priceBefore (price "uint256")]⟩).Pairs
      (marketDump ⟨"Data", [enclose priceAfter (price "uint128")]⟩)
      ⟨"Data", [enclose priceBefore (price "uint256")]⟩
      ⟨"Data", [enclose priceAfter (price "uint128")]⟩ :=
    ⟨_, List.mem_singleton_self _, _, rfl, List.mem_singleton_self _, rfl⟩
  exact ⟨alike, (noticed clash).2 _ _ _ _ 0 paired rfl rfl⟩

end ModularRouter.Storage
