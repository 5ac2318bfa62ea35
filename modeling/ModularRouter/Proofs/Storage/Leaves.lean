import ModularRouter.Proofs.Storage.Addresses

/-!
# Leaves of a struct

A struct is laid out down to its leaves: values of elementary types, enumerations, mappings, arrays
of no fixed length, and structs of which nothing but a count of words is known. `Located.inside?`
walks to them through structs and arrays of fixed length, adding up where these start.
`leaves_stand_apart` says that no byte belongs to two leaves, that a word is only shared inside one
struct or array, and that no leaf reaches behind the words that the struct takes.

The proof goes from one level to all of them. The parts of a struct or an array stand inside its
words (`Shape.HasPart.stop_le`) and apart from each other (`Shape.HasPart.apart`), so what two paths
lead to is apart from where the paths part (`Located.IsLaidOut.apart`).
-/

namespace ModularRouter.Storage

/-! ## Walking to leaves -/

namespace Shape

/-- Whether a value is not laid out further. A struct without members is as large as its count of
words says, with nothing known about what is inside; what a mapping or an array of no fixed length
holds stands elsewhere. -/
def isLeaf : Shape → Bool
  | .struct _ _ members _ => members.isEmpty
  | .array _ _ (some _) => false
  | .builtin _ | .mapping .. | .array _ _ none | .enum .. => true

/-- The part that a step leads to inside the words of a value, told from the first of them. -/
def ownPart? (shape : Shape) (step : Step) : Option Located :=
  if shape.isLeaf then none
  else
    match shape.position? step, shape.part? step with
    | some position, some part => some ⟨position, part⟩
    | _, _ => none

mutual

/-- Whether the words of all structs and of all arrays of fixed length that are laid out inside a
value can be counted. -/
def isCountable : Shape → Bool
  | .struct _ _ members _ =>
    areCountable members && wordsOf (members.map footprint) < Nat.pow 2 64
  | .array _ value (some length) =>
    value.isCountable &&
      match value.footprint with
      | .bytes _ => true
      | .slots count => count * length < Nat.pow 2 64
  | .builtin _ | .mapping .. | .array _ _ none | .enum .. => true

/-- Whether the words of all structs and of all arrays of fixed length that are laid out inside some
values can be counted. -/
def areCountable : List Shape → Bool
  | [] => true
  | shape :: rest => shape.isCountable && areCountable rest

end

/-- Values can be counted together when each of them can. -/
theorem areCountable_iff (shapes : List Shape) :
    areCountable shapes = true ↔ ∀ shape ∈ shapes, shape.isCountable = true := by
  induction shapes with
  | nil => simp [areCountable]
  | cons shape rest ih => simp [areCountable, ih]

/-- A struct can be counted when its members can and its own words can. -/
theorem isCountable_struct_iff {structName : String} {name : Option String} {members : List Shape}
    {slots : Option Nat} : (struct structName name members slots).isCountable = true ↔
      (∀ member ∈ members, member.isCountable = true) ∧
        wordsOf (members.map footprint) < Nat.pow 2 64 := by
  rw [isCountable, Bool.and_eq_true, areCountable_iff, decide_eq_true_eq]

/-- The words of an array that can be counted are fewer than the greatest count. -/
theorem count_lt_of_isCountable {name : Option String} {value : Shape} {length : Nat}
    (countable : (array name value (some length)).isCountable = true) {count : Nat}
    (own : value.footprint = .slots count) : count * length < Nat.pow 2 64 := by
  rw [isCountable, own, Bool.and_eq_true, decide_eq_true_eq] at countable
  exact countable.2

/-- A value that is laid out further takes words of its own. -/
theorem exists_slots_of_isLeaf_eq_false {shape : Shape} (parts : shape.isLeaf = false) :
    ∃ count, shape.footprint = .slots count := by
  cases shape with
  | struct structName name members slots =>
    have nonempty : members ≠ [] := List.isEmpty_eq_false_iff.1 parts
    exact ⟨_, footprint_struct structName name (.inl nonempty)⟩
  | array name value length =>
    cases length with
    | none => cases parts
    | some length => exact ⟨_, rfl⟩
  | builtin _ | mapping _ _ _ | enum _ _ _ => cases parts

/-- A step leads from a leaf to nothing. -/
theorem ownPart?_eq_none_of_isLeaf {shape : Shape} (leaf : shape.isLeaf = true) (step : Step) :
    shape.ownPart? step = none :=
  if_pos leaf

end Shape

namespace Located

/-- A value some words further. -/
def shift (value : Located) (words : Nat) : Located :=
  ⟨value.position.shift words, value.shape⟩

/-- The part of a value that a step leads to. -/
def part? (value : Located) (step : Step) : Option Located :=
  (value.shape.ownPart? step).map fun part => part.shift value.position.slot

/-- The value that a path leads to inside the words of a value. -/
def inside? (value : Located) : List Step → Option Located
  | [] => some value
  | step :: rest => (value.part? step).bind fun part => part.inside? rest

/-- A path is walked in two pieces. -/
theorem inside?_append (value : Located) (path rest : List Step) :
    value.inside? (path ++ rest) = (value.inside? path).bind fun inner => inner.inside? rest := by
  induction path generalizing value with
  | nil => rfl
  | cons step path ih =>
    rw [List.cons_append, inside?, inside?, Option.bind_assoc]
    exact Option.bind_congr fun part _ => ih part

/-- The byte behind a value. -/
def stop (value : Located) : Nat :=
  value.position.stop value.shape.footprint

/-- Whether a byte belongs to a value. -/
def Covers (value : Located) (byte : Nat) : Prop :=
  value.position.address ≤ byte ∧ byte < value.stop

/-- Whether some byte of a word belongs to a value. -/
def StandsIn (value : Located) (word : Nat) : Prop :=
  ∃ byte, value.Covers byte ∧ byte / 32 = word

/-- Whether all bytes of a value are among those of another one. -/
def Within (value outer : Located) : Prop :=
  outer.position.address ≤ value.position.address ∧ value.stop ≤ outer.stop

/-- Whether one of two values ends before the other one starts. -/
def Apart (value other : Located) : Prop :=
  value.stop ≤ other.position.address ∨ other.stop ≤ value.position.address

/-- The end of a value some words further. -/
theorem stop_shift (value : Located) (words : Nat) :
    (value.shift words).stop = 32 * words + value.stop :=
  Position.stop_shift _ _ _

/-- Values that are apart are so some words further. -/
theorem Apart.shift {value other : Located} (apart : value.Apart other) (words : Nat) :
    (value.shift words).Apart (other.shift words) := by
  have moved (moving : Located) :
      (moving.shift words).position.address = 32 * words + moving.position.address :=
    Position.address_shift _ _
  rw [Apart, stop_shift, stop_shift, moved, moved]
  exact apart.imp (Nat.add_le_add_left · _) (Nat.add_le_add_left · _)

/-- Values inside values that are apart are apart. -/
theorem Apart.within {value other outer otherOuter : Located} (apart : outer.Apart otherOuter)
    (inside : value.Within outer) (otherInside : other.Within otherOuter) : value.Apart other := by
  obtain ⟨start, ends⟩ := inside
  obtain ⟨otherStart, otherEnds⟩ := otherInside
  rcases apart with before | behind
  · exact .inl (Nat.le_trans ends (Nat.le_trans before otherStart))
  · exact .inr (Nat.le_trans otherEnds (Nat.le_trans behind start))

/-- No byte belongs to two values that are apart. -/
theorem Apart.not_covers {value other : Located} (apart : value.Apart other) {byte : Nat}
    (covers : value.Covers byte) : ¬ other.Covers byte := by
  rintro ⟨otherStart, otherEnds⟩
  obtain ⟨start, ends⟩ := covers
  rcases apart with before | behind <;> omega

end Located

/-! ## One level -/

namespace Shape

/-- The parts that are laid out inside a value: the members of a struct and the elements of an
array of fixed length. -/
inductive HasPart : Shape → Step → Located → Prop where
  /-- The member of a struct stands where it is packed. -/
  | member {structName : String} {name : Option String} {members : List Shape}
      {slots : Option Nat} {index : Nat} {position : Position} {member : Shape}
      (place : (packing members).positions[index]? = some position)
      (own : members[index]? = some member) :
      HasPart (struct structName name members slots) (.member index) ⟨position, member⟩
  /-- The element of an array stands where its index says. -/
  | element {name : Option String} {value : Shape} {length index : Nat} (inside : index < length) :
      HasPart (array name value (some length)) (.element index)
        ⟨elementPosition value.footprint index, value⟩

section

variable {shape : Shape} {step : Step} {part : Located}

/-- What a step leads to inside a value is laid out there. -/
theorem hasPart_of_ownPart? (found : shape.ownPart? step = some part) :
    shape.HasPart step part := by
  rw [ownPart?] at found
  split at found
  · cases found
  · next parts =>
    split at found
    · next position member place own =>
      cases found
      cases shape with
      | struct structName name members slots =>
        cases step with
        | member index => exact .member place own
        | element _ | key => cases own
      | array name value length =>
        cases length with
        | none => exact absurd rfl parts
        | some length =>
          cases step with
          | element index =>
            cases own
            rw [position?] at place
            split at place
            · next inside =>
              cases place
              exact .element inside
            · cases place
          | member _ | key => cases own
      | mapping name key value => exact absurd rfl parts
      | builtin _ | enum _ _ _ => cases own
    · cases found

/-- Every part that is laid out inside a value is found by its step. -/
theorem HasPart.ownPart?_eq (has : shape.HasPart step part) : shape.ownPart? step = some part := by
  cases has with
  | @member structName name members slots index position member place own =>
    have parts : ¬ (struct structName name members slots).isLeaf = true := by
      rw [isLeaf, List.isEmpty_iff]
      rintro rfl
      cases own
    rw [ownPart?, if_neg parts, position?, place, part?, own]
  | @element name value length index inside =>
    have parts : ¬ (array name value (some length)).isLeaf = true := Bool.false_ne_true
    rw [ownPart?, if_neg parts, position?, if_pos inside, part?]

/-- Steps lead to all that is laid out inside a value, and to nothing else. -/
theorem ownPart?_eq_some_iff : shape.ownPart? step = some part ↔ shape.HasPart step part :=
  ⟨hasPart_of_ownPart?, HasPart.ownPart?_eq⟩

/-- A part stands where it may. -/
theorem HasPart.suits (has : shape.HasPart step part) (countable : shape.isCountable = true) :
    part.position.Suits part.shape.footprint := by
  cases has with
  | member place own =>
    exact (suits_of_packing (isCountable_struct_iff.1 countable).2 own place).1
  | element inside => exact suits_elementPosition _

/-- A part ends inside the words of its value. -/
theorem HasPart.stop_le (has : shape.HasPart step part) (countable : shape.isCountable = true) :
    ∃ count, shape.footprint = .slots count ∧ part.stop ≤ 32 * count := by
  cases has with
  | @member structName name members slots index position member place own =>
    have nonempty : members ≠ [] := by
      rintro rfl
      cases own
    refine ⟨_, footprint_struct structName name (.inl nonempty), ?_⟩
    calc position.stop member.footprint ≤ 32 * (packing members).slots :=
          (suits_of_packing (isCountable_struct_iff.1 countable).2 own place).2
      _ ≤ 32 * max 1 (packing members).slots := Nat.mul_le_mul_left _ (Nat.le_max_right _ _)
  | element inside =>
    exact ⟨_, rfl, stop_elementPosition_le inside fun count => count_lt_of_isCountable countable⟩

/-- The words inside a part can be counted if those inside its value can. -/
theorem HasPart.isCountable (has : shape.HasPart step part)
    (countable : shape.isCountable = true) : part.shape.isCountable = true := by
  cases has with
  | member place own =>
    exact (isCountable_struct_iff.1 countable).1 _ (List.mem_of_getElem? own)
  | element inside =>
    rw [Shape.isCountable, Bool.and_eq_true] at countable
    exact countable.1

/-- Different steps lead to parts that are apart. -/
theorem HasPart.apart {otherStep : Step} {otherPart : Located} (has : shape.HasPart step part)
    (otherHas : shape.HasPart otherStep otherPart) (different : step ≠ otherStep)
    (countable : shape.isCountable = true) : part.Apart otherPart := by
  cases has with
  | @member _ _ _ _ index _ _ place own =>
    have fits := (isCountable_struct_iff.1 countable).2
    cases otherHas with
    | @member _ _ _ _ other _ _ otherPlace otherOwn =>
      have apart : index ≠ other := fun same => different (by rw [same])
      rcases Nat.lt_or_gt_of_ne apart with before | behind
      · exact .inl (stop_le_of_lt_packing fits before own otherOwn place otherPlace)
      · exact .inr (stop_le_of_lt_packing fits behind otherOwn own otherPlace place)
  | @element _ _ _ index inside =>
    cases otherHas with
    | @element _ _ _ other otherInside =>
      have apart : index ≠ other := fun same => different (by rw [same])
      rcases Nat.lt_or_gt_of_ne apart with before | behind
      · exact .inl (stop_le_of_lt_elementPosition before)
      · exact .inr (stop_le_of_lt_elementPosition behind)

end

end Shape

/-! ## All levels -/

namespace Located

/-- What is known of a value wherever it is laid out: it stands where it may, and the words inside
it can be counted. -/
structure IsLaidOut (value : Located) : Prop where
  /-- The value stands where it may. -/
  suits : value.position.Suits value.shape.footprint
  /-- The words inside it can be counted. -/
  countable : value.shape.isCountable = true

section

variable {value part inner : Located} {step : Step} {path : List Step}

/-- What a step leads to is a part that has moved with its value. -/
theorem part?_eq_some_iff : value.part? step = some part ↔
    ∃ own, value.shape.HasPart step own ∧ part = own.shift value.position.slot := by
  rw [part?, Option.map_eq_some_iff]
  refine exists_congr fun own => ?_
  rw [Shape.ownPart?_eq_some_iff, eq_comm]

/-- A step further, a path leads to a part of what it has led to. -/
theorem inside?_concat_eq_some_iff {outer : List Step} {around : Located}
    (found : value.inside? outer = some around) :
    value.inside? (outer ++ [step]) = some inner ↔
      ∃ part, around.shape.HasPart step part ∧ inner = part.shift around.position.slot := by
  have last : around.inside? [step] = around.part? step := Option.bind_fun_some _
  rw [inside?_append, found, Option.bind_some, last, part?_eq_some_iff]

/-- A value that takes words starts and ends with one. -/
theorem IsLaidOut.range (laidOut : value.IsLaidOut) {count : Nat}
    (words : value.shape.footprint = .slots count) :
    value.position.address = 32 * value.position.slot ∧
      value.stop = 32 * (value.position.slot + count) := by
  have start : value.position.offset = 0 := laidOut.suits.whole count words
  rw [stop, Position.stop, words, Position.address, start, Nat.mul_add]
  exact ⟨rfl, rfl⟩

/-- A part is laid out as its value is. -/
theorem IsLaidOut.of_part? (laidOut : value.IsLaidOut) (found : value.part? step = some part) :
    part.IsLaidOut := by
  obtain ⟨own, has, rfl⟩ := part?_eq_some_iff.1 found
  have suits := has.suits laidOut.countable
  exact ⟨⟨suits.packed, suits.whole⟩, has.isCountable laidOut.countable⟩

/-- A part stands inside its value. -/
theorem IsLaidOut.within_of_part? (laidOut : value.IsLaidOut)
    (found : value.part? step = some part) : part.Within value := by
  obtain ⟨own, has, rfl⟩ := part?_eq_some_iff.1 found
  obtain ⟨count, words, ends⟩ := has.stop_le laidOut.countable
  obtain ⟨start, stop⟩ := laidOut.range words
  refine ⟨?_, ?_⟩
  · rw [start]
    exact Nat.le_trans (Nat.le_add_right _ _) (Nat.le_of_eq (Position.address_shift _ _).symm)
  · rw [stop, stop_shift, Nat.mul_add]
    exact Nat.add_le_add_left ends _

/-- Parts that different steps lead to are apart. -/
theorem IsLaidOut.apart_of_part? (laidOut : value.IsLaidOut) {otherStep : Step}
    {otherPart : Located} (found : value.part? step = some part) (otherFound : value.part? otherStep = some otherPart)
    (different : step ≠ otherStep) : part.Apart otherPart := by
  obtain ⟨own, has, rfl⟩ := part?_eq_some_iff.1 found
  obtain ⟨otherOwn, otherHas, rfl⟩ := part?_eq_some_iff.1 otherFound
  exact (has.apart otherHas different laidOut.countable).shift _

/-- What a path leads to is laid out, and stands inside the value that the path starts from. -/
theorem IsLaidOut.inside (laidOut : value.IsLaidOut) (found : value.inside? path = some inner) :
    inner.IsLaidOut ∧ inner.Within value := by
  induction path generalizing value with
  | nil =>
    cases found
    exact ⟨laidOut, Nat.le_refl _, Nat.le_refl _⟩
  | cons step path ih =>
    obtain ⟨part, partFound, rest⟩ := Option.bind_eq_some_iff.1 found
    obtain ⟨innerLaidOut, start, ends⟩ := ih (laidOut.of_part? partFound) rest
    obtain ⟨partStart, partEnds⟩ := laidOut.within_of_part? partFound
    exact ⟨innerLaidOut, Nat.le_trans partStart start, Nat.le_trans ends partEnds⟩

/-- What two paths lead to is apart, unless one of the paths goes on from the other. -/
theorem IsLaidOut.apart (laidOut : value.IsLaidOut) {otherPath : List Step} {other : Located}
    (found : value.inside? path = some inner) (otherFound : value.inside? otherPath = some other)
    (notBehind : ¬ path <+: otherPath) (notBefore : ¬ otherPath <+: path) : inner.Apart other := by
  induction path generalizing value otherPath with
  | nil => exact absurd List.nil_prefix notBehind
  | cons step path ih =>
    cases otherPath with
    | nil => exact absurd List.nil_prefix notBefore
    | cons otherStep otherPath =>
      obtain ⟨part, partFound, rest⟩ := Option.bind_eq_some_iff.1 found
      obtain ⟨otherPart, otherPartFound, otherRest⟩ := Option.bind_eq_some_iff.1 otherFound
      by_cases same : step = otherStep
      -- The paths have not parted yet.
      · subst same
        cases Option.some.inj (partFound.symm.trans otherPartFound)
        exact ih (laidOut.of_part? partFound) rest otherRest
          (fun behind => notBehind (List.cons_prefix_cons.2 ⟨rfl, behind⟩))
          (fun before => notBefore (List.cons_prefix_cons.2 ⟨rfl, before⟩))
      -- They part here, and stay inside parts that are apart.
      · have apart := laidOut.apart_of_part? partFound otherPartFound same
        exact apart.within ((laidOut.of_part? partFound).inside rest).2
          ((laidOut.of_part? otherPartFound).inside otherRest).2

end

/-- A word that a value laid out further takes is not shared with a value that is apart from it. -/
theorem IsLaidOut.not_standsIn {around inner other : Located} (laidOut : around.IsLaidOut)
    (parts : around.shape.isLeaf = false) (inside : inner.Within around)
    (apart : around.Apart other) {word : Nat} (stands : inner.StandsIn word) :
    ¬ other.StandsIn word := by
  rintro ⟨otherByte, ⟨otherStart, otherEnds⟩, otherWord⟩
  obtain ⟨byte, ⟨start, ends⟩, own⟩ := stands
  obtain ⟨count, words⟩ := Shape.exists_slots_of_isLeaf_eq_false parts
  obtain ⟨first, last⟩ := laidOut.range words
  obtain ⟨innerStart, innerEnds⟩ := inside
  rcases apart with before | behind <;> omega

/-- A struct with members, from its start. -/
def ofMembers (members : List Shape) : Located :=
  ⟨.start, .struct "" none members none⟩

/-- A struct is laid out from its start. -/
theorem isLaidOut_ofMembers {members : List Shape}
    (countable : (ofMembers members).shape.isCountable = true) : (ofMembers members).IsLaidOut := by
  refine ⟨?_, countable⟩
  rw [ofMembers, footprint_struct "" none (.inr rfl)]
  exact .slots rfl _

end Located

/-! ## Leaves -/

/-- Whether a path leads to a leaf of a struct with some members. -/
structure IsLeafOf (members : List Shape) (path : List Step) (leaf : Located) : Prop where
  /-- The path leads into the struct. -/
  nonempty : path ≠ []
  /-- The path leads to the leaf. -/
  found : (Located.ofMembers members).inside? path = some leaf
  /-- The value there is not laid out further. -/
  isLeaf : leaf.shape.isLeaf = true

/-- The leaves of a struct with some members do not overlap and stay inside its words. -/
structure LeavesApart (members : List Shape) : Prop where
  /-- Every member has one position. -/
  positions : (packing members).positions.length = members.length
  /-- All members and elements inside a value are reached, each at its place. -/
  expansion : ∀ {outer : List Step} {around inner : Located} {step : Step},
    (Located.ofMembers members).inside? outer = some around →
      ((Located.ofMembers members).inside? (outer ++ [step]) = some inner ↔
        ∃ part, around.shape.HasPart step part ∧ inner = part.shift around.position.slot)
  /-- A packed leaf does not reach into the next word. -/
  offsets : ∀ {path : List Step} {leaf : Located} {size : Nat},
    IsLeafOf members path leaf → leaf.shape.footprint = .bytes size →
      leaf.position.offset + size ≤ 32
  /-- No byte belongs to two leaves. -/
  disjoint : ∀ {path otherPath : List Step} {leaf other : Located} {byte : Nat},
    IsLeafOf members path leaf → IsLeafOf members otherPath other → path ≠ otherPath →
      leaf.Covers byte → ¬ other.Covers byte
  /-- No word belongs to a leaf inside a struct or array and to another leaf outside it. -/
  words : ∀ {outer path otherPath : List Step} {around leaf other : Located} {word : Nat},
    (Located.ofMembers members).inside? outer = some around → around.shape.isLeaf = false →
      IsLeafOf members path leaf → IsLeafOf members otherPath other →
        outer <+: path → ¬ outer <+: otherPath → leaf.StandsIn word → ¬ other.StandsIn word
  /-- Every leaf ends inside the words of the struct. -/
  bound : ∀ {path : List Step} {leaf : Located},
    IsLeafOf members path leaf → leaf.stop ≤ 32 * (packing members).slots
  /-- Every leaf of a struct inside ends inside the words of that struct, which are at least one. -/
  innerBound : ∀ {outer path : List Step} {position : Position} {structName : String}
      {name : Option String} {inner : List Shape} {slots : Option Nat} {leaf : Located},
    (Located.ofMembers members).inside? outer =
        some ⟨position, .struct structName name inner slots⟩ →
      inner ≠ [] → IsLeafOf members path leaf → outer <+: path →
        leaf.stop ≤ 32 * (position.slot + max 1 (packing inner).slots)

namespace IsLeafOf

variable {members : List Shape} {path : List Step} {leaf : Located}

/-- No path goes on from a leaf. -/
theorem eq_of_isPrefix (leafOf : IsLeafOf members path leaf) {longer : List Step}
    {other : Located} (found : (Located.ofMembers members).inside? longer = some other)
    (goesOn : path <+: longer) : path = longer := by
  obtain ⟨rest, rfl⟩ := goesOn
  rw [Located.inside?_append, leafOf.found, Option.bind_some] at found
  cases rest with
  | nil => exact (List.append_nil path).symm
  | cons step rest =>
    rw [Located.inside?, Located.part?, Shape.ownPart?_eq_none_of_isLeaf leafOf.isLeaf] at found
    cases found

/-- A leaf is apart from whatever its path does not lead through. -/
theorem apart (leafOf : IsLeafOf members path leaf)
    (countable : (Located.ofMembers members).shape.isCountable = true) {otherPath : List Step} {other : Located}
    (found : (Located.ofMembers members).inside? otherPath = some other)
    (outside : ¬ otherPath <+: path) : other.Apart leaf := by
  refine (Located.isLaidOut_ofMembers countable).apart found leafOf.found outside fun before => ?_
  rw [leafOf.eq_of_isPrefix found before] at outside
  exact outside List.prefix_rfl

/-- A leaf stands inside whatever its path leads through. -/
theorem within_of_isPrefix (leafOf : IsLeafOf members path leaf)
    (countable : (Located.ofMembers members).shape.isCountable = true) {outer : List Step} {around : Located}
    (found : (Located.ofMembers members).inside? outer = some around) (goesOn : outer <+: path) :
    around.IsLaidOut ∧ leaf.Within around := by
  obtain ⟨rest, rfl⟩ := goesOn
  have inner := leafOf.found
  rw [Located.inside?_append, found, Option.bind_some] at inner
  have laidOut := ((Located.isLaidOut_ofMembers countable).inside found).1
  exact ⟨laidOut, (laidOut.inside inner).2⟩

/-- A leaf ends inside the words of the members. -/
theorem stop_le (leafOf : IsLeafOf members path leaf)
    (countable : (Located.ofMembers members).shape.isCountable = true) :
    leaf.stop ≤ 32 * (packing members).slots := by
  obtain ⟨nonempty, found, -⟩ := leafOf
  cases path with
  | nil => exact absurd rfl nonempty
  | cons step path =>
    obtain ⟨part, partFound, rest⟩ := Option.bind_eq_some_iff.1 found
    have laidOut := (Located.isLaidOut_ofMembers countable).of_part? partFound
    obtain ⟨own, has, rfl⟩ := Located.part?_eq_some_iff.1 partFound
    have ends : own.stop ≤ 32 * (packing members).slots := by
      cases has with
      | member place own =>
        exact (suits_of_packing (Shape.isCountable_struct_iff.1 countable).2 own place).2
    calc leaf.stop ≤ (own.shift 0).stop := (laidOut.inside rest).2.2
      _ = own.stop := by rw [Located.stop_shift, Nat.mul_zero, Nat.zero_add]
      _ ≤ 32 * (packing members).slots := ends

end IsLeafOf

/-- If the words of a struct and those of all structs and arrays inside it can be counted, its leaves
do not overlap and stay inside its words. -/
theorem leaves_stand_apart (members : List Shape)
    (countable : (Located.ofMembers members).shape.isCountable = true) : LeavesApart members where
  positions := Packing.length_positions members
  expansion := Located.inside?_concat_eq_some_iff
  offsets leafOf packed :=
    ((Located.isLaidOut_ofMembers countable).inside leafOf.found).1.suits.packed _ packed
  disjoint leafOf otherOf different covers := by
    refine (otherOf.apart countable leafOf.found fun before => different ?_).not_covers covers
    exact leafOf.eq_of_isPrefix otherOf.found before
  words found parts leafOf otherOf inside outside stands := by
    obtain ⟨laidOut, within⟩ := leafOf.within_of_isPrefix countable found inside
    exact laidOut.not_standsIn parts within (otherOf.apart countable found outside) stands
  bound leafOf := leafOf.stop_le countable
  innerBound found nonempty leafOf inside := by
    obtain ⟨laidOut, -, ends⟩ := leafOf.within_of_isPrefix countable found inside
    rwa [(laidOut.range (footprint_struct _ _ (.inl nonempty))).2] at ends

/-- A journal of forty marks, a struct that takes no words, an array without elements, and two
entries that take two words each. -/
def journalMembers : List Shape := [
  .array (some "marks") (.builtin ⟨"uint8", none, none, none, some 1⟩) (some 40),
  .struct "Gap" (some "gap") [] (some 0),
  .array (some "drafts") (.struct "Draft" none [] (some 3)) (some 0),
  .array (some "entries") (.struct "Entry" none [
    .builtin ⟨"bool", some "open", none, none, some 1⟩,
    .builtin ⟨"address", some "owner", none, none, some 20⟩,
    .builtin ⟨"ufixed128x18", some "amount", none, none, some 16⟩] none) (some 2)]

/-- The last mark of a journal and the amount of its last entry share no word, and the amount ends
inside the words of the journal. -/
theorem journal_leaves_stand_apart :
    (Located.ofMembers journalMembers).shape.isCountable = true ∧
      ∃ mark amount, mark.position = ⟨1, 7⟩ ∧ amount.position = ⟨5, 0⟩ ∧
        IsLeafOf journalMembers [.member 0, .element 39] mark ∧
        IsLeafOf journalMembers [.member 3, .element 1, .member 2] amount ∧
        (∀ word, mark.StandsIn word → ¬ amount.StandsIn word) ∧ amount.stop ≤ 32 * 6 := by
  have countable : (Located.ofMembers journalMembers).shape.isCountable = true := by decide
  have apart := leaves_stand_apart journalMembers countable
  have markOf : IsLeafOf journalMembers [.member 0, .element 39]
      ⟨⟨1, 7⟩, .builtin ⟨"uint8", none, none, none, some 1⟩⟩ := ⟨nofun, by decide, rfl⟩
  have amountOf : IsLeafOf journalMembers [.member 3, .element 1, .member 2]
      ⟨⟨5, 0⟩, .builtin ⟨"ufixed128x18", some "amount", none, none, some 16⟩⟩ :=
    ⟨nofun, by decide, rfl⟩
  refine ⟨countable, _, _, rfl, rfl, markOf, amountOf, fun word => ?_, apart.bound amountOf⟩
  have around : (Located.ofMembers journalMembers).inside? [.member 0] = some _ := rfl
  exact apart.words around rfl markOf amountOf (by decide) (by decide)

end ModularRouter.Storage
