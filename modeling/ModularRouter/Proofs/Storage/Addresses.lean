import ModularRouter.Proofs.Storage.StorageRules

/-!
# Ranges of bytes

A value takes a range of bytes, counted from the first byte of the struct or array that it stands
in. The ranges of the members of a struct follow each other in the order of the members
(`stop_le_of_lt_positionsFrom`), those of the elements of an array in the order of the elements
(`stop_le_of_lt_elementPosition`), and both end inside the words that the struct or array takes, as
long as these can be counted.
-/

namespace ModularRouter.Storage

/-! ## Positions some words further -/

namespace Position

/-- The position some words further. -/
def shift (position : Position) (words : Nat) : Position :=
  ⟨position.slot + words, position.offset⟩

/-- The address of a byte some words further. -/
theorem address_shift (position : Position) (words : Nat) :
    (position.shift words).address = 32 * words + position.address := by
  rw [shift, address, address]
  dsimp only
  omega

/-- The end of a value some words further. -/
theorem stop_shift (position : Position) (words : Nat) (size : Footprint) :
    (position.shift words).stop size = 32 * words + position.stop size := by
  rw [stop, stop, address_shift, Nat.add_assoc]

end Position

/-! ## Members -/

/-- What is known of a position that values are put behind: the byte is one of its word or the next
one, no value takes bytes of more than one word, and words can be counted up to the end. -/
structure CanHold (position : Position) (sizes : List Footprint) : Prop where
  inside : position.offset ≤ 32
  small : ∀ bytes, .bytes bytes ∈ sizes → bytes ≤ 32
  fits : sizes.foldl endOfStored position.address ≤ 32 * maxSlots

section

variable {position : Position} {first : Footprint} {rest sizes : List Footprint}

/-- The first value ends where it is stored. -/
theorem CanHold.stop_fit (holds : CanHold position (first :: rest)) :
    (position.fit first).Suits first ∧
      (position.fit first).stop first = endOfStored position.address first := by
  obtain ⟨bound, -⟩ := small_of_cons holds.small
  have fits := Nat.le_trans (le_foldl_endOfStored rest _) holds.fits
  exact ⟨Position.suits_fit bound, Position.stop_fit holds.inside bound fits⟩

/-- The other values are put behind the first one. -/
theorem CanHold.next (holds : CanHold position (first :: rest)) :
    (position.next first).address = (position.fit first).stop first ∧
      CanHold (position.next first) rest := by
  obtain ⟨bound, others⟩ := small_of_cons holds.small
  have fits := Nat.le_trans (le_foldl_endOfStored rest _) holds.fits
  obtain ⟨ends, inside⟩ := Position.address_next holds.inside bound fits
  refine ⟨ends.trans holds.stop_fit.2.symm, inside, others, ?_⟩
  rw [ends]
  exact holds.fits

/-- The first value starts no earlier than the position. -/
theorem CanHold.address_le_fit (holds : CanHold position (first :: rest)) :
    position.address ≤ (position.fit first).address := by
  have ends := holds.stop_fit.2
  have room := add_byteCount_le_endOfStored position.address first
  rw [← ends, Position.stop] at room
  exact Nat.le_of_add_le_add_right room

/-- Values end no earlier than they may start. -/
theorem CanHold.address_le_endFrom (holds : CanHold position sizes) :
    position.address ≤ (Packing.endFrom position sizes).address := by
  rw [(address_endFrom holds.inside holds.small holds.fits).1]
  exact le_foldl_endOfStored sizes _

/-- A value among others stands where it may, between the start and the end of all of them. -/
theorem CanHold.suits (holds : CanHold position sizes) {index : Nat} {place : Position}
    {size : Footprint} (own : sizes[index]? = some size)
    (found : (Packing.positionsFrom position sizes)[index]? = some place) :
    place.Suits size ∧ position.address ≤ place.address ∧
      place.stop size ≤ (Packing.endFrom position sizes).address := by
  induction sizes generalizing position index with
  | nil => cases own
  | cons first rest ih =>
    obtain ⟨next, others⟩ := holds.next
    have start := holds.address_le_fit
    cases index with
    | zero =>
      cases own
      cases found
      refine ⟨holds.stop_fit.1, start, ?_⟩
      rw [← next]
      exact others.address_le_endFrom
    | succ index =>
      obtain ⟨suits, behind, before⟩ := ih others own found
      refine ⟨suits, ?_, before⟩
      rw [next] at behind
      exact Nat.le_trans start (Nat.le_trans (Nat.le_add_right _ _) behind)

/-- A value ends before the values behind it start. -/
theorem CanHold.stop_le_of_lt (holds : CanHold position sizes) {index later : Nat}
    (lt : index < later) {place laterPlace : Position} {size laterSize : Footprint}
    (own : sizes[index]? = some size) (laterOwn : sizes[later]? = some laterSize)
    (found : (Packing.positionsFrom position sizes)[index]? = some place)
    (laterFound : (Packing.positionsFrom position sizes)[later]? = some laterPlace) :
    place.stop size ≤ laterPlace.address := by
  induction sizes generalizing position index later with
  | nil => cases own
  | cons first rest ih =>
    obtain ⟨next, others⟩ := holds.next
    cases later with
    | zero => cases lt
    | succ later =>
      cases index with
      | zero =>
        cases own
        cases found
        rw [← next]
        exact (others.suits laterOwn laterFound).2.1
      | succ index =>
        exact ih others (Nat.lt_of_succ_lt_succ lt) own laterOwn found laterFound

end

section

variable {members : List Shape} {index : Nat} {place : Position} {member : Shape}

/-- The footprint at an index is that of the member at the index. -/
theorem getElem?_footprints (own : members[index]? = some member) :
    (members.map Shape.footprint)[index]? = some member.footprint := by
  rw [List.getElem?_map, own, Option.map_some]

/-- The start of a struct can hold its members if their words can be counted. -/
theorem canHold_start (fits : wordsOf (members.map Shape.footprint) < Nat.pow 2 64) :
    CanHold .start (members.map Shape.footprint) :=
  ⟨Nat.zero_le _, fun _ => small_of_mem_footprints, foldl_endOfStored_le fits⟩

/-- A member stands where it may, inside the words of its struct. -/
theorem suits_of_packing (fits : wordsOf (members.map Shape.footprint) < Nat.pow 2 64)
    (own : members[index]? = some member)
    (found : (packing members).positions[index]? = some place) :
    place.Suits member.footprint ∧ place.stop member.footprint ≤ 32 * (packing members).slots := by
  have holds := canHold_start fits
  obtain ⟨suits, -, before⟩ := holds.suits (getElem?_footprints own) found
  have ends := (address_endFrom holds.inside holds.small holds.fits).1
  have words : (packing members).slots = wordsOf (members.map Shape.footprint) :=
    slots_ofFootprints_eq holds.small fits
  refine ⟨suits, Nat.le_trans before ?_⟩
  have zero : Position.start.address = 0 := rfl
  rw [ends, words, wordsOf, zero]
  omega

/-- A member ends before the members behind it start. -/
theorem stop_le_of_lt_packing (fits : wordsOf (members.map Shape.footprint) < Nat.pow 2 64)
    {later : Nat} (lt : index < later) {laterPlace : Position} {laterMember : Shape}
    (own : members[index]? = some member) (laterOwn : members[later]? = some laterMember)
    (found : (packing members).positions[index]? = some place)
    (laterFound : (packing members).positions[later]? = some laterPlace) :
    place.stop member.footprint ≤ laterPlace.address :=
  (canHold_start fits).stop_le_of_lt lt (getElem?_footprints own) (getElem?_footprints laterOwn)
    found laterFound

end

/-! ## Elements -/

/-- As many elements of up to a word share a word as fit into it. -/
theorem elementPosition_bytes {size : Nat} (some : 0 < size) (bound : size ≤ 32) (index : Nat) :
    elementPosition (.bytes size) index = ⟨index / (32 / size), index % (32 / size) * size⟩ := by
  have shared : perSlot size = 32 / size := by
    rw [perSlot, wordSize, Nat.max_eq_left some, Nat.min_eq_left bound]
  rw [elementPosition, shared]

/-- An element that takes bytes stays inside its word. -/
theorem elementPosition_offset_le {size : Nat} (some : 0 < size) (bound : size ≤ 32)
    (index : Nat) : (elementPosition (.bytes size) index).offset + size ≤ 32 := by
  rw [elementPosition_bytes some bound]
  have word : 0 < 32 / size := Nat.div_pos bound some
  have place : index % (32 / size) + 1 ≤ 32 / size := Nat.mod_lt _ word
  calc index % (32 / size) * size + size = (index % (32 / size) + 1) * size :=
        (Nat.succ_mul _ _).symm
    _ ≤ 32 / size * size := Nat.mul_le_mul_right _ place
    _ ≤ 32 := Nat.div_mul_le_self _ _

/-- An element stands where it may. -/
theorem suits_elementPosition {element : Shape} (index : Nat) :
    (elementPosition element.footprint index).Suits element.footprint := by
  cases own : element.footprint with
  | bytes size =>
    obtain ⟨some, bound⟩ := Shape.bounds_of_footprint own
    exact .bytes (elementPosition_offset_le some bound index)
  | slots count => exact .slots rfl count

/-- An element ends before the elements behind it start. -/
theorem stop_le_of_lt_elementPosition {element : Shape} {index later : Nat} (lt : index < later) :
    (elementPosition element.footprint index).stop element.footprint ≤
      (elementPosition element.footprint later).address := by
  cases own : element.footprint with
  | bytes size =>
    obtain ⟨some, bound⟩ := Shape.bounds_of_footprint own
    have stays := elementPosition_offset_le some bound index
    rw [elementPosition_bytes some bound] at stays ⊢
    rw [elementPosition_bytes some bound, Position.stop, Footprint.byteCount, Position.address,
      Position.address]
    dsimp only at stays ⊢
    have order : index / (32 / size) ≤ later / (32 / size) := Nat.div_le_div_right (Nat.le_of_lt lt)
    rcases Nat.lt_or_eq_of_le order with before | same
    -- The element is in an earlier word, which ends before the other one starts.
    · omega
    -- Both are in one word, with the element at an earlier place.
    · have split := Nat.div_add_mod index (32 / size)
      have laterSplit := Nat.div_add_mod later (32 / size)
      rw [same] at split
      have place : index % (32 / size) + 1 ≤ later % (32 / size) := by omega
      have ends := Nat.mul_le_mul_right size place
      rw [Nat.succ_mul] at ends
      omega
  | slots count =>
    have ends : (index + 1) * count ≤ later * count := Nat.mul_le_mul_right _ lt
    rw [Nat.succ_mul] at ends
    rw [elementPosition, elementPosition, Position.stop, Footprint.byteCount, Position.address,
      Position.address]
    dsimp only
    omega

/-- An element ends inside the words of its array, if these can be counted. -/
theorem stop_elementPosition_le {element : Shape} {index length : Nat} (inside : index < length)
    (countable : ∀ count, element.footprint = .slots count → count * length < Nat.pow 2 64) :
    (elementPosition element.footprint index).stop element.footprint ≤
      32 * arraySlots element.footprint length := by
  cases own : element.footprint with
  | bytes size =>
    obtain ⟨some, bound⟩ := Shape.bounds_of_footprint own
    have stays := elementPosition_offset_le some bound index
    have word : 0 < perSlot size := perSlot_pos size
    have last : index / perSlot size + 1 ≤ (length + perSlot size - 1) / perSlot size := by
      rw [Nat.le_div_iff_mul_le word, Nat.succ_mul]
      have start := Nat.div_mul_le_self index (perSlot size)
      omega
    rw [elementPosition] at stays ⊢
    rw [Position.stop, Footprint.byteCount, Position.address, arraySlots]
    dsimp only at stays ⊢
    omega
  | slots count =>
    have fits : count * length ≤ maxSlots := Nat.le_sub_one_of_lt (countable count own)
    have ends : (index + 1) * count ≤ length * count := Nat.mul_le_mul_right _ inside
    rw [Nat.succ_mul, Nat.mul_comm length] at ends
    rw [elementPosition, Position.stop, Footprint.byteCount, Position.address, arraySlots,
      Nat.min_eq_left fits]
    dsimp only
    omega

end ModularRouter.Storage
