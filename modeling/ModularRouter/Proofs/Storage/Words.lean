import ModularRouter.Proofs.Storage.CanonicalTypes
import ModularRouter.Proofs.Storage.Packing

/-!
# Words of values in storage

Where values end by the rules of storage if they are stored one behind the other, told by the
addresses of bytes and with no limit on counts of words: `endOfStored` for one value, `wordsOf` for
all values of a struct. The packing of a struct follows these rules as long as its words can be
counted (`address_endFrom`, `slots_ofFootprints_eq`). The positions of its members can be recorded
even where its words cannot be counted (`isRecordable_of_mem_packing`).
-/

namespace ModularRouter.Storage

/-! ## Values in bytes -/

/-- The space of a value of an elementary type. Byte strings and texts of any length take a word of
their own. -/
inductive ElementaryType.HasSize : ElementaryType → Footprint → Prop
  | address : HasSize .address (.bytes 20)
  | bool : HasSize .bool (.bytes 1)
  | uint {bits size : Nat} (width : bits = 8 * size) : HasSize (.uint bits) (.bytes size)
  | int {bits size : Nat} (width : bits = 8 * size) : HasSize (.int bits) (.bytes size)
  | fixedBytes {length : Nat} : HasSize (.fixedBytes length) (.bytes length)
  | bytes : HasSize .bytes (.slots 1)
  | string : HasSize .string (.slots 1)
  | internal : HasSize (.function false) (.bytes 8)
  | external : HasSize (.function true) (.bytes 24)

namespace ElementaryType

/-- The space of a type is the one that extracted values of it take. -/
theorem hasSize_footprint {type : ElementaryType} (sized : type.isSized = true) :
    type.HasSize type.footprint := by
  cases type with
  | uint bits =>
    simp only [isSized, Bool.and_eq_true, beq_iff_eq] at sized
    exact .uint (by omega)
  | int bits =>
    simp only [isSized, Bool.and_eq_true, beq_iff_eq] at sized
    exact .int (by omega)
  | function external => cases external <;> constructor
  | address | bool | fixedBytes _ | bytes | string => constructor

/-- A type takes one space only. -/
theorem HasSize.unique {type : ElementaryType} {size other : Footprint} (own : type.HasSize size)
    (again : type.HasSize other) : size = other := by
  cases own with
  | uint width =>
    cases again with
    | uint other => rw [Nat.eq_of_mul_eq_mul_left (by decide) (width.symm.trans other)]
  | int width =>
    cases again with
    | int other => rw [Nat.eq_of_mul_eq_mul_left (by decide) (width.symm.trans other)]
  | address | bool | fixedBytes | bytes | string | internal | external =>
    cases again
    rfl

/-- A value that takes bytes takes between one byte and a word. -/
theorem HasSize.bounds {type : ElementaryType} {size : Nat} (own : type.HasSize (.bytes size))
    (sized : type.isSized = true) : 0 < size ∧ size ≤ 32 := by
  cases own with
  | uint width | int width =>
    simp only [isSized, Bool.and_eq_true, decide_eq_true_eq] at sized
    omega
  | fixedBytes =>
    simp only [isSized, Bool.and_eq_true, decide_eq_true_eq] at sized
    exact sized
  | address | bool | internal | external => decide

end ElementaryType

/-- The number behind an enumeration takes between one byte and a word. -/
theorem bounds_of_enumSize (members : List String) :
    0 < enumSize members ∧ enumSize members ≤ 32 := by
  rw [enumSize]
  split <;> decide

/-- A value of an elementary type that takes bytes takes between one byte and a word, whether the
type is known or not. -/
theorem Builtin.bounds_of_footprint {value : Builtin} {size : Nat}
    (own : value.footprint = .bytes size) : 0 < size ∧ size ≤ 32 := by
  rw [footprint] at own
  split at own
  · next type known =>
    have sized := ElementaryType.isSized_of_parse? known
    have hasSize := ElementaryType.hasSize_footprint sized
    rw [own] at hasSize
    exact hasSize.bounds sized
  · have equal : min (max (value.size.getD wordSize) 1) wordSize = size := Footprint.bytes.inj own
    rw [wordSize] at equal
    omega

/-- A value that takes bytes takes between one byte and a word. -/
theorem Shape.bounds_of_footprint {shape : Shape} {size : Nat}
    (own : shape.footprint = .bytes size) : 0 < size ∧ size ≤ 32 := by
  cases shape with
  | builtin value => exact Builtin.bounds_of_footprint own
  | enum enumName name members =>
    have equal : enumSize members = size := Footprint.bytes.inj own
    exact equal ▸ bounds_of_enumSize members
  | struct structName name members slots => cases members <;> cases slots <;> cases own
  | mapping name key value => cases own
  | array name value length => cases length <;> cases own

/-- A member that takes bytes takes no more than a word. -/
theorem small_of_mem_footprints {members : List Shape} {size : Nat}
    (mem : .bytes size ∈ members.map Shape.footprint) : size ≤ 32 := by
  obtain ⟨member, -, own⟩ := List.mem_map.1 mem
  exact (Shape.bounds_of_footprint own).2

/-- What holds of all sizes in bytes holds of the first one and of the others. -/
theorem small_of_cons {first : Footprint} {rest : List Footprint}
    (small : ∀ bytes, .bytes bytes ∈ first :: rest → bytes ≤ 32) :
    (∀ bytes, first = .bytes bytes → bytes ≤ 32) ∧ ∀ bytes, .bytes bytes ∈ rest → bytes ≤ 32 :=
  ⟨fun bytes same => small bytes (same ▸ List.mem_cons_self),
    fun bytes mem => small bytes (List.mem_cons_of_mem _ mem)⟩

/-! ## Ends of values -/

/-- How many bytes a value takes. -/
def Footprint.byteCount : Footprint → Nat
  | .bytes size => size
  | .slots count => 32 * count

/-- The first address at or behind an address that a word starts at. -/
def wordStart (address : Nat) : Nat :=
  (address + 31) / 32 * 32

/-- The end of a value stored as close behind an address as the rules allow: up to a word of bytes
stays inside one word, and whole words start at a word. -/
def endOfStored (address : Nat) : Footprint → Nat
  | .bytes size => (if address % 32 + size ≤ 32 then address else wordStart address) + size
  | .slots count => wordStart address + 32 * count

/-- How many words values take that are stored one behind the other. -/
def wordsOf (sizes : List Footprint) : Nat :=
  (sizes.foldl endOfStored 0 + 31) / 32

/-- A value ends as many words further as it may start. -/
theorem endOfStored_add (address words : Nat) (size : Footprint) :
    endOfStored (address + 32 * words) size = endOfStored address size + 32 * words := by
  cases size with
  | bytes size =>
    rw [endOfStored, endOfStored, wordStart, wordStart]
    split <;> split <;> omega
  | slots count =>
    rw [endOfStored, endOfStored, wordStart, wordStart]
    omega

/-- Values end as many words further as they may start. -/
theorem foldl_endOfStored_add (sizes : List Footprint) (address words : Nat) :
    sizes.foldl endOfStored (address + 32 * words) =
      sizes.foldl endOfStored address + 32 * words := by
  induction sizes generalizing address with
  | nil => rfl
  | cons size rest ih => rw [List.foldl_cons, List.foldl_cons, endOfStored_add, ih]

/-- There is room for a value between where it may start and its end. -/
theorem add_byteCount_le_endOfStored (address : Nat) (size : Footprint) :
    address + size.byteCount ≤ endOfStored address size := by
  cases size with
  | bytes size =>
    rw [endOfStored, wordStart, Footprint.byteCount]
    split <;> omega
  | slots count =>
    rw [endOfStored, wordStart, Footprint.byteCount]
    omega

/-- Values end no earlier than where they may start. -/
theorem le_foldl_endOfStored (sizes : List Footprint) (address : Nat) :
    address ≤ sizes.foldl endOfStored address := by
  induction sizes generalizing address with
  | nil => exact Nat.le_refl _
  | cons size rest ih =>
    have first := add_byteCount_le_endOfStored address size
    exact Nat.le_trans (Nat.le_trans (Nat.le_add_right _ _) first) (ih _)

/-- Values end behind as many words as one of them takes. -/
theorem count_le_foldl_endOfStored {sizes : List Footprint} {count : Nat}
    (mem : .slots count ∈ sizes) (address : Nat) :
    32 * count ≤ sizes.foldl endOfStored address := by
  induction sizes generalizing address with
  | nil => cases mem
  | cons size rest ih =>
    rcases List.mem_cons.1 mem with rfl | later
    · have first : address + 32 * count ≤ endOfStored address (.slots count) :=
        add_byteCount_le_endOfStored address (.slots count)
      exact Nat.le_trans (Nat.le_trans (Nat.le_add_left _ _) first) (le_foldl_endOfStored rest _)
    · exact ih later _

/-- A struct takes no fewer words than one of its members alone. -/
theorem toSlots_le_wordsOf {sizes : List Footprint} {size : Footprint} (mem : size ∈ sizes) :
    size.toSlots ≤ max 1 (wordsOf sizes) := by
  cases size with
  | bytes size => exact Nat.le_max_left _ _
  | slots count =>
    have ends := count_le_foldl_endOfStored mem 0
    rw [Footprint.toSlots, wordsOf]
    omega

/-! ## Positions and addresses -/

/-- A sum of counts that is no greater than the greatest count is what it is. -/
theorem wrap_eq_of_le {count : Nat} (small : count ≤ maxSlots) : wrap count = count :=
  Nat.mod_eq_of_lt (Nat.lt_of_le_of_lt small (by decide))

namespace Position

/-- The address of the byte at a position. -/
def address (position : Position) : Nat :=
  32 * position.slot + position.offset

/-- The byte behind a value that stands at a position. -/
def stop (position : Position) (size : Footprint) : Nat :=
  position.address + size.byteCount

/-- Whether a value of some space may stand at a position: bytes stay inside one word, and words
start with one. -/
structure Suits (position : Position) (size : Footprint) : Prop where
  /-- Bytes do not reach into the next word. -/
  packed : ∀ bytes, size = .bytes bytes → position.offset + bytes ≤ 32
  /-- Words start at the first byte of one. -/
  whole : ∀ count, size = .slots count → position.offset = 0

/-- Bytes may stand where they stay inside one word. -/
theorem Suits.bytes {position : Position} {size : Nat} (stays : position.offset + size ≤ 32) :
    position.Suits (.bytes size) := by
  refine ⟨fun bytes same => ?_, fun count same => ?_⟩
  · cases same
    exact stays
  · cases same

/-- Words may stand where a word starts. -/
theorem Suits.slots {position : Position} (start : position.offset = 0) (count : Nat) :
    position.Suits (.slots count) := by
  refine ⟨fun bytes same => ?_, fun _ _ => start⟩
  cases same

variable {position : Position} {size : Footprint}

/-- A value is put where it may stand. -/
theorem suits_fit (small : ∀ bytes, size = .bytes bytes → bytes ≤ 32) :
    (position.fit size).Suits size := by
  cases size with
  | bytes bytes =>
    have bound := small bytes rfl
    refine .bytes ?_
    rw [fit, wordSize]
    split
    · rw [nextWord]
      dsimp only
      omega
    · omega
  | slots count =>
    refine .slots ?_ count
    rw [fit]
    split
    · rfl
    · omega

/-- A value that is put as soon behind a position as it fits ends where it is stored, as long as
words can be counted. -/
theorem stop_fit (inside : position.offset ≤ 32)
    (small : ∀ bytes, size = .bytes bytes → bytes ≤ 32)
    (fits : endOfStored position.address size ≤ 32 * maxSlots) :
    (position.fit size).stop size = endOfStored position.address size := by
  cases size with
  | bytes bytes =>
    have bound := small bytes rfl
    rw [endOfStored, wordStart, address] at fits
    rw [stop, fit, wordSize, endOfStored, wordStart, Footprint.byteCount]
    -- A word that is full to its last byte is left by both.
    by_cases crosses : 32 < position.offset + bytes
    · have counted : wrap (position.slot + 1) = position.slot + 1 := by
        refine wrap_eq_of_le ?_
        split at fits <;> omega
      rw [if_pos crosses, nextWord, counted, address, address]
      dsimp only
      split <;> omega
    · rw [if_neg crosses, address]
      split <;> omega
  | slots count =>
    rw [endOfStored, wordStart, address] at fits
    rw [stop, fit, endOfStored, wordStart, Footprint.byteCount]
    by_cases started : 0 < position.offset
    · have counted : wrap (position.slot + 1) = position.slot + 1 := wrap_eq_of_le (by omega)
      rw [if_pos started, nextWord, counted, address, address]
      dsimp only
      omega
    · rw [if_neg started, address]
      omega

/-- The end of a value is the same by positions and by addresses, as long as words can be
counted. -/
theorem address_next (inside : position.offset ≤ 32)
    (small : ∀ bytes, size = .bytes bytes → bytes ≤ 32)
    (fits : endOfStored position.address size ≤ 32 * maxSlots) :
    (position.next size).address = endOfStored position.address size ∧
      (position.next size).offset ≤ 32 := by
  have suits : (position.fit size).Suits size := suits_fit small
  have ends := stop_fit inside small fits
  rw [← ends] at fits ⊢
  rw [next, stop]
  cases size with
  | bytes bytes => exact ⟨(Nat.add_assoc ..).symm, suits.packed bytes rfl⟩
  | slots count =>
    have start := suits.whole count rfl
    rw [stop, address, start, Footprint.byteCount] at fits
    rw [after, wrap_eq_of_le (by omega), address, address, Footprint.byteCount, start]
    dsimp only
    omega

end Position

/-- The end of some values is the same by positions and by addresses, as long as words can be
counted. -/
theorem address_endFrom {position : Position} {sizes : List Footprint}
    (inside : position.offset ≤ 32) (small : ∀ bytes, .bytes bytes ∈ sizes → bytes ≤ 32)
    (fits : sizes.foldl endOfStored position.address ≤ 32 * maxSlots) :
    (Packing.endFrom position sizes).address = sizes.foldl endOfStored position.address ∧
      (Packing.endFrom position sizes).offset ≤ 32 := by
  induction sizes generalizing position with
  | nil => exact ⟨rfl, inside⟩
  | cons size rest ih =>
    rw [List.foldl_cons] at fits
    obtain ⟨first, others⟩ := small_of_cons small
    obtain ⟨ends, bound⟩ := Position.address_next inside first
      (Nat.le_trans (le_foldl_endOfStored rest _) fits)
    rw [← ends] at fits
    rw [Packing.endFrom, List.foldl_cons, ← ends]
    exact ih bound others fits

/-- Values that take no more words than can be counted end where words can be counted. -/
theorem foldl_endOfStored_le {sizes : List Footprint} (fits : wordsOf sizes < Nat.pow 2 64) :
    sizes.foldl endOfStored 0 ≤ 32 * maxSlots := by
  have limit : maxSlots = Nat.pow 2 64 - 1 := rfl
  rw [wordsOf] at fits
  omega

/-- Values take as many words when they are packed into words as when they are stored one behind the
other, if these can be counted. -/
theorem slots_ofFootprints_eq {sizes : List Footprint}
    (small : ∀ bytes, .bytes bytes ∈ sizes → bytes ≤ 32) (fits : wordsOf sizes < Nat.pow 2 64) :
    (Packing.ofFootprints sizes).slots = wordsOf sizes := by
  have start : Position.start.offset ≤ 32 := Nat.zero_le _
  obtain ⟨ends, bound⟩ := address_endFrom start small (foldl_endOfStored_le fits)
  have zero : Position.start.address = 0 := rfl
  rw [zero] at ends
  have counted : (Packing.endFrom .start sizes).slot +
      (if 0 < (Packing.endFrom .start sizes).offset then 1 else 0) = wordsOf sizes := by
    rw [wordsOf, ← ends, Position.address]
    split <;> omega
  rw [Packing.ofFootprints]
  dsimp only
  rw [Position.slots, counted]
  exact wrap_eq_of_le (Nat.le_sub_one_of_lt fits)

/-! ## Positions that can be recorded -/

/-- What is left of a sum can be counted. -/
theorem wrap_le (count : Nat) : wrap count ≤ maxSlots :=
  Nat.le_sub_one_of_lt (Nat.mod_lt _ (by decide))

/-- Whether a position can be recorded: its word can be counted, and its byte is one of the word or
the next one. -/
structure Position.IsRecordable (position : Position) : Prop where
  word : position.slot ≤ maxSlots
  byte : position.offset ≤ 32

section

variable {position : Position}

/-- A value is put where its position can be recorded. -/
theorem Position.IsRecordable.fit (own : position.IsRecordable) (size : Footprint) :
    (position.fit size).IsRecordable := by
  cases size with
  | bytes _ | slots _ =>
    rw [Position.fit]
    split
    · exact ⟨wrap_le _, Nat.zero_le _⟩
    · exact own

/-- A value ends at a position that can be recorded. -/
theorem Position.IsRecordable.next (own : position.IsRecordable) {size : Footprint}
    (small : ∀ bytes, size = .bytes bytes → bytes ≤ 32) : (position.next size).IsRecordable := by
  rw [Position.next]
  cases size with
  | bytes bytes => exact ⟨(own.fit _).word, (Position.suits_fit small).packed bytes rfl⟩
  | slots count => exact ⟨wrap_le _, Nat.zero_le _⟩

/-- All of some values are put where their positions can be recorded. -/
theorem Position.IsRecordable.of_mem_positionsFrom (own : position.IsRecordable)
    {sizes : List Footprint} (small : ∀ bytes, .bytes bytes ∈ sizes → bytes ≤ 32)
    {place : Position} (mem : place ∈ Packing.positionsFrom position sizes) :
    place.IsRecordable := by
  induction sizes generalizing position with
  | nil => cases mem
  | cons size rest ih =>
    obtain ⟨first, others⟩ := small_of_cons small
    rcases List.mem_cons.1 mem with rfl | later
    · exact own.fit size
    · exact ih (own.next first) others later

/-- The position of a member can be recorded, however many words the members in front of it take. -/
theorem isRecordable_of_mem_packing {members : List Shape}
    (mem : position ∈ (packing members).positions) : position.IsRecordable := by
  have start : Position.start.IsRecordable := ⟨Nat.zero_le _, Nat.zero_le _⟩
  exact start.of_mem_positionsFrom (fun _ => small_of_mem_footprints) mem

end

end ModularRouter.Storage
