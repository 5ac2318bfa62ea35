import ModularRouter.Proofs.Storage.Words

/-!
# Values that take more words

Two values of which the second takes more whole words than the first end at the same byte of
different words, and so does everything stored behind them. `Grows` relates such values, and
`MembersGrow` such lists: the second list ends some words behind the first one, and the lists are
the same if they end together.
-/

namespace ModularRouter.Storage

/-- Whether a value takes the space of another one or more whole words, and only then if the other
one takes some. -/
def Grows (less more : Footprint) : Prop :=
  less = more ∨ ∃ count words, less = .slots count ∧ more = .slots (count + words) ∧ 0 < count

namespace Grows

/-- Every value takes its own space. -/
theorem refl (footprint : Footprint) : Grows footprint footprint := .inl rfl

/-- Arrays of one length grow with their elements. -/
theorem array {less more : Footprint} (grows : Grows less more) (length : Nat) :
    Grows (.slots (arraySlots less (length + 1))) (.slots (arraySlots more (length + 1))) := by
  rcases grows with rfl | ⟨count, words, rfl, rfl, some⟩
  · exact refl _
  · have less : 0 < count * (length + 1) := Nat.mul_pos some (Nat.succ_pos _)
    have more : (count + words) * (length + 1) = count * (length + 1) + words * (length + 1) :=
      Nat.add_mul ..
    have limit : 0 < maxSlots := by decide
    -- An array takes no more words than can be counted, so it may grow by less than its elements.
    refine .inr ⟨min (count * (length + 1)) maxSlots,
      min ((count + words) * (length + 1)) maxSlots - min (count * (length + 1)) maxSlots, rfl, ?_,
      by omega⟩
    rw [arraySlots, Nat.add_sub_cancel']
    omega

/-- Structs grow with their members. -/
theorem struct {less more words : Nat} (equal : more = less + words) (some : 0 < words → 0 < less) :
    Grows (.slots (max 1 less)) (.slots (max 1 more)) := by
  subst equal
  rcases Nat.eq_zero_or_pos words with rfl | positive
  · exact refl _
  · have nonempty := some positive
    refine .inr ⟨less, words, ?_, ?_, nonempty⟩
    · rw [Nat.max_eq_right nonempty]
    · rw [Nat.max_eq_right (Nat.le_add_right_of_le nonempty)]

/-- Whatever counts as one word grows to a struct. -/
theorem one_struct (count : Nat) : Grows (.slots 1) (.slots (max 1 count)) := by
  refine .inr ⟨1, count - 1, rfl, ?_, Nat.one_pos⟩
  congr 1
  omega

end Grows

/-- Whether values take the space of others or more whole words. The words by which they end further
are `words`. -/
structure MembersGrow (less more : List Footprint) (words : Nat) : Prop where
  ends : ∀ address, more.foldl endOfStored address = less.foldl endOfStored address + 32 * words
  same : words = 0 → less = more
  positive : 0 < words → ∀ address, 0 < less.foldl endOfStored address

namespace MembersGrow

/-- No values end where they start. -/
theorem nil : MembersGrow [] [] 0 :=
  ⟨fun _ => rfl, fun _ => rfl, fun some => absurd some (Nat.lt_irrefl 0)⟩

/-- Behind the same value, values grow by the words that they grow by alone. -/
theorem cons_same (first : Footprint) {lesses mores : List Footprint} {words : Nat}
    (others : MembersGrow lesses mores words) :
    MembersGrow (first :: lesses) (first :: mores) words := by
  refine ⟨fun address => others.ends _, fun none => ?_, fun more address => others.positive more _⟩
  rw [others.same none]

/-- Values grow with the first of them and the others. -/
theorem cons {less more : Footprint} {lesses mores : List Footprint} {words : Nat}
    (first : Grows less more) (others : MembersGrow lesses mores words) :
    ∃ total, MembersGrow (less :: lesses) (more :: mores) total := by
  rcases first with rfl | ⟨count, extra, rfl, rfl, some⟩
  · exact ⟨words, others.cons_same less⟩
  · rcases Nat.eq_zero_or_pos extra with rfl | further
    · exact ⟨words, others.cons_same (.slots count)⟩
    -- The first value pushes the others some words further, and they grow by their own words.
    · refine ⟨words + extra, fun address => ?_, fun none => by omega, fun _ address => ?_⟩
      · have pushed : endOfStored address (.slots (count + extra)) =
            endOfStored address (.slots count) + 32 * extra := by
          rw [endOfStored, endOfStored]
          omega
        rw [List.foldl_cons, List.foldl_cons, pushed, foldl_endOfStored_add, others.ends]
        omega
      · have behind := count_le_foldl_endOfStored
          (List.mem_cons_self : Footprint.slots count ∈ .slots count :: lesses) address
        omega

/-- How many words structs with such members take. -/
theorem wordsOf_eq {less more : List Footprint} {words : Nat} (grows : MembersGrow less more words) :
    wordsOf more = wordsOf less + words ∧ (0 < words → 0 < wordsOf less) := by
  refine ⟨?_, fun further => ?_⟩
  · rw [wordsOf, wordsOf, grows.ends]
    omega
  · have some := grows.positive further 0
    rw [wordsOf]
    omega

end MembersGrow

end ModularRouter.Storage
