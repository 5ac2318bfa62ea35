import ModularRouter.Namespace.Collection

/-!
# Chains of names

A name stands for the value of a variable or of a constant, which may be a name again.
`Scope.next?` is one step along such a chain, and `Scope.Leads` counts the steps. A value is
resolved to what stands at the end of its chain if that is at most 16 steps away, and refused
otherwise: `indirections_are_bounded`. So circular definitions do no harm.
-/

namespace ModularRouter.Namespace

open Ast (Expression Literal YulExpression)

/-! ## Values -/

/-- What is assigned to a slot, directly or through names: an expression of assembly or one of the
language. -/
inductive Assigned where
  /-- An expression of assembly. -/
  | yul (value : YulExpression)
  /-- An expression of the language. -/
  | plain (value : Expression)

namespace Assigned

/-- Whether a value is a slot itself: a number, or a hash that is accepted. -/
inductive IsSlot (digest : Digest) : Assigned → Slot → Prop where
  /-- A number in assembly. -/
  | yulNumber {text bytes : Option String} {word : Word}
      (read : word? (text.getD "") = some word) :
      IsSlot digest (.yul (.literal "number" text bytes)) (.word word)
  /-- A number of the language. -/
  | number {literal : Literal} {word : Word} (kind : literal.kind = .number)
      (read : word? (literal.value.getD "") = some word) :
      IsSlot digest (.plain (.literal literal)) (.word word)
  /-- A hash. -/
  | hash {callee : Expression} {arguments : List Expression} {slot : Slot}
      (called : calleeName? callee = some "keccak256")
      (accepted : slotOfHash digest arguments = .ok slot) :
      IsSlot digest (.plain (.call callee arguments)) slot

/-- What a value is resolved to on its own, no name being followed. -/
def ownSlot (digest : Digest) : Assigned → Except UnknownSlot Slot
  | .yul (.literal kind text _) =>
    if kind = "number" then slotOfNumber text else .error (.literalOfKind kind)
  | .yul (.identifier name) => .error (.unknownIdentifier name)
  | .yul (.call function _) => .error (.computedBy (some function))
  | .plain (.literal literal) =>
    if literal.kind = .number then slotOfNumber literal.value else .error .unsupported
  | .plain (.identifier name _) => .error (.unknownIdentifier name)
  | .plain (.call callee arguments) =>
    if calleeName? callee = some "keccak256" then slotOfHash digest arguments
    else .error (.computedBy (calleeName? callee))
  | .plain _ => .error .unsupported

section

variable {digest : Digest} {value : Assigned} {slot : Slot}

/-- A number that is read as a word is a slot, and no other one is. -/
theorem slotOfNumber_eq_ok_iff {text : Option String} :
    slotOfNumber text = .ok slot ↔
      ∃ word, word? (text.getD "") = some word ∧ .word word = slot := by
  rw [slotOfNumber]
  cases word? (text.getD "") with
  | none => simp
  | some word => simp

/-- A number is not refused for the names that are followed. -/
theorem slotOfNumber_ne_tooMany (text : Option String) :
    slotOfNumber text ≠ .error .tooManyIndirections := by
  rw [slotOfNumber]
  split <;> nofun

/-- A hash is not refused for the names that are followed. -/
theorem slotOfHash_ne_tooMany (arguments : List Expression) :
    slotOfHash digest arguments ≠ .error .tooManyIndirections := by
  unfold slotOfHash
  repeat' split
  all_goals nofun

/-- A value is resolved on its own exactly when it is a slot itself. -/
theorem ownSlot_eq_ok_iff : value.ownSlot digest = .ok slot ↔ value.IsSlot digest slot := by
  constructor
  · intro own
    unfold ownSlot at own
    split at own
    · split at own
      · next kind =>
        obtain ⟨word, read, rfl⟩ := slotOfNumber_eq_ok_iff.1 own
        exact kind ▸ .yulNumber read
      · cases own
    · cases own
    · cases own
    · split at own
      · next kind =>
        obtain ⟨word, read, rfl⟩ := slotOfNumber_eq_ok_iff.1 own
        exact .number kind read
      · cases own
    · cases own
    · split at own
      · next called => exact .hash called own
      · cases own
    · cases own
  · intro own
    cases own with
    | yulNumber read => simp only [ownSlot, slotOfNumber, read, if_pos]
    | number kind read => simp only [ownSlot, slotOfNumber, kind, read, if_pos]
    | hash called accepted => simp only [ownSlot, called, accepted, if_pos]

/-- A value on its own is not refused for the names that are followed. -/
theorem ownSlot_ne_tooMany : value.ownSlot digest ≠ .error .tooManyIndirections := by
  unfold ownSlot
  split
  · split
    · exact slotOfNumber_ne_tooMany _
    · nofun
  · nofun
  · nofun
  · split
    · exact slotOfNumber_ne_tooMany _
    · nofun
  · nofun
  · split
    · exact slotOfHash_ne_tooMany _
    · nofun
  · nofun

end

end Assigned

/-! ## Steps -/

namespace Scope

/-- What a name stands for. In assembly this is the value of the assembly variable of the name, if
there is one, elsewhere that of the constant that is referred to, if it has one, and otherwise what
the routine finds under the name. -/
def next? (scope : Scope) (visible : YulVariables) : Assigned → Option Assigned
  | .yul (.identifier name) =>
    match visible.lookup name with
    | some value => some (.yul value)
    | none => (scope.named? name).map .plain
  | .plain (.identifier name reference) =>
    ((scope.constantValue? reference).or (scope.named? name)).map .plain
  | _ => none

/-- Whether a value leads to another one in so many steps. -/
inductive Leads (scope : Scope) (visible : YulVariables) : Nat → Assigned → Assigned → Prop where
  /-- No step is taken. -/
  | here {value : Assigned} : Leads scope visible 0 value value
  /-- A first step is taken, and then others. -/
  | step {count : Nat} {value next last : Assigned}
      (followed : scope.next? visible value = some next)
      (later : Leads scope visible count next last) : Leads scope visible (count + 1) value last

/-- The slot that a value is resolved to; fewer than `steps` names are followed. -/
def slotOf (digest : Digest) (scope : Scope) (visible : YulVariables) (steps : Nat) :
    Assigned → Except UnknownSlot Slot
  | .yul value => scope.resolveYul digest visible steps value
  | .plain value => scope.resolve digest steps value

section

variable {digest : Digest} {scope : Scope} {visible : YulVariables} {value next last : Assigned}
  {slot : Slot} {count : Nat}

/-- Nothing is resolved without steps. -/
theorem slotOf_zero (value : Assigned) :
    scope.slotOf digest visible 0 value = .error .tooManyIndirections := by
  cases value <;> rfl

/-- A name is resolved to what it stands for, in one step less. -/
theorem slotOf_of_next (followed : scope.next? visible value = some next) (steps : Nat) :
    scope.slotOf digest visible (steps + 1) value = scope.slotOf digest visible steps next := by
  unfold next? at followed
  split at followed
  · next name =>
    split at followed
    · next inner found =>
      cases followed
      simp only [slotOf, resolveYul, found]
    · next free =>
      obtain ⟨inner, found, rfl⟩ := Option.map_eq_some_iff.1 followed
      simp only [slotOf, resolveYul, free, found]
  · next name reference =>
    obtain ⟨inner, found, rfl⟩ := Option.map_eq_some_iff.1 followed
    simp only [slotOf, resolve, found]
  · cases followed

/-- What stands for nothing else is resolved on its own. -/
theorem slotOf_of_end (ends : scope.next? visible value = none) (steps : Nat) :
    scope.slotOf digest visible (steps + 1) value = value.ownSlot digest := by
  cases value with
  | yul value =>
    cases value with
    | literal _ _ _ | call _ _ => rfl
    | identifier name =>
      rw [next?] at ends
      split at ends
      · cases ends
      · next free =>
        have unknown := Option.map_eq_none_iff.1 ends
        simp only [slotOf, resolveYul, free, unknown, Assigned.ownSlot]
  | plain value =>
    cases value with
    | literal _ | call _ _ | member _ _ | other => rfl
    | identifier name reference =>
      have unknown := Option.map_eq_none_iff.1 ends
      simp only [slotOf, resolve, unknown, Assigned.ownSlot]

/-- What is a slot itself stands for nothing else. -/
theorem next?_eq_none_of_isSlot (own : value.IsSlot digest slot) :
    scope.next? visible value = none := by
  cases own <;> rfl

/-- A value is resolved to what it leads to, in as many steps less. -/
theorem slotOf_of_leads (leads : scope.Leads visible count value last) (steps : Nat) :
    scope.slotOf digest visible (steps + count) value =
      scope.slotOf digest visible steps last := by
  induction leads with
  | here => rfl
  | step followed _ ih => rw [← Nat.add_assoc, slotOf_of_next followed, ih]

/-- What is led to at the end of a chain decides, if there are steps enough. -/
theorem slotOf_of_leads_end (leads : scope.Leads visible count value last)
    (ends : scope.next? visible last = none) {limit : Nat} (few : count ≤ limit) :
    scope.slotOf digest visible (limit + 1) value = last.ownSlot digest := by
  have enough : limit + 1 = limit - count + 1 + count := by omega
  rw [enough, slotOf_of_leads leads, slotOf_of_end ends]

/-- Either more steps can be taken than some limit, or the chain ends within it. -/
theorem exists_leads_or_ends (scope : Scope) (visible : YulVariables) (limit : Nat)
    (value : Assigned) :
    (∃ last, scope.Leads visible (limit + 1) value last) ∨
      ∃ count ≤ limit, ∃ last, scope.Leads visible count value last ∧
        scope.next? visible last = none := by
  -- The induction is on the limit, and for every value, as a step comes to another one.
  induction limit generalizing value with
  | zero =>
    cases followed : scope.next? visible value with
    | none => exact .inr ⟨0, Nat.le_refl _, value, .here, followed⟩
    | some next => exact .inl ⟨next, .step followed .here⟩
  | succ limit ih =>
    cases followed : scope.next? visible value with
    | none => exact .inr ⟨0, Nat.zero_le _, value, .here, followed⟩
    | some next =>
      rcases ih next with ⟨last, leads⟩ | ⟨count, few, last, leads, ends⟩
      · exact .inl ⟨last, .step followed leads⟩
      · exact .inr ⟨count + 1, Nat.succ_le_succ few, last, .step followed leads, ends⟩

/-! ## The limit -/

/-- A value is refused for the names that are followed exactly when more steps can be taken than are
allowed. -/
theorem slotOf_eq_tooMany_iff {limit : Nat} :
    scope.slotOf digest visible (limit + 1) value = .error .tooManyIndirections ↔
      ∃ last, scope.Leads visible (limit + 1) value last := by
  constructor
  · intro refused
    refine (exists_leads_or_ends scope visible limit value).resolve_right ?_
    -- At the end of a chain another error may stand, but never this one.
    rintro ⟨count, few, last, leads, ends⟩
    rw [slotOf_of_leads_end leads ends few] at refused
    exact Assigned.ownSlot_ne_tooMany refused
  · rintro ⟨last, leads⟩
    have whole : scope.slotOf digest visible (0 + (limit + 1)) value =
        scope.slotOf digest visible 0 last := slotOf_of_leads leads 0
    rwa [Nat.zero_add, slotOf_zero] at whole

/-- A value is resolved exactly when its chain comes to a slot within the steps that are allowed. -/
theorem slotOf_eq_ok_iff {limit : Nat} :
    scope.slotOf digest visible (limit + 1) value = .ok slot ↔
      ∃ count ≤ limit, ∃ last, scope.Leads visible count value last ∧
        last.IsSlot digest slot := by
  constructor
  · intro resolved
    rcases exists_leads_or_ends scope visible limit value with
      more | ⟨count, few, last, leads, ends⟩
    · rw [slotOf_eq_tooMany_iff.2 more] at resolved
      cases resolved
    · rw [slotOf_of_leads_end leads ends few] at resolved
      exact ⟨count, few, last, leads, Assigned.ownSlot_eq_ok_iff.1 resolved⟩
  · rintro ⟨count, few, last, leads, own⟩
    rw [slotOf_of_leads_end leads (next?_eq_none_of_isSlot own) few]
    exact Assigned.ownSlot_eq_ok_iff.2 own

/-! ## Circles -/

/-- Steps may be taken one after the other. -/
theorem Leads.trans {later : Nat} {middle : Assigned}
    (leads : scope.Leads visible count value middle)
    (more : scope.Leads visible later middle last) :
    scope.Leads visible (later + count) value last := by
  induction leads with
  | here => exact more
  | step followed _ ih => exact .step followed (ih more)

/-- Fewer steps may be taken. -/
theorem Leads.exists_of_le (leads : scope.Leads visible count value last) {fewer : Nat}
    (less : fewer ≤ count) : ∃ middle, scope.Leads visible fewer value middle := by
  induction leads generalizing fewer with
  | here =>
    cases Nat.le_zero.1 less
    exact ⟨_, .here⟩
  | step followed _ ih =>
    cases fewer with
    | zero => exact ⟨_, .here⟩
    | succ fewer =>
      obtain ⟨middle, leads⟩ := ih (Nat.le_of_succ_le_succ less)
      exact ⟨middle, .step followed leads⟩

/-- A circle may be gone round as often as one likes. -/
theorem Leads.rounds {period : Nat} (circle : scope.Leads visible period value value)
    (times : Nat) : scope.Leads visible (times * period) value value := by
  induction times with
  | zero =>
    rw [Nat.zero_mul]
    exact .here
  | succ times ih =>
    rw [Nat.succ_mul, Nat.add_comm]
    exact ih.trans circle

/-- On a circular chain any number of steps may be taken. -/
theorem Leads.exists_of_circle {period : Nat} (around : 0 < period)
    (leads : scope.Leads visible count value last)
    (circle : scope.Leads visible period last last) (steps : Nat) :
    ∃ middle, scope.Leads visible steps value middle := by
  have long : steps ≤ steps * period + count :=
    Nat.le_add_right_of_le (Nat.le_mul_of_pos_right steps around)
  exact (leads.trans (circle.rounds steps)).exists_of_le long

end

/-- Whatever is declared, circles included, a value is resolved to a slot exactly when its chain
comes within 16 steps to a number that is read or to a hash that is accepted, and the slot is that
of what it comes to. It is refused for the names that are followed exactly when a 17th step can be
taken, and so on every circular chain. In all other cases the end of the chain decides. -/
theorem indirections_are_bounded (digest : Digest) (scope : Scope) (visible : YulVariables)
    (value : Assigned) :
    (∀ slot, scope.slotOf digest visible (maxIndirections + 1) value = .ok slot ↔
      ∃ count ≤ 16, ∃ last, scope.Leads visible count value last ∧ last.IsSlot digest slot) ∧
    (scope.slotOf digest visible (maxIndirections + 1) value = .error .tooManyIndirections ↔
      ∃ last, scope.Leads visible 17 value last) ∧
    (∀ count period last, 0 < period → scope.Leads visible count value last →
      scope.Leads visible period last last →
      scope.slotOf digest visible (maxIndirections + 1) value = .error .tooManyIndirections) ∧
    (∀ count ≤ 16, ∀ last, scope.Leads visible count value last →
      scope.next? visible last = none →
      scope.slotOf digest visible (maxIndirections + 1) value = last.ownSlot digest) ∧
    (∀ pointer assigned, value = .yul assigned →
      (assignment digest scope ⟨pointer, some assigned, visible⟩ =
        .error ⟨scope.unit.path, scope.owner, scope.routine, .tooManyIndirections⟩ ↔
          ∃ last, scope.Leads visible 17 value last)) ∧
    UnknownSlot.tooManyIndirections.message = "too many indirections" := by
  refine ⟨fun slot => slotOf_eq_ok_iff, slotOf_eq_tooMany_iff,
    fun count period last around leads circle => ?_,
    fun count few last leads ends => slotOf_of_leads_end leads ends few, ?_, rfl⟩
  · exact slotOf_eq_tooMany_iff.2 (leads.exists_of_circle around circle _)
  · rintro pointer assigned rfl
    have same : scope.slotOf digest visible (maxIndirections + 1) (.yul assigned) =
        scope.targetSlot digest ⟨pointer, some assigned, visible⟩ := rfl
    have refused : scope.slotOf digest visible (maxIndirections + 1) (.yul assigned) =
        .error .tooManyIndirections ↔ ∃ last, scope.Leads visible 17 (.yul assigned) last :=
      slotOf_eq_tooMany_iff
    rw [← refused, same, assignment]
    split
    · next found => simp [found]
    · next found => simp [found]

/-- Two assembly variables that stand for each other are no slot. -/
example (digest : Digest) (scope : Scope) :
    scope.resolveYul digest [("x", .identifier "y"), ("y", .identifier "x")] (maxIndirections + 1)
      (.identifier "x") = .error .tooManyIndirections :=
  rfl

end Scope

end ModularRouter.Namespace
