import MarkupTemplate.Value.Order

/-!
The laws of the order of values. Numbers, texts and truth values are each ordered as usual, but a
text that reads as a number has two orders: that of numbers, where it stands on the left, and that
of texts, where it stands behind a text that is no number. Main statement: turning a comparison
around reverses it, and smaller values stay smaller down a row, save for two such texts.
-/

namespace MarkupTemplate

namespace Value

/-- How two values are ordered. Two texts are compared as such only where the left one is no
number. -/
inductive Compares : Value → Value → Ordering → Prop where
  | numbers {left right : Value} {ordering : Ordering} (x y : Binary64) :
      left.asFloat = some x → right.asFloat = some y → x.compare? y = some ordering →
        Compares left right ordering
  | texts {ordering : Ordering} (left right : String) : Binary64.ofText left = none →
      compare left right = ordering → Compares (.string left) (.string right) ordering
  | truths {ordering : Ordering} (left right : Bool) : compare left right = ordering →
      Compares (.bool left) (.bool right) ordering

theorem compare_iff (left right : Value) (ordering : Ordering) :
    left.compare? right = some ordering ↔ Compares left right ordering := by
  unfold compare?
  constructor
  · intro found
    split at found
    · rename_i x number
      obtain ⟨y, other, compared⟩ := Option.bind_eq_some_iff.mp found
      exact .numbers x y number other compared
    · rename_i plain
      split at found
      · exact .texts _ _ plain (Option.some.inj found)
      · exact .truths _ _ (Option.some.inj found)
      · cases found
  · intro compares
    cases compares with
    | numbers x y number other compared =>
        rw [number, other]
        exact compared
    | texts left right plain compared =>
        have reads : (Value.string left).asFloat = none := plain
        rw [reads, ← compared]
    | truths left right compared => exact congrArg some compared

/-- A text that is no number, and one that is. -/
def TextThenNumeral (left right : Value) : Prop :=
  ∃ plain numeral, left = .string plain ∧ right = .string numeral ∧
    Binary64.ofText plain = none ∧ Binary64.ofText numeral ≠ none

/-- Two texts of which just one reads as a number. -/
def Mixed (left right : Value) : Prop :=
  TextThenNumeral left right ∨ TextThenNumeral right left

/-- Two texts in the order of their code points. -/
def TextsAscend (left right : Value) : Prop :=
  ∃ first last, left = .string first ∧ right = .string last ∧ compare first last = .lt

theorem mixed_comm (left right : Value) : Mixed left right ↔ Mixed right left := Or.comm

theorem compares_turned (left right : Value) (ordering : Ordering) (unmixed : ¬Mixed left right)
    (compares : Compares left right ordering) : Compares right left ordering.swap := by
  cases compares with
  | numbers x y number other compared =>
      have turned : y.compare? x = some ordering.swap := by
        rw [Binary64.compare_swap x y, compared]
        rfl
      exact .numbers y x other number turned
  | texts left right plain compared =>
      cases reads : Binary64.ofText right with
      | none => exact .texts right left reads (compared ▸ Std.OrientedOrd.eq_swap)
      | some number =>
          have numeral : Binary64.ofText right ≠ none := reads ▸ Option.some_ne_none number
          exact absurd (.inl ⟨left, right, rfl, rfl, plain, numeral⟩) unmixed
  | truths left right compared =>
      exact .truths right left (compared ▸ Std.OrientedOrd.eq_swap)

theorem compare_turned (left right : Value) (unmixed : ¬Mixed left right) :
    right.compare? left = (left.compare? right).map Ordering.swap := by
  cases compared : left.compare? right with
  | some ordering =>
      have compares := (compare_iff left right ordering).mp compared
      exact (compare_iff right left _).mpr (compares_turned left right ordering unmixed compares)
  | none =>
      rw [Option.map_none, Option.eq_none_iff_forall_ne_some]
      intro ordering found
      have compares := (compare_iff right left ordering).mp found
      have unturned : ¬Mixed right left := mt (mixed_comm left right).mpr unmixed
      have back := compares_turned right left ordering unturned compares
      rw [(compare_iff left right _).mpr back] at compared
      cases compared

-- The right text is a number, and so it is compared with numbers only where it stands first.
theorem text_compared (left right : Value) (mixed : TextThenNumeral left right) :
    (∃ ordering, left.compare? right = some ordering) ∧ right.compare? left = none := by
  obtain ⟨plain, numeral, rfl, rfl, text, number⟩ := mixed
  constructor
  · exact ⟨_, (compare_iff _ _ _).mpr (.texts plain numeral text rfl)⟩
  · rw [Option.eq_none_iff_forall_ne_some]
    intro ordering found
    cases (compare_iff _ _ ordering).mp found with
    | numbers x y _ other _ => exact Option.some_ne_none y (other.symm.trans text)
    | texts _ _ unread _ => exact number unread

/-- A comparison is reversed when it is turned around, unless one side alone is a number. -/
theorem compare_turned_iff (left right : Value) :
    right.compare? left = (left.compare? right).map Ordering.swap ↔ ¬Mixed left right := by
  refine ⟨?_, compare_turned left right⟩
  rintro turned (mixed | mixed)
  · obtain ⟨⟨ordering, found⟩, refused⟩ := text_compared left right mixed
    rw [found, refused] at turned
    cases turned
  · obtain ⟨⟨ordering, found⟩, refused⟩ := text_compared right left mixed
    rw [found, refused] at turned
    cases turned

theorem compares_trans (left middle right : Value) (unmixed : ¬TextThenNumeral left middle)
    (first : Compares left middle .lt) (second : Compares middle right .lt) :
    Compares left right .lt := by
  cases first with
  | numbers x y number other less =>
      cases second with
      | numbers again z same last later =>
          cases other.symm.trans same
          exact .numbers x z number last (Binary64.compare_trans x y z less later)
      | texts _ _ plain _ => exact absurd (other.symm.trans plain) (Option.some_ne_none y)
      | truths => cases other
  | texts start middle plain less =>
      cases second with
      | numbers x y number _ _ =>
          have numeral : Binary64.ofText middle ≠ none := fun unread =>
            Option.some_ne_none x (number.symm.trans unread)
          exact absurd ⟨start, middle, rfl, rfl, plain, numeral⟩ unmixed
      | texts _ last _ later => exact .texts start last plain (Std.TransCmp.lt_trans less later)
  | truths start middle less =>
      cases second with
      | numbers x y number _ _ => cases number
      | truths _ last later => exact .truths start last (Std.TransCmp.lt_trans less later)

/-- Smaller values stay smaller down a row. Where a text comes before a numeral, they do so for the
texts that come later as texts. -/
theorem less_trans_iff (left middle right : Value) (first : left.compare? middle = some .lt)
    (second : middle.compare? right = some .lt) :
    left.compare? right = some .lt ↔ (TextThenNumeral left middle → TextsAscend left right) := by
  rw [compare_iff] at first second ⊢
  constructor
  · rintro less ⟨plain, numeral, rfl, rfl, text, _⟩
    cases less with
    | numbers x y number _ _ => exact absurd (number.symm.trans text) (Option.some_ne_none x)
    | texts _ last _ less => exact ⟨plain, last, rfl, rfl, less⟩
  · intro ascend
    by_cases mixed : TextThenNumeral left middle
    · obtain ⟨start, last, rfl, rfl, less⟩ := ascend mixed
      obtain ⟨plain, numeral, same, _, text, _⟩ := mixed
      cases same
      exact .texts start last text less
    · exact compares_trans left middle right mixed first second

end Value

end MarkupTemplate
