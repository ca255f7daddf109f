import MarkupTemplate.Proofs.Binary64.Exact
import MarkupTemplate.Proofs.Binding.Conversion
import MarkupTemplate.Proofs.Binding.Typing
import MarkupTemplate.Proofs.Text.Integer

/-!
Conversion to integers. A value denotes at most one integer: a float the one without its fraction,
however large, and a text the one it spells, unless that is too large for 128 bits. Main statement:
a value converts to the integer that it denotes, where the type has that integer and the value is no
negative float for a type without a sign; any other value is refused.
-/

namespace MarkupTemplate

namespace Value

/-- The integer that a value denotes for every integer type. -/
inductive Denotes : Value → Int → Prop where
  | null : Denotes .null 0
  | int (number : Int64) : Denotes (.int number) number.toInt
  | float (number : Binary64) : number.isFinite = true →
      Denotes (.float number) (towardZero number.exact)
  | text (content : String) (number : Int) : SpellsInteger content.toList number →
      -2 ^ 127 ≤ number ∧ number < 2 ^ 127 → Denotes (.string content) number

/-- A float below zero, of whatever size. -/
def NegativeFloat (value : Value) : Prop :=
  ∃ number, value = .float number ∧
    (number = .infinity true ∨ number.isFinite = true ∧ number.exact < 0)

end Value

def ConvertError.IsNegative (error : ConvertError) : Prop :=
  ∃ shown target, error = .negative shown target

namespace Atom

theorem negative_float_iff (value : Value) :
    isNegativeFloat value = true ↔ value.NegativeFloat := by
  rw [Value.NegativeFloat]
  cases value with
  | float number => simp [isNegativeFloat, Binary64.below_zero_iff]
  | null | bool | int | string | list | map | record => simp [isNegativeFloat]

/-! On its way to a type an integer has 128 bits, more than any type. -/

theorem clamp_fitting (number : Int) (fits : -2 ^ 127 ≤ number ∧ number < 2 ^ 127) :
    clampWide number = number := by
  have least : leastWide = -2 ^ 127 := rfl
  have greatest : greatestWide = 2 ^ 127 - 1 := rfl
  rw [clampWide, least, greatest]
  omega

-- What is cut off lies outside of every type.
theorem clamp_within_iff (kind : IntKind) (number : Int) :
    kind.least ≤ clampWide number ∧ clampWide number ≤ kind.greatest ↔
      kind.least ≤ number ∧ number ≤ kind.greatest := by
  have inside := kind_within_wide kind
  rw [clampWide]
  omega

theorem clamp_inside (kind : IntKind) (number : Int)
    (within : kind.least ≤ number ∧ number ≤ kind.greatest) : clampWide number = number := by
  have inside := kind_within_wide kind
  rw [clampWide]
  omega

theorem clamp_negative_iff (number : Int) : clampWide number < 0 ↔ number < 0 := by
  have least : leastWide < 0 := by decide
  have greatest : 0 < greatestWide := by decide
  rw [clampWide]
  omega

theorem wide_text_iff (content : String) (number : Int) :
    wideOfText content = some number ↔
      SpellsInteger content.toList number ∧ -2 ^ 127 ≤ number ∧ number < 2 ^ 127 := by
  have least : leastWide = -2 ^ 127 := rfl
  have greatest : greatestWide = 2 ^ 127 - 1 := rfl
  rw [wideOfText, Option.filter_eq_some_iff, read_signed_iff, decide_eq_true_iff, least, greatest]
  refine and_congr_right fun _ => ?_
  omega

theorem denotes_unique (value : Value) (number other : Int) (first : value.Denotes number)
    (second : value.Denotes other) : number = other := by
  cases first with
  | null | int | float => cases second; rfl
  | text content number spells fits =>
      cases second with
      | text _ other again within =>
          have read := (wide_text_iff content number).mpr ⟨spells, fits⟩
          rw [(wide_text_iff content other).mpr ⟨again, within⟩] at read
          exact (Option.some.inj read).symm

theorem denoted_wide (target : String) (value : Value) (number : Int)
    (denotes : value.Denotes number) : wideOfValue target value = .ok (clampWide number) := by
  cases denotes with
  | null => rfl
  | int number =>
      have least := number.le_toInt
      have greatest := number.toInt_lt
      rw [wideOfValue, clamp_fitting number.toInt (by omega)]
  | float number finite => simp only [wideOfValue, number.truncate_exact finite]
  | text content number spells fits =>
      have wide := (wide_text_iff content number).mpr ⟨spells, fits⟩
      simp only [wideOfValue, wide, clamp_fitting number fits]

theorem undenoted_wide (target : String) (value : Value)
    (none : ∀ number, ¬value.Denotes number) :
    ∃ error, wideOfValue target value = .error error ∧ ¬error.IsNegative := by
  cases value with
  | null => exact absurd .null (none 0)
  | int number => exact absurd (.int number) (none _)
  | float number =>
      have infinite : number.isFinite = false := by
        rw [Bool.eq_false_iff]
        exact fun finite => none _ (.float number finite)
      refine ⟨.outOfRange (Value.floatText number) target, ?_, ?_⟩
      · simp only [wideOfValue, number.truncate_infinite infinite]
      · rintro ⟨_, _, ⟨⟩⟩
  | string content =>
      have unread : wideOfText content = .none := by
        rw [Option.eq_none_iff_forall_ne_some]
        intro number wide
        obtain ⟨spells, fits⟩ := (wide_text_iff content number).mp wide
        exact none number (.text content number spells fits)
      refine ⟨.unreadable content target, ?_, ?_⟩
      · simp only [wideOfValue, unread]
      · rintro ⟨_, _, ⟨⟩⟩
  | bool | list | map | record =>
      refine ⟨_, rfl, ?_⟩
      rintro ⟨_, _, ⟨⟩⟩

/-- The last step of a conversion, from 128 bits to the type. -/
def narrowed (kind : IntKind) (number : Int) : Except ConvertError Int :=
  if number < 0 ∧ kind.signed = false then
    .error (.negative (String.ofList (intText number)) kind.name)
  else if kind.least ≤ number ∧ number ≤ kind.greatest then .ok number
  else .error (.outOfRange (String.ofList (intText number)) kind.name)

theorem narrowed_ok_iff (kind : IntKind) (wide number : Int) :
    narrowed kind wide = .ok number ↔
      wide = number ∧ kind.least ≤ number ∧ number ≤ kind.greatest := by
  have unsigned : kind.signed = false → kind.least = 0 := fun unsigned =>
    if_neg (by simp [unsigned])
  rw [narrowed]
  split
  · rename_i below
    have least := unsigned below.2
    refine iff_of_false nofun ?_
    omega
  split
  · rename_i within
    rw [Except.ok.injEq]
    constructor
    · rintro rfl
      exact ⟨rfl, within⟩
    · exact And.left
  · rename_i outside
    refine iff_of_false nofun ?_
    rintro ⟨rfl, within⟩
    exact outside within

theorem narrowed_negative_iff (kind : IntKind) (wide : Int) :
    (∃ error, narrowed kind wide = .error error ∧ error.IsNegative) ↔
      kind.signed = false ∧ wide < 0 := by
  rw [narrowed]
  split
  · rename_i below
    exact iff_of_true ⟨_, rfl, _, _, rfl⟩ below.symm
  · rename_i above
    refine iff_of_false ?_ fun below => above below.symm
    split
    · rintro ⟨_, ⟨⟩, _⟩
    · rintro ⟨_, ⟨⟩, _, _, ⟨⟩⟩

theorem int_refused (kind : IntKind) (value : Value) (unsigned : kind.signed = false)
    (below : value.NegativeFloat) :
    ∃ error, intOfValue kind value = .error error ∧ error.IsNegative := by
  have negative := (negative_float_iff value).mpr below
  rw [intOfValue, unsigned, negative]
  exact ⟨_, rfl, _, _, rfl⟩

theorem int_narrowed (kind : IntKind) (value : Value)
    (admitted : ¬(kind.signed = false ∧ value.NegativeFloat)) :
    intOfValue kind value = wideOfValue kind.name value >>= narrowed kind := by
  have plain : (!kind.signed && isNegativeFloat value) = false := by
    rw [← negative_float_iff] at admitted
    simpa using admitted
  rw [intOfValue, plain]
  rfl

theorem int_denoted (kind : IntKind) (value : Value) (number : Int)
    (admitted : ¬(kind.signed = false ∧ value.NegativeFloat)) (denotes : value.Denotes number) :
    intOfValue kind value = narrowed kind (clampWide number) := by
  rw [int_narrowed kind value admitted, denoted_wide kind.name value number denotes]
  rfl

theorem int_undenoted (kind : IntKind) (value : Value)
    (admitted : ¬(kind.signed = false ∧ value.NegativeFloat))
    (none : ∀ number, ¬value.Denotes number) :
    ∃ error, intOfValue kind value = .error error ∧ ¬error.IsNegative := by
  obtain ⟨error, failed, other⟩ := undenoted_wide kind.name value none
  rw [int_narrowed kind value admitted, failed]
  exact ⟨error, rfl, other⟩

theorem int_ok_iff (kind : IntKind) (value : Value) (number : Int) :
    intOfValue kind value = .ok number ↔
      value.Denotes number ∧ (kind.least ≤ number ∧ number ≤ kind.greatest) ∧
        ¬(kind.signed = false ∧ value.NegativeFloat) := by
  by_cases admitted : kind.signed = false ∧ value.NegativeFloat
  · obtain ⟨error, failed, _⟩ := int_refused kind value admitted.1 admitted.2
    rw [failed]
    exact iff_of_false nofun fun converts => converts.2.2 admitted
  by_cases denoted : ∃ whole, value.Denotes whole
  · obtain ⟨whole, denotes⟩ := denoted
    rw [int_denoted kind value whole admitted denotes, narrowed_ok_iff]
    constructor
    · rintro ⟨rfl, within⟩
      rw [clamp_within_iff] at within
      rw [clamp_inside kind whole within]
      exact ⟨denotes, within, admitted⟩
    · rintro ⟨same, within, _⟩
      rw [denotes_unique value whole number denotes same]
      exact ⟨clamp_inside kind number within, within⟩
  · obtain ⟨error, failed, _⟩ := int_undenoted kind value admitted (not_exists.mp denoted)
    rw [failed]
    exact iff_of_false nofun fun converts => denoted ⟨number, converts.1⟩

theorem int_negative_iff (kind : IntKind) (value : Value) :
    (∃ error, intOfValue kind value = .error error ∧ error.IsNegative) ↔
      kind.signed = false ∧ (value.NegativeFloat ∨ ∃ number < 0, value.Denotes number) := by
  by_cases admitted : kind.signed = false ∧ value.NegativeFloat
  · exact iff_of_true (int_refused kind value admitted.1 admitted.2) (admitted.imp_right .inl)
  rw [and_or_left, or_iff_right admitted]
  by_cases denoted : ∃ number, value.Denotes number
  · obtain ⟨number, denotes⟩ := denoted
    rw [int_denoted kind value number admitted denotes, narrowed_negative_iff, clamp_negative_iff]
    refine and_congr_right fun _ => ⟨fun below => ⟨number, below, denotes⟩, ?_⟩
    rintro ⟨other, below, same⟩
    rwa [denotes_unique value number other denotes same]
  · obtain ⟨error, failed, other⟩ := int_undenoted kind value admitted (not_exists.mp denoted)
    rw [failed]
    refine iff_of_false ?_ ?_
    · rintro ⟨_, ⟨⟩, negative⟩
      exact other negative
    · rintro ⟨_, number, _, denotes⟩
      exact denoted ⟨number, denotes⟩

end Atom

/-- A value converts to an integer type exactly where it denotes an integer of the type, and then to
that integer, save that an unsigned type refuses every negative float. What does not convert is an
error, and it is one for a negative value only where the type is unsigned and the value negative. -/
theorem converts_to_integer_iff (schema : Schema) (kind : IntKind) (value : Value) :
    (∀ number, convert schema value (.atom (.int kind)) = .ok (.atom (.int number)) ↔
        value.Denotes number ∧ (kind.least ≤ number ∧ number ≤ kind.greatest) ∧
          ¬(kind.signed = false ∧ value.NegativeFloat)) ∧
      ((∃ error, convert schema value (.atom (.int kind)) = .error error) ↔
        ¬∃ number, value.Denotes number ∧ (kind.least ≤ number ∧ number ≤ kind.greatest) ∧
          ¬(kind.signed = false ∧ value.NegativeFloat)) ∧
      ((∃ error, convert schema value (.atom (.int kind)) = .error error ∧ error.IsNegative) ↔
        kind.signed = false ∧ (value.NegativeFloat ∨ ∃ number < 0, value.Denotes number)) := by
  rw [convert_atom, Atom.ofValue, ← Atom.int_negative_iff kind value]
  simp only [← Atom.int_ok_iff]
  cases Atom.intOfValue kind value with
  | ok number => simp [Except.map]
  | error error => simp [Except.map]

end MarkupTemplate
