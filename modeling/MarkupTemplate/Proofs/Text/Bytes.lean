/-!
Texts as bytes. A position in a text counts the bytes of UTF-8 in front of it, and a text can be cut
only where a character begins or the text ends. Main statements: a cut at a position has as many
bytes in front of it, and at such a position a byte shows whether the character there is a given
ASCII character.
-/

namespace MarkupTemplate

def byteLength : List Char → Nat
  | [] => 0
  | c :: rest => c.utf8Size + byteLength rest

/-- The text in front of a position and the text from it on. There is no cut inside of a character
or behind the end. -/
def cutAt : Nat → List Char → Option (List Char × List Char)
  | 0, text => some ([], text)
  | _ + 1, [] => none
  | position + 1, c :: rest =>
      if c.utf8Size ≤ position + 1 then
        (cutAt (position + 1 - c.utf8Size) rest).map fun parts => (c :: parts.1, parts.2)
      else none

/-- The byte at a position, as the character with that code. -/
def byteAt (position : Nat) (text : List Char) : Option Char :=
  (text.flatMap String.utf8EncodeChar)[position]?.map Char.ofUInt8

@[simp] theorem byte_length_nil : byteLength [] = 0 := rfl

@[simp] theorem byte_length_cons (c : Char) (rest : List Char) :
    byteLength (c :: rest) = c.utf8Size + byteLength rest := rfl

theorem byte_length_append (front rest : List Char) :
    byteLength (front ++ rest) = byteLength front + byteLength rest := by
  induction front with
  | nil => rw [List.nil_append, byte_length_nil, Nat.zero_add]
  | cons c front ih => rw [List.cons_append, byte_length_cons, byte_length_cons, ih, Nat.add_assoc]

theorem byte_length_zero_iff (text : List Char) : byteLength text = 0 ↔ text = [] := by
  cases text with
  | nil => simp
  | cons c rest =>
      have filled := c.utf8Size_pos
      simp only [byte_length_cons, reduceCtorEq, iff_false]
      omega

theorem cut_at_zero (text : List Char) : cutAt 0 text = some ([], text) := by
  cases text <;> rfl

/-- A cut behind a beginning of a text gives it and the rest. -/
theorem cut_behind (front rest : List Char) :
    cutAt (byteLength front) (front ++ rest) = some (front, rest) := by
  induction front with
  | nil => exact cut_at_zero rest
  | cons c front ih =>
      have filled := c.utf8Size_pos
      have behind : byteLength (c :: front) = byteLength front + (c.utf8Size - 1) + 1 := by
        rw [byte_length_cons]
        omega
      have later : byteLength front + (c.utf8Size - 1) + 1 - c.utf8Size = byteLength front := by
        omega
      rw [behind, List.cons_append, cutAt, if_pos (by omega), later, ih, Option.map_some]

theorem cut_parts (position : Nat) (text front rest : List Char)
    (cut : cutAt position text = some (front, rest)) :
    text = front ++ rest ∧ byteLength front = position := by
  fun_induction cutAt position text generalizing front with
  | case1 text =>
      cases cut
      exact ⟨rfl, rfl⟩
  | case2 => cases cut
  | case3 position c text fits ih =>
      obtain ⟨parts, found, same⟩ := Option.map_eq_some_iff.mp cut
      cases same
      obtain ⟨whole, length⟩ := ih parts.1 found
      refine ⟨by rw [whole, List.cons_append], ?_⟩
      rw [byte_length_cons, length]
      omega
  | case4 => cases cut

/-- The cuts of a text are those behind its beginnings, at the number of their bytes. -/
theorem cut_at_iff (position : Nat) (text front rest : List Char) :
    cutAt position text = some (front, rest) ↔
      text = front ++ rest ∧ byteLength front = position := by
  constructor
  · exact cut_parts position text front rest
  · rintro ⟨rfl, rfl⟩
    exact cut_behind front rest

theorem bytes_length (text : List Char) :
    (text.flatMap String.utf8EncodeChar).length = byteLength text := by
  induction text with
  | nil => rfl
  | cons c rest ih =>
      rw [List.flatMap_cons, List.length_append, String.length_utf8EncodeChar, ih, byte_length_cons]

theorem byte_code (code : Nat) (small : code < 256) :
    (Char.ofUInt8 (UInt8.ofNat code)).toNat = code :=
  (UInt8.toNat_toUInt32 _).trans (UInt8.toNat_ofNat_of_lt' small)

/-- The first byte of a character is the character itself, if it is an ASCII character, and no ASCII
character otherwise. -/
theorem first_byte (c : Char) : ∃ byte more, String.utf8EncodeChar c = byte :: more ∧
    (Char.ofUInt8 byte = c ∨ 128 ≤ c.toNat ∧ 128 ≤ (Char.ofUInt8 byte).toNat) := by
  have code : c.val.toNat = c.toNat := rfl
  by_cases ascii : c.toNat ≤ 127
  · refine ⟨UInt8.ofNat c.toNat, [], by simp [String.utf8EncodeChar, ascii], .inl ?_⟩
    exact Char.ext (UInt32.toNat.inj (byte_code c.toNat (by omega)))
  · simp only [String.utf8EncodeChar, code, if_neg ascii]
    have high : 128 ≤ c.toNat := by omega
    split
    · exact ⟨_, _, rfl, .inr ⟨high, by rw [byte_code _ (by omega)]; omega⟩⟩
    · split <;> exact ⟨_, _, rfl, .inr ⟨high, by rw [byte_code _ (by omega)]; omega⟩⟩

/-- Where a character begins, its first byte tells the ASCII characters apart as the character
itself does. -/
theorem byte_test {β : Type} (test : Char → β) (other : β)
    (blind : ∀ c : Char, 128 ≤ c.toNat → test c = other) (front rest : List Char) :
    (byteAt (byteLength front) (front ++ rest)).map test = rest.head?.map test := by
  rw [byteAt, List.flatMap_append, ← bytes_length, List.getElem?_append_right (Nat.le_refl _),
    Nat.sub_self]
  cases rest with
  | nil => rfl
  | cons c rest =>
      obtain ⟨byte, more, bytes, seen⟩ := first_byte c
      rw [List.flatMap_cons, bytes, List.cons_append, List.getElem?_cons_zero, List.head?_cons,
        Option.map_some, Option.map_some, Option.map_some]
      rcases seen with same | ⟨high, highByte⟩
      · rw [same]
      · rw [blind c high, blind _ highByte]

theorem any_byte (test : Char → Bool) (blind : ∀ c : Char, 128 ≤ c.toNat → test c = false)
    (front rest : List Char) :
    (byteAt (byteLength front) (front ++ rest)).any test = rest.head?.any test := by
  have same := congrArg (Option.any id) (byte_test test false blind front rest)
  rwa [Option.any_map, Option.any_map] at same

theorem bind_byte {β : Type} (read : Char → Option β)
    (blind : ∀ c : Char, 128 ≤ c.toNat → read c = none) (front rest : List Char) :
    (byteAt (byteLength front) (front ++ rest)).bind read = rest.head?.bind read := by
  have same := congrArg (Option.bind · id) (byte_test read none blind front rest)
  rwa [Option.bind_map, Option.bind_map] at same

theorem ascii_apart (other : Char) (ascii : other.toNat < 128) (c : Char) (high : 128 ≤ c.toNat) :
    (c == other) = false := by
  refine beq_eq_false_iff_ne.mpr ?_
  rintro rfl
  exact absurd high (Nat.not_le.mpr ascii)

end MarkupTemplate
