import MarkupTemplate.Proofs.Selector.Meaning
import Mathlib.Data.List.Forall2

/-!
The ways to write a query. Any number of spaces stands around the sign of a combinator, a
descendant is written with spaces alone, and any blanks stand around an alternative. Main statement:
a query is read as certain alternatives exactly where it is one of the ways to write them, as long
as their tags hold nothing that ends a tag.
-/

namespace MarkupTemplate.Selector

/-- The sign of a combinator. That of a descendant is one of its spaces. -/
def sign : Combinator → Char
  | .descendant => ' '
  | .child => '>'
  | .adjacent => '+'
  | .sibling => '~'

/-- A combinator with spaces before and behind its sign. -/
def joint (combinator : Combinator) (before behind : Nat) : List Char :=
  List.replicate before ' ' ++ sign combinator :: List.replicate behind ' '

/-- The ways to write the segments behind the first one of an alternative. -/
inductive WritesRest : List Segment → List Char → Prop where
  | done : WritesRest [] []
  | next (segment : Segment) (before behind : Nat) (rest : List Segment) (text : List Char) :
      WritesRest rest text →
      WritesRest (segment :: rest)
        (joint segment.combinator before behind ++ (segment.tag.toList ++ text))

/-- The ways to write an alternative. Its first segment is one for any depth. -/
inductive WritesGroup : List Segment → List Char → Prop where
  | intro (tag : String) (rest : List Segment) (text : List Char) : WritesRest rest text →
      WritesGroup (⟨tag, .descendant⟩ :: rest) (tag.toList ++ text)

/-- The ways to write an alternative with blanks around it. -/
def WritesPadded (group : List Segment) (part : List Char) : Prop :=
  ∃ before text behind, part = before ++ (text ++ behind) ∧ WritesGroup group text ∧
    (∀ c ∈ before, isBlank c = true) ∧ ∀ c ∈ behind, isBlank c = true

/-- The ways to write alternatives with commas between them. -/
def Writes (groups : List (List Segment)) (query : List Char) : Prop :=
  ∃ parts, parts ≠ [] ∧ query = [','].intercalate parts ∧ List.Forall₂ WritesPadded groups parts

/-- A tag without a character that would end it. -/
structure IsTag (tag : String) : Prop where
  filled : tag.toList ≠ []
  dark : ∀ c ∈ tag.toList, isBlank c = false
  unmarked : ∀ c ∈ tag.toList, c ∉ [',', '>', '+', '~']

theorem split_at_joined (separator : Char) (text : List Char) :
    splitAtChar separator text ≠ [] ∧
      text = [separator].intercalate (splitAtChar separator text) := by
  induction text with
  | nil => simp [splitAtChar]
  | cons c rest ih =>
      obtain ⟨some, joined⟩ := ih
      obtain ⟨part, parts, behind⟩ := List.exists_cons_of_ne_nil some
      rw [behind] at joined
      by_cases mark : c = separator
      · rw [splitAtChar, if_pos mark, behind, List.intercalate_cons_cons, ← joined]
        exact ⟨List.cons_ne_nil _ _, by simp [mark]⟩
      · rw [splitAtChar, if_neg mark, behind]
        refine ⟨List.cons_ne_nil _ _, ?_⟩
        cases parts with
        | nil => rw [joined]; simp
        | cons next parts =>
            rw [joined, List.intercalate_cons_cons, List.intercalate_cons_cons]
            simp

theorem split_joined (separator : Char) (parts : List (List Char)) (some : parts ≠ [])
    (absent : ∀ part ∈ parts, separator ∉ part) :
    splitAtChar separator ([separator].intercalate parts) = parts := by
  induction parts with
  | nil => exact absurd rfl some
  | cons part rest ih =>
      have here := absent part List.mem_cons_self
      cases rest with
      | nil =>
          rw [List.intercalate_singleton]
          exact split_at_absent separator part here
      | cons next rest =>
          have later := ih (List.cons_ne_nil _ _) fun other member =>
            absent other (List.mem_cons_of_mem part member)
          rw [List.intercalate_cons_cons, List.append_assoc, List.singleton_append,
            split_at_separator separator part _ here, later]

/-- Nothing of a combinator stands at the start of the text. -/
def StartsBare (text : List Char) : Prop :=
  ∀ c ∈ text.head?, c ≠ ' ' ∧ Combinator.ofSymbol c = none

theorem spaces_replicate (count : Nat) (rest : List Char) (stops : ∀ c ∈ rest.head?, c ≠ ' ') :
    spaces (List.replicate count ' ' ++ rest) = count := by
  have run : (List.replicate count ' ' ++ rest).takeWhile (· == ' ') =
      List.replicate count ' ' := by
    rw [List.takeWhile_append_of_pos (by simp +contextual)]
    cases rest with
    | nil => simp
    | cons c rest => simp [stops c rfl]
  rw [spaces, run, List.length_replicate]

theorem spaces_split (text : List Char) :
    ∃ rest, text = List.replicate (spaces text) ' ' ++ rest ∧ ∀ c ∈ rest.head?, c ≠ ' ' := by
  have run : text.takeWhile (· == ' ') = List.replicate (spaces text) ' ' := by
    refine List.eq_replicate_iff.mpr ⟨rfl, fun c member => ?_⟩
    simpa using List.all_eq_true.mp List.all_takeWhile c member
  refine ⟨text.dropWhile (· == ' '), ?_, ?_⟩
  · rw [← run, List.takeWhile_append_dropWhile]
  · intro c first
    have stopped := List.head?_dropWhile_not (· == ' ') text
    rw [Option.mem_def.mp first] at stopped
    simpa using stopped

/-- The combinator whose sign is the first character, and its length behind some spaces. -/
def signAt? (before : Nat) : List Char → Option (Combinator × Nat)
  | [] => none
  | c :: rest =>
      (Combinator.ofSymbol c).map fun combinator => (combinator, before + 1 + spaces rest)

theorem combinator_at_spaces (before : Nat) (rest : List Char) (stops : ∀ c ∈ rest.head?, c ≠ ' ') :
    combinatorAt? (List.replicate before ' ' ++ rest) =
      (signAt? before rest).or (if before = 0 then none else some (.descendant, before)) := by
  rw [combinatorAt?, spaces_replicate before rest stops,
    List.drop_left' (List.length_replicate)]
  cases rest with
  | nil => rfl
  | cons c rest => cases found : Combinator.ofSymbol c <;> simp [signAt?, found]

theorem combinator_at_bare (c : Char) (rest : List Char) (bare : StartsBare (c :: rest)) :
    combinatorAt? (c :: rest) = none := by
  obtain ⟨space, symbol⟩ := bare c rfl
  have found := combinator_at_spaces 0 (c :: rest) fun other first => by
    rwa [← Option.some.inj first]
  simpa [signAt?, symbol] using found

theorem symbol_of_sign (combinator : Combinator) (symbol : combinator ≠ .descendant) :
    sign combinator ≠ ' ' ∧ Combinator.ofSymbol (sign combinator) = some combinator := by
  cases combinator with
  | descendant => exact absurd rfl symbol
  | child | adjacent | sibling => decide

theorem sign_of_symbol (c : Char) (combinator : Combinator)
    (found : Combinator.ofSymbol c = some combinator) : sign combinator = c := by
  rw [Combinator.ofSymbol] at found
  split at found
  · cases found
    exact Eq.symm ‹_›
  · split at found
    · cases found
      exact Eq.symm ‹_›
    · split at found
      · cases found
        exact Eq.symm ‹_›
      · cases found

theorem joint_descendant (before behind : Nat) :
    joint .descendant before behind = List.replicate (before + 1 + behind) ' ' := by
  rw [joint, sign, ← List.replicate_succ, List.replicate_append_replicate]
  congr 1
  omega

/-- A combinator is taken with all the spaces around its sign. -/
theorem combinator_at_joint (combinator : Combinator) (before behind : Nat) (rest : List Char)
    (bare : StartsBare rest) :
    combinatorAt? (joint combinator before behind ++ rest) =
      some (combinator, (joint combinator before behind).length) := by
  have stops : ∀ c ∈ rest.head?, c ≠ ' ' := fun c first => (bare c first).1
  by_cases spaced : combinator = .descendant
  · subst spaced
    rw [joint_descendant, combinator_at_spaces _ rest stops]
    cases rest with
    | nil => simp [signAt?]
    | cons c rest => simp [signAt?, (bare c rfl).2]
  · obtain ⟨other, symbol⟩ := symbol_of_sign combinator spaced
    rw [joint, List.append_assoc, combinator_at_spaces before _ (by simpa using other)]
    simp [signAt?, symbol, spaces_replicate behind rest stops]
    omega

/-- Whatever is taken for a combinator is one that is written with spaces around it. -/
theorem joint_of_combinator_at (text : List Char) (combinator : Combinator) (length : Nat)
    (found : combinatorAt? text = some (combinator, length)) :
    ∃ before behind rest, text = joint combinator before behind ++ rest ∧
      length = (joint combinator before behind).length := by
  obtain ⟨rest, split, stops⟩ := spaces_split text
  generalize spaces text = before at split
  subst split
  rw [combinator_at_spaces before rest stops] at found
  cases signed : signAt? before rest with
  | none =>
      rw [signed, Option.none_or] at found
      -- There is a first space, which counts as the sign.
      obtain ⟨more, rfl⟩ : ∃ more, before = more + 1 := by
        cases before with
        | zero => cases found
        | succ more => exact ⟨more, rfl⟩
      cases found
      exact ⟨0, more, rest, by simp [joint_descendant, Nat.add_comm], by simp [joint]⟩
  | some taken =>
      rw [signed, Option.some_or] at found
      cases found
      cases rest with
      | nil => cases signed
      | cons c rest =>
          obtain ⟨taken, symbol, same⟩ := Option.map_eq_some_iff.mp signed
          cases same
          obtain ⟨others, split, _⟩ := spaces_split rest
          refine ⟨before, spaces rest, others, ?_, by simp [joint]; omega⟩
          rw [joint, sign_of_symbol c combinator symbol, List.append_assoc, List.cons_append,
            ← split]

theorem segments_skip (skip : Nat) (combinator : Combinator) (tag skipped rest : List Char)
    (length : skipped.length = skip) :
    segmentsAfter skip combinator tag (skipped ++ rest) = segmentsAfter 0 combinator tag rest := by
  induction skipped generalizing skip with
  | nil => rw [← length]; rfl
  | cons c skipped ih =>
      rw [← length]
      exact ih _ rfl

theorem segments_tag (combinator : Combinator) (taken tag rest : List Char)
    (bare : ∀ c ∈ tag, c ≠ ' ' ∧ Combinator.ofSymbol c = none) :
    segmentsAfter 0 combinator taken (tag ++ rest) =
      segmentsAfter 0 combinator (tag.reverse ++ taken) rest := by
  induction tag generalizing taken with
  | nil => rfl
  | cons c tag ih =>
      have here : StartsBare (c :: (tag ++ rest)) := fun other first =>
        Option.some.inj first ▸ bare c List.mem_cons_self
      rw [List.cons_append, segmentsAfter, combinator_at_bare c _ here]
      have later := ih (c :: taken) fun other member => bare other (List.mem_cons_of_mem c member)
      simpa using later

theorem joint_starts (combinator : Combinator) (before behind : Nat) :
    ∃ first others, joint combinator before behind = first :: others := by
  apply List.exists_cons_of_ne_nil
  simp [joint]

theorem segments_joint (combinator next : Combinator) (taken : List Char) (before behind : Nat)
    (rest : List Char) (bare : StartsBare rest) :
    segmentsAfter 0 combinator taken (joint next before behind ++ rest) =
      ⟨String.ofList taken.reverse, combinator⟩ :: segmentsAfter 0 next [] rest := by
  have found := combinator_at_joint next before behind rest bare
  obtain ⟨first, others, whole⟩ := joint_starts next before behind
  rw [whole, List.cons_append] at found ⊢
  rw [segmentsAfter, found]
  have skipped := segments_skip others.length next [] others rest rfl
  simpa using skipped

theorem tag_bare (tag : String) (isTag : IsTag tag) :
    ∀ c ∈ tag.toList, c ≠ ' ' ∧ Combinator.ofSymbol c = none := by
  intro c member
  have dark := isTag.dark c member
  have unmarked := isTag.unmarked c member
  simp only [List.mem_cons, List.not_mem_nil, or_false, not_or] at unmarked
  obtain ⟨_, child, adjacent, sibling⟩ := unmarked
  constructor
  · rintro rfl
    simp at dark
  · simp [Combinator.ofSymbol, child, adjacent, sibling]

theorem tag_starts_bare (tag : String) (isTag : IsTag tag) (rest : List Char) :
    StartsBare (tag.toList ++ rest) := by
  intro c first
  rw [List.head?_append_of_ne_nil _ isTag.filled] at first
  exact tag_bare tag isTag c (List.mem_of_mem_head? first)

theorem segments_written (segment : Segment) (rest : List Segment) (text : List Char)
    (tags : ∀ other ∈ segment :: rest, IsTag other.tag) (writes : WritesRest rest text) :
    segmentsAfter 0 segment.combinator [] (segment.tag.toList ++ text) = segment :: rest := by
  induction writes generalizing segment with
  | done =>
      rw [segments_tag _ _ _ _ (tag_bare _ (tags segment List.mem_cons_self))]
      simp [segmentsAfter]
  | next following before behind rest text _ ih =>
      have later := ih following fun other member => tags other (List.mem_cons_of_mem _ member)
      have bare := tag_starts_bare following.tag
        (tags following (List.mem_cons_of_mem _ List.mem_cons_self)) text
      rw [segments_tag _ _ _ _ (tag_bare _ (tags segment List.mem_cons_self)),
        segments_joint _ _ _ _ _ _ bare, later]
      simp

/-- Segments are always read from one of the ways to write them. -/
theorem segments_sound (combinator : Combinator) (taken text : List Char) :
    ∃ tag rest behind, text = tag ++ behind ∧ WritesRest rest behind ∧
      segmentsAfter 0 combinator taken text =
        ⟨String.ofList (taken.reverse ++ tag), combinator⟩ :: rest := by
  induction size : text.length using Nat.strongRecOn generalizing combinator taken text with
  | ind size ih =>
      subst size
      cases text with
      | nil => exact ⟨[], [], [], rfl, .done, by simp [segmentsAfter]⟩
      | cons c text =>
          rw [segmentsAfter]
          cases found : combinatorAt? (c :: text) with
          | none =>
              obtain ⟨tag, rest, behind, rfl, writes, read⟩ :=
                ih text.length (Nat.lt_succ_self _) combinator (c :: taken) text rfl
              refine ⟨c :: tag, rest, behind, rfl, writes, ?_⟩
              rw [read]
              simp
          | some entry =>
              obtain ⟨next, length⟩ := entry
              obtain ⟨before, after, others, split, rfl⟩ := joint_of_combinator_at _ _ _ found
              obtain ⟨first, inside, whole⟩ := joint_starts next before after
              rw [whole, List.cons_append] at split
              obtain ⟨rfl, rfl⟩ := List.cons.inj split
              have shorter : others.length < (c :: (inside ++ others)).length := by
                simp only [List.length_cons, List.length_append]
                omega
              obtain ⟨tag, rest, behind, rfl, writes, read⟩ :=
                ih others.length shorter next [] others rfl
              have onward : WritesRest (⟨String.ofList tag, next⟩ :: rest)
                  (joint next before after ++ ((String.ofList tag).toList ++ behind)) :=
                .next _ before after rest behind writes
              rw [String.toList_ofList, whole, List.cons_append] at onward
              refine ⟨[], _, _, rfl, onward, ?_⟩
              have skipped := segments_skip inside.length next [] inside (tag ++ behind) rfl
              simp [whole, skipped, read]

/-- What is written ends with a character of a tag. -/
theorem written_dark (tag : List Char) (rest : List Segment) (text : List Char)
    (filled : tag ≠ []) (dark : ∀ c ∈ tag, isBlank c = false)
    (tags : ∀ other ∈ rest, IsTag other.tag) (writes : WritesRest rest text) :
    ∀ c ∈ (tag ++ text).getLast?, isBlank c = false := by
  induction writes generalizing tag with
  | done =>
      rw [List.append_nil]
      exact fun c last => dark c (List.mem_of_getLast? last)
  | next following before behind rest text _ ih =>
      have isTag := tags following List.mem_cons_self
      have later := ih following.tag.toList isTag.filled isTag.dark fun other member =>
        tags other (List.mem_cons_of_mem _ member)
      have more : following.tag.toList ++ text ≠ [] := by simp [isTag.filled]
      rwa [← List.append_assoc, List.getLast?_append_of_ne_nil _ more]

theorem joint_no_comma (combinator : Combinator) (before behind : Nat) :
    ',' ∉ joint combinator before behind := by
  cases combinator <;> simp [joint, sign]

theorem rest_no_comma (rest : List Segment) (text : List Char)
    (tags : ∀ other ∈ rest, IsTag other.tag) (writes : WritesRest rest text) : ',' ∉ text := by
  induction writes with
  | done => exact List.not_mem_nil
  | next following before behind rest text _ ih =>
      have isTag := tags following List.mem_cons_self
      have later := ih fun other member => tags other (List.mem_cons_of_mem _ member)
      have own : ',' ∉ following.tag.toList := fun member =>
        isTag.unmarked ',' member List.mem_cons_self
      simp [joint_no_comma, own, later]

theorem trim_padded (before text behind : List Char) (blank : ∀ c ∈ before, isBlank c = true)
    (last : ∀ c ∈ behind, isBlank c = true) : trim (before ++ (text ++ behind)) = trim text := by
  induction before with
  | nil => exact trim_append_blank text behind last
  | cons c before ih =>
      rw [List.cons_append, trim_blank_cons c _ (blank c List.mem_cons_self)]
      exact ih fun other member => blank other (List.mem_cons_of_mem c member)

theorem parse_group_written (group : List Segment) (part : List Char)
    (tags : ∀ segment ∈ group, IsTag segment.tag) (padded : WritesPadded group part) :
    parseGroup part = group ∧ ',' ∉ part := by
  obtain ⟨before, text, behind, rfl, ⟨tag, rest, text, writes⟩, blank, last⟩ := padded
  have isTag := tags _ List.mem_cons_self
  have others := fun other member => tags other (List.mem_cons_of_mem _ member)
  constructor
  · have starts : ∀ c ∈ (tag.toList ++ text).head?, isBlank c = false := by
      rw [List.head?_append_of_ne_nil _ isTag.filled]
      exact fun c first => isTag.dark c (List.mem_of_mem_head? first)
    rw [parseGroup, trim_padded before _ behind blank last, trim_dark_ends _ starts
      (written_dark _ rest text isTag.filled isTag.dark others writes)]
    exact segments_written ⟨tag, .descendant⟩ rest text tags writes
  · have dark : isBlank ',' = false := by decide
    have apart : ∀ blanks : List Char, (∀ c ∈ blanks, isBlank c = true) → ',' ∉ blanks := by
      intro blanks blank member
      rw [blank ',' member] at dark
      cases dark
    have own : ',' ∉ tag.toList := fun member => isTag.unmarked ',' member List.mem_cons_self
    simp [apart before blank, apart behind last, own, rest_no_comma rest text others writes]

/-- Any text is one of the ways to write what is read from it. -/
theorem parse_group_sound (part : List Char) : WritesPadded (parseGroup part) part := by
  obtain ⟨tag, rest, text, split, writes, read⟩ := segments_sound .descendant [] (trim part)
  obtain ⟨before, started, first⟩ := trim_start_split part
  obtain ⟨behind, ended, last⟩ := trim_end_split (trimStart part)
  refine ⟨before, trim part, behind, ?_, ?_, first, last⟩
  · rw [trim, ← ended, ← started]
  · have group : WritesGroup (⟨String.ofList tag, .descendant⟩ :: rest)
        ((String.ofList tag).toList ++ text) := .intro _ rest text writes
    rw [parseGroup, read, List.reverse_nil, List.nil_append, split]
    rwa [String.toList_ofList] at group

theorem parse_parts_written (groups : List (List Segment)) (parts : List (List Char))
    (tags : ∀ group ∈ groups, ∀ segment ∈ group, IsTag segment.tag)
    (padded : List.Forall₂ WritesPadded groups parts) :
    parts.map parseGroup = groups ∧ ∀ part ∈ parts, ',' ∉ part := by
  induction padded with
  | nil => exact ⟨rfl, nofun⟩
  | cons here _ ih =>
      obtain ⟨read, apart⟩ := parse_group_written _ _ (tags _ List.mem_cons_self) here
      obtain ⟨others, later⟩ := ih fun group member => tags group (List.mem_cons_of_mem _ member)
      exact ⟨by rw [List.map_cons, read, others], List.forall_mem_cons.mpr ⟨apart, later⟩⟩

theorem rest_writable (rest : List Segment) : ∃ text, WritesRest rest text := by
  induction rest with
  | nil => exact ⟨[], .done⟩
  | cons segment rest ih =>
      obtain ⟨text, writes⟩ := ih
      exact ⟨_, .next segment 0 0 rest text writes⟩

theorem group_writable_iff (group : List Segment) :
    (∃ part, WritesPadded group part) ↔ StartsAnywhere group := by
  constructor
  · rintro ⟨_, _, _, _, _, ⟨tag, rest, text, _⟩, _, _⟩
    rfl
  · intro anywhere
    cases group with
    | nil => cases anywhere
    | cons segment rest =>
        obtain ⟨tag, combinator⟩ := segment
        cases Option.some.inj anywhere
        obtain ⟨text, writes⟩ := rest_writable rest
        exact ⟨_, [], _, [], rfl, .intro tag rest text writes, nofun, nofun⟩

theorem parts_writable_iff (groups : List (List Segment)) :
    (∃ parts, List.Forall₂ WritesPadded groups parts) ↔
      ∀ group ∈ groups, StartsAnywhere group := by
  induction groups with
  | nil => exact iff_of_true ⟨[], .nil⟩ nofun
  | cons group rest ih =>
      rw [List.forall_mem_cons, ← ih, ← group_writable_iff]
      constructor
      · rintro ⟨_, padded⟩
        obtain ⟨part, parts, here, later, _⟩ := List.forall₂_cons_left_iff.mp padded
        exact ⟨⟨part, here⟩, ⟨parts, later⟩⟩
      · rintro ⟨⟨part, here⟩, ⟨parts, later⟩⟩
        exact ⟨part :: parts, .cons here later⟩

theorem writable_iff (groups : List (List Segment)) :
    (∃ query : String, Writes groups query.toList) ↔
      groups ≠ [] ∧ ∀ group ∈ groups, StartsAnywhere group := by
  rw [← parts_writable_iff]
  constructor
  · rintro ⟨_, parts, some, _, padded⟩
    refine ⟨?_, parts, padded⟩
    rintro rfl
    exact some (List.forall₂_nil_left_iff.mp padded)
  · rintro ⟨some, parts, padded⟩
    refine ⟨String.ofList ([','].intercalate parts), parts, ?_, String.toList_ofList, padded⟩
    rintro rfl
    exact some (List.forall₂_nil_right_iff.mp padded)

/-- The alternatives that can be written are those whose first segments may fit at any depth. A
query is read as such alternatives exactly where it is one of the ways to write them. -/
theorem parse_eq_iff_writes (groups : List (List Segment))
    (tags : ∀ group ∈ groups, ∀ segment ∈ group, IsTag segment.tag) :
    ((∃ query : String, Writes groups query.toList) ↔
        groups ≠ [] ∧ ∀ group ∈ groups, StartsAnywhere group) ∧
      ∀ query : String, parse query = groups ↔ Writes groups query.toList := by
  refine ⟨writable_iff groups, fun query => ⟨?_, ?_⟩⟩
  · rintro rfl
    obtain ⟨some, joined⟩ := split_at_joined ',' query.toList
    refine ⟨_, some, joined, ?_⟩
    rw [parse, List.forall₂_map_left_iff, List.forall₂_same]
    exact fun part _ => parse_group_sound part
  · rintro ⟨parts, some, joined, padded⟩
    obtain ⟨read, apart⟩ := parse_parts_written groups parts tags padded
    rw [parse, joined, split_joined ',' parts some apart, read]

/-- Two alternatives, the first of them with a child that stands two spaces behind it. -/
def sampleAlternatives : List (List Segment) :=
  [[⟨"a", .descendant⟩, ⟨"b", .child⟩, ⟨"*", .descendant⟩], [⟨"c", .descendant⟩]]

theorem parse_eq_iff_writes_sample :
    (∀ group ∈ sampleAlternatives, ∀ segment ∈ group, IsTag segment.tag) ∧
      Writes sampleAlternatives "a  >b   *\t,\n c".toList ∧
      parse "a  >b   *\t,\n c" = sampleAlternatives := by
  have tags : ∀ group ∈ sampleAlternatives, ∀ segment ∈ group, IsTag segment.tag := by
    have each : ∀ tag ∈ ["a", "b", "*", "c"], IsTag tag := by
      intro tag member
      simp only [List.mem_cons, List.not_mem_nil, or_false] at member
      rcases member with rfl | rfl | rfl | rfl <;>
        exact ⟨by decide, List.forall_mem_singleton.mpr rfl,
          List.forall_mem_singleton.mpr (by decide)⟩
    intro group member segment inside
    refine each segment.tag ?_
    have all : ∀ group ∈ sampleAlternatives, ∀ segment ∈ group,
        segment.tag ∈ ["a", "b", "*", "c"] := by decide
    exact all group member segment inside
  have first : WritesPadded [⟨"a", .descendant⟩, ⟨"b", .child⟩, ⟨"*", .descendant⟩]
      "a  >b   *\t".toList :=
    ⟨[], _, ['\t'], rfl, .intro "a" _ _ (.next ⟨"b", .child⟩ 2 0 _ _
      (.next ⟨"*", .descendant⟩ 1 1 _ _ .done)), nofun, List.forall_mem_singleton.mpr rfl⟩
  have second : WritesPadded [⟨"c", .descendant⟩] "\n c".toList :=
    ⟨['\n', ' '], _, [], rfl, .intro "c" _ _ .done,
      List.forall_mem_cons.mpr ⟨rfl, List.forall_mem_singleton.mpr rfl⟩, nofun⟩
  have writes : Writes sampleAlternatives "a  >b   *\t,\n c".toList :=
    ⟨_, List.cons_ne_nil _ _, rfl, .cons first (.cons second .nil)⟩
  exact ⟨tags, writes, ((parse_eq_iff_writes sampleAlternatives tags).2 _).mpr writes⟩

end MarkupTemplate.Selector
