import MarkupTemplate.Proofs.Expr.Roots
import MarkupTemplate.Proofs.Template.Parts
import MarkupTemplate.Proofs.Token.Slices
import Mathlib.Data.List.Basic

/-!
What a template can see of its context. A name reaches the scope as a dotted path or as a variable
of an expression, and the text of either is printed, the value of an attribute, a condition or the
items of a loop, all of them cut out of the source. The names that loops bind hide the same names of
the context on both sides. Main statement: contexts that agree on the names which stand in the
source render alike, so entries under other names are never seen.
-/

namespace MarkupTemplate

/-- The name stands in the text as one piece. -/
def Mentions (text : List Char) (name : String) : Prop := name.toList <:+: text

instance (text : List Char) (name : String) : Decidable (Mentions text name) :=
  inferInstanceAs (Decidable (name.toList <:+: text))

/-- Whatever stands in the text is among the names. -/
def Covers (names : String → Prop) (text : List Char) : Prop :=
  ∀ name, Mentions text name → names name

theorem covers_within (names : String → Prop) (text piece : List Char) (within : piece <:+: text)
    (covered : Covers names text) : Covers names piece :=
  fun name stands => covered name (stands.trans within)

theorem split_as_begins (text before after : List Char)
    (split : splitAs text = some (before, after)) : before <+: text := by
  induction text generalizing before with
  | nil => cases split
  | cons c rest ih =>
      rw [splitAs] at split
      cases word : asWord? (c :: rest) with
      | some length =>
          rw [word] at split
          cases split
          exact List.nil_prefix
      | none =>
          rw [word] at split
          obtain ⟨⟨later, behind⟩, found, same⟩ := Option.map_eq_some_iff.mp split
          cases same
          exact List.cons_prefix_cons.mpr ⟨rfl, ih later found⟩

namespace Scope

def AgreeOn (names : String → Prop) (left right : Scope) : Prop :=
  ∀ name, names name → left.find name = right.find name

section

variable {names : String → Prop} {left right : Scope} (agree : AgreeOn names left right)

include agree

theorem child_agree (name : String) (value : Value) :
    AgreeOn names (left.child name value) (right.child name value) := by
  intro key known
  rw [find_child, find_child, agree key known]

theorem evaluate_agree (text : String) (covered : Covers names text.toList) :
    left.evaluate text = right.evaluate text := by
  have same := Expr.evaluate_roots left right text fun name stands =>
    agree name (covered name stands)
  rw [evaluate, evaluate, same]

theorem look_up_path_agree (path : List Char) (covered : Covers names path) :
    left.lookUpPath path = right.lookUpPath path := by
  rw [lookUpPath, lookUpPath, pathNames]
  cases split : splitAtChar '.' path with
  | nil => rfl
  | cons first rest =>
      have stands : Mentions path (String.ofList first) := by
        rw [Mentions, String.toList_ofList]
        exact (split_at_begins '.' path first rest split).isInfix
      have found := agree _ (covered _ stands)
      simp only [List.map_cons, found]

theorem interpolate_agree (text : String) (covered : Covers names text.toList) :
    left.interpolate text = right.interpolate text := by
  have trimmed := covers_within names _ _ (trim_within text.toList) covered
  have path := look_up_path_agree agree _ trimmed
  have value := evaluate_agree agree (String.ofList (trim text.toList))
    (by rw [String.toList_ofList]; exact trimmed)
  rw [interpolate, interpolate, path, value]

end

end Scope

open Scope (AgreeOn)

section

variable (names : String → Prop)

/-- In scopes that agree on the names the part produces the same elements. -/
def Body.GoesBy (body : Body) : Prop :=
  ∀ left right : Scope, AgreeOn names left right → body left = body right

/-- The directive goes by the names in every block whose slots do and whose text they cover. -/
def Directive.GoesBy (directive : Directive) : Prop :=
  ∀ (token : Token) (slots : Dict Body), Covers names token.extra.toList →
    (∀ name, (slotBody slots name).GoesBy names) → Body.GoesBy names (directive token slots)

def Directives.GoBy (directives : Directives) : Prop :=
  ∀ name directive, Dict.find name directives = some directive → directive.GoesBy names

theorem if_goes_by : Directive.GoesBy names ifDirective := by
  intro token slots covered named left right agree
  rw [ifDirective, ifDirective, Scope.evaluate_agree agree token.extra covered]
  exact named _ left right agree

theorem each_goes_by : Directive.GoesBy names eachDirective := by
  intro token slots covered named left right agree
  rw [eachDirective, eachDirective]
  cases split : splitAs token.extra.toList with
  | none => rfl
  | some parts =>
      obtain ⟨items, name⟩ := parts
      have stands := (split_as_begins _ items name split).isInfix
      have same := Scope.interpolate_agree agree (String.ofList items)
        (by rw [String.toList_ofList]; exact covers_within names _ _ stands covered)
      simp only [same]
      cases (right.interpolate (String.ofList items)).loopItems with
      | none => rfl
      | some values =>
          -- Every round binds the same name to the same item on both sides.
          apply List.flatMap_congr
          intro value _
          exact named defaultSlot _ _ (Scope.child_agree agree _ value)

theorem builtins_go_by : builtins.GoBy names :=
  builtins_each (Directive.GoesBy names) (if_goes_by names) (each_goes_by names)

namespace Reader

variable {names} (reader : Reader) (directives : reader.directives.GoBy names)

include directives

theorem token_goes_by (token : Token) (slots : Dict Body)
    (covered : Covers names token.extra.toList)
    (named : ∀ name, (slotBody slots name).GoesBy names) :
    Body.GoesBy names (reader.tokenBody token slots) := by
  intro left right agree
  have attrs : readAttrs reader.templated left.interpolate token.extra =
      readAttrs reader.templated right.interpolate token.extra := by
    apply Given.read_attrs_agree
    intro _ text stands
    exact Scope.interpolate_agree agree text (covers_within names _ _ stands covered)
  have value := Scope.interpolate_agree agree token.extra covered
  have inner := named defaultSlot left right agree
  rw [tokenBody, tokenBody, attrs, value, inner]
  cases token.bracket with
  | angle => rfl
  | curly =>
      by_cases printed : token.name = ""
      · simp only [printed, ↓reduceIte]
      · simp only [printed, ↓reduceIte]
        cases found : Dict.find token.name reader.directives with
        | none => rfl
        | some directive => exact directives _ _ found token slots covered named left right agree

/-- A forest goes by the names that cover the texts of its tokens. -/
theorem forest_goes_by (nodes : List Node)
    (covered : ∀ token, .token token ∈ Node.everything nodes → Covers names token.extra.toList) :
    Body.GoesBy names (reader.forestBody nodes) := by
  have relates : Relates reader reader (fun token => Covers names token.extra.toList)
      fun _ body _ => body.GoesBy names := by
    constructor
    · intro _ left right agree
      rfl
    · intro _ first _ rest _ firstNamed restNamed left right agree
      simp only [firstNamed left right agree, restNamed left right agree]
    · intro _ content left right agree
      rfl
    · intro _ token slots _ within named
      exact token_goes_by reader directives token slots within named
  exact forest_related relates nodes _ (Nat.le_refl _) covered

end Reader

end

theorem render_agree (source : String) (left right : Dict Value)
    (agree : ∀ name, Mentions source.toList name → Dict.find name left = Dict.find name right) :
    render source left = render source right := by
  have body := Reader.forest_goes_by Reader.template (builtins_go_by (Mentions source.toList))
    (fold (tokenize true source)) fun token member =>
      covers_within _ _ _ (Scan.cut_extra true _ token (Scan.forest_cut true source token member))
        fun _ stands => stands
  exact body (.root left) (.root right) agree

/-- A template renders alike in contexts that agree on the names which stand in its source.
Entries under other names may be written and erased without a trace. -/
theorem render_sees_mentioned (source : String) :
    (∀ left right : Dict Value,
      (∀ name, Mentions source.toList name → Dict.find name left = Dict.find name right) →
        render source left = render source right) ∧
    (∀ context entries : Dict Value,
      (∀ name ∈ Dict.keys entries, ¬ Mentions source.toList name) →
        render source (Dict.insertAll entries context) = render source context) ∧
    (∀ (context : Dict Value) (names : List String),
      (∀ name ∈ names, ¬ Mentions source.toList name) →
        render source (names.foldr Dict.erase context) = render source context) := by
  refine ⟨render_agree source, ?_, ?_⟩
  · intro context entries unseen
    apply render_agree
    intro name stands
    exact Dict.find_insertAll_absent name entries context fun member => unseen name member stands
  · intro context names unseen
    apply render_agree
    intro name stands
    exact Dict.find_erased_absent name names context fun member => unseen name member stands

def loopSource : String :=
  "\x7b#each users as u\x7d<b c=\x7bu.n\x7d>\x7bu + base\x7d</b>\x7b/each\x7d"

def loopContext : Dict Value := [("users", .list [.int 3]), ("base", .int 1), ("item", .int 2)]

/-- A context in another order, with another value under a name that the loop does not mention. -/
def otherContext : Dict Value := [("item", .null), ("base", .int 1), ("users", .list [.int 3])]

theorem render_sees_mentioned_users :
    (∀ name, Mentions loopSource.toList name →
        Dict.find name loopContext = Dict.find name otherContext) ∧
      (∀ name ∈ Dict.keys [("item", Value.null)], ¬ Mentions loopSource.toList name) ∧
      (∀ name ∈ ["item"], ¬ Mentions loopSource.toList name) ∧
      render loopSource loopContext = render loopSource otherContext ∧
      render loopSource (Dict.insertAll [("item", .null)] loopContext) =
        render loopSource loopContext ∧
      render loopSource (["item"].foldr Dict.erase loopContext) =
        render loopSource loopContext := by
  have hidden : ¬ Mentions loopSource.toList "item" := by decide +kernel
  have agree : ∀ name, Mentions loopSource.toList name →
      Dict.find name loopContext = Dict.find name otherContext := by
    intro name stands
    have other : "item" ≠ name := fun same => hidden (same ▸ stands)
    by_cases users : "users" = name
    · subst users
      rfl
    · simp [loopContext, otherContext, Dict.find, users, other]
  have single : ∀ name ∈ ["item"], ¬ Mentions loopSource.toList name := by
    intro name member
    rw [List.mem_singleton.mp member]
    exact hidden
  have whole := render_sees_mentioned loopSource
  exact ⟨agree, single, single, whole.1 loopContext otherContext agree,
    whole.2.1 loopContext _ single, whole.2.2 loopContext _ single⟩

end MarkupTemplate
