import MarkupTemplate.Binding.Spelling.Part

/-!
The spelling of types. Between angle brackets the lifetimes come before all other
arguments, wherever they are written; apart from that the parts keep their order. Brackets nest,
so a type is read with the groups that are still open, and a closed group becomes a part of
the group around it. A comparison looks like an open angle bracket, which is harmless: no
lifetime is ever compared, and the group around it closes it too.
-/

namespace MarkupTemplate.Spelling

structure Argument where
  parts : List Part
  /-- Whether a comma ends the argument. -/
  ended : Bool

def Argument.isLifetime (argument : Argument) : Bool :=
  match argument.parts with
  | [.lifetime _] => true
  | _ => false

def Argument.text (argument : Argument) : List Char :=
  argument.parts.flatMap Part.text ++ if argument.ended then [','] else []

/-- The text of a list of arguments. Every argument takes its comma along; where the last lifetime
has none and another argument follows, it gets one. -/
def arranged (arguments : List Argument) : List Char :=
  let lifetimes := arguments.filter (·.isLifetime)
  let others := arguments.filter (!·.isLifetime)
  let joint := lifetimes.getLast?.any (!·.ended) && !others.isEmpty
  lifetimes.flatMap Argument.text ++ (if joint then [','] else []) ++ others.flatMap Argument.text

/-- A group that is being read. The whole type is a group without an opening bracket. -/
structure Group where
  opener : Option Char
  /-- Whether the group is what a macro or an attribute takes, whose parts mean nothing here. -/
  unread : Bool
  /-- Whether commas end arguments. -/
  listed : Bool
  /-- The arguments that are ended, the last one first. -/
  arguments : List Argument
  /-- The parts of the argument that is not ended, the last one first. -/
  parts : List Part

def brackets : List (Char × Char) := [('<', '>'), ('(', ')'), ('[', ']'), ('{', '}')]

/-- Whether a bracket behind the given parts, the last one first, belongs to a macro or an
attribute. -/
def opensUnread : List Part → Bool
  | .mark '#' :: _ => true
  | .mark '!' :: .mark '#' :: _ => true
  | .mark '!' :: .whole _ :: _ => true
  | _ => false

namespace Group

def closer (group : Group) : Option Char :=
  group.opener.bind fun opener => (brackets.find? (·.1 = opener)).map (·.2)

def text (group : Group) : List Char :=
  group.opener.toList ++
    arranged ((⟨group.parts.reverse, false⟩ :: group.arguments).reverse)

def opens (group : Group) (c : Char) : Bool :=
  brackets.any (·.1 = c) && !(group.unread && c = '<')

/-- The group that a bracket inside a group opens. The list behind `for` introduces lifetimes and
keeps its order. -/
def inner (c : Char) (group : Group) : Group :=
  let listed := c = '<' && group.parts.head? ≠ some (.whole "for".toList)
  ⟨some c, group.unread || opensUnread group.parts, listed, [], []⟩

/-- The group around a bracket. Two colons in front of parentheses are left out. -/
def around (c : Char) (group : Group) : Group :=
  match c, group.unread, group.parts with
  | '(', false, .mark ':' :: .mark ':' :: parts => { group with parts := parts }
  | _, _, _ => group

def push (part : Part) (group : Group) : Group := { group with parts := part :: group.parts }

def pushMark (c : Char) (group : Group) : Group :=
  if c = ',' ∧ group.listed then
    { group with arguments := ⟨group.parts.reverse, true⟩ :: group.arguments, parts := [] }
  else group.push (.mark c)

end Group

/-- The groups that are open: the innermost one, and those around it from the inside out. -/
structure Reading where
  top : Group
  outer : List Group

namespace Reading

def start : Reading := ⟨⟨none, false, false, [], []⟩, []⟩

def opened (c : Char) (reading : Reading) : Reading :=
  ⟨reading.top.inner c, reading.top.around c :: reading.outer⟩

/-- Closes the group that a bracket fits, and the comparisons in it. A bracket that fits none is a
mark. -/
def closed (c : Char) (top : Group) : List Group → Reading
  | [] => ⟨top.pushMark c, []⟩
  | parent :: outer =>
      if top.closer = some c then ⟨parent.push (.whole (top.text ++ [c])), outer⟩
      else if top.opener = some '<' then closed c (parent.push (.whole top.text)) outer
      else ⟨top.pushMark c, parent :: outer⟩

def step (reading : Reading) : Part → Reading
  | .mark c =>
      if reading.top.opens c then reading.opened c
      else if brackets.any (·.2 = c) then closed c reading.top reading.outer
      else { reading with top := reading.top.pushMark c }
  | part => { reading with top := reading.top.push part }

def text (reading : Reading) : List Char :=
  (reading.top :: reading.outer).reverse.flatMap Group.text

end Reading

/-- The spelling of the type that a text writes. -/
def ofText (text : String) : String :=
  String.ofList ((partsAfter 0 text.toList).foldl Reading.step .start).text

end MarkupTemplate.Spelling
