import MarkupTemplate.Binding.Shapes
import MarkupTemplate.Element.Markup
import MarkupTemplate.Registry.Basic

/-!
Message elements, the typed nodes of a chat message. Most kinds are records with
their own attributes; styles and the unit kinds have none. A tag without a kind of its
own becomes an extension that keeps its attributes as they are.
-/

namespace MarkupTemplate

namespace Message

/-- Somebody who is addressed. -/
structure At where
  id : Option String
  name : Option String
  role : Option String
  type : Option String
  deriving DecidableEq

/-- A channel that is referred to. -/
structure Sharp where
  id : String
  name : Option String
  deriving DecidableEq

/-- A file of some medium. -/
structure Resource where
  src : String
  title : Option String
  cache : Option Bool
  width : Option UInt32
  height : Option UInt32
  deriving DecidableEq

/-- A message inside the message. -/
structure Envelope where
  id : Option String
  forward : Option Bool
  deriving DecidableEq

structure Author where
  id : Option String
  name : Option String
  avatar : Option String
  deriving DecidableEq

inductive Medium where
  | image
  | audio
  | video
  | file
  deriving DecidableEq

inductive Style where
  | bold
  | italic
  | underlined
  | struck
  | spoiler
  | code
  | superscript
  | subscript
  deriving DecidableEq

inductive Kind where
  | text (content : String)
  | at (mention : At)
  | sharp (channel : Sharp)
  | link (href : String)
  | resource (medium : Medium) (resource : Resource)
  | styled (style : Style)
  | lineBreak
  | paragraph
  | message (envelope : Envelope)
  | quote
  | author (author : Author)
  | extension (tag : String) (attrs : List (String × Value))

def Medium.tag : Medium → String
  | .image => "img"
  | .audio => "audio"
  | .video => "video"
  | .file => "file"

def Style.tag : Style → String
  | .bold => "b"
  | .italic => "i"
  | .underlined => "u"
  | .struck => "s"
  | .spoiler => "spl"
  | .code => "code"
  | .superscript => "sup"
  | .subscript => "sub"

def Kind.tag : Kind → String
  | .text _ => "text"
  | .at _ => "at"
  | .sharp _ => "sharp"
  | .link _ => "a"
  | .resource medium _ => medium.tag
  | .styled style => style.tag
  | .lineBreak => "br"
  | .paragraph => "p"
  | .message _ => "message"
  | .quote => "quote"
  | .author _ => "author"
  | .extension tag _ => tag

/-- The name of a kind without its content. -/
def Kind.label : Kind → String
  | .text _ => "Text"
  | .at _ => "At"
  | .sharp _ => "Sharp"
  | .link _ => "Link"
  | .resource _ _ => "Resource"
  | .styled _ => "Styled"
  | .lineBreak => "Break"
  | .paragraph => "Paragraph"
  | .message _ => "Message"
  | .quote => "Quote"
  | .author _ => "Author"
  | .extension _ _ => "Extension"

end Message

structure MessageElement where
  kind : Message.Kind
  children : List MessageElement

end MarkupTemplate
