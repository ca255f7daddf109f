import MarkupTemplate.Proofs.Binary64.Exact
import MarkupTemplate.Proofs.Binding.Answers
import MarkupTemplate.Proofs.Binding.EntryOrder
import MarkupTemplate.Proofs.Binding.History
import MarkupTemplate.Proofs.Binding.Integer
import MarkupTemplate.Proofs.Binding.OptionOrder
import MarkupTemplate.Proofs.Binding.Reach
import MarkupTemplate.Proofs.Binding.Reversal
import MarkupTemplate.Proofs.Element.Flags
import MarkupTemplate.Proofs.Element.Layout
import MarkupTemplate.Proofs.Element.Leaves
import MarkupTemplate.Proofs.Expr.Comparison
import MarkupTemplate.Proofs.Expr.Lossless
import MarkupTemplate.Proofs.Expr.Nesting
import MarkupTemplate.Proofs.Expr.Quotation
import MarkupTemplate.Proofs.Forest.Crowding
import MarkupTemplate.Proofs.Message.Settled
import MarkupTemplate.Proofs.Rearrangement.Render
import MarkupTemplate.Proofs.Registry.Calls
import MarkupTemplate.Proofs.Registry.Transform
import MarkupTemplate.Proofs.Scope.Copying
import MarkupTemplate.Proofs.Selector.Walk
import MarkupTemplate.Proofs.Selector.Writing
import MarkupTemplate.Proofs.Template.AttributeValue
import MarkupTemplate.Proofs.Template.Braceless
import MarkupTemplate.Proofs.Template.Depth
import MarkupTemplate.Proofs.Template.Meaning
import MarkupTemplate.Proofs.Template.Path
import MarkupTemplate.Proofs.Text.Ampersand
import MarkupTemplate.Proofs.Text.Respelling
import MarkupTemplate.Proofs.Token.Phrases
import MarkupTemplate.Proofs.Value.Json
import MarkupTemplate.Registry.Outline
