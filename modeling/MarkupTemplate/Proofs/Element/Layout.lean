import MarkupTemplate.Proofs.Element.RoundTrip
import MarkupTemplate.Proofs.Token.Layout

/-!
Elements printed with layout between the tags and texts of their markup, as an author indents it.
Main statement: where no text has layout at its ends, such a source reads as the markup itself does.
-/

namespace MarkupTemplate.Element

open Scan (Item LaidOut)

theorem Reads.tokenize_laid_out {elements : List Element} {items : List Item} {nodes : List Node}
    (reads : Reads elements items nodes)
    (flush : ∀ content ∈ allTexts elements, Scan.Flush content.toList) (source : String)
    (laidOut : LaidOut ((allPieces elements).map String.toList) source.toList) :
    tokenize false source = items.map Item.piece := by
  rw [reads.pieces] at laidOut
  apply Scan.tokenize_laid_out source items reads.printable _ laidOut
  intro item member
  cases item with
  | text content =>
      have known := flush _ (reads.texts content member)
      rw [String.toList_ofList] at known
      exact known
  | tag inside => trivial
  | directive inside => trivial

/-- Layout around the tags and texts of the markup of canonical elements changes nothing that is
read. -/
theorem parse_laid_out (elements : List Element) (canonical : Canonical elements)
    (shallow : allDepth elements ≤ maxDepth - 1)
    (flush : ∀ content ∈ allTexts elements, Scan.Flush content.toList) (source : String)
    (laidOut : LaidOut ((allPieces elements).map String.toList) source.toList) :
    String.join (allPieces elements) = allMarkup elements ∧
      parse source = parse (allMarkup elements) ∧
      allEqual (parse source) elements = true := by
  rcases canonical_reads elements canonical with ⟨items, nodes, reads⟩
  have spaced := reads.tokenize_laid_out flush source laidOut
  have found := reads.parse_tokenized shallow source spaced
  refine ⟨join_all_pieces elements, ?_, ?_⟩
  · rw [found, parse_arranged elements canonical shallow]
  · rw [found]
    exact arranged_equals elements canonical

def indentedLink : String :=
  "\n<a data-open no-lazy title=\"&quot;&lt;b&gt;&quot; &amp; co\">\r\n\t&amp;lt; is &lt;\n<br/></a>"

theorem indented_link_laid_out :
    LaidOut ((allPieces [sampleLink]).map String.toList) indentedLink.toList := by
  have pieces : allPieces [sampleLink] =
      ["<a data-open no-lazy title=\"&quot;&lt;b&gt;&quot; &amp; co\">", "&amp;lt; is &lt;", "<br/>",
        "</a>"] := by
    decide +kernel
  have none : ∀ c ∈ [], Scan.isIndent c = true := by simp
  have tab : ∀ c ∈ ['\t'], Scan.isIndent c = true := by simp [Scan.isIndent]
  have line : Scan.IsGap ['\n'] := Or.inr ⟨[], ['\n'], [], by decide, none, none, rfl⟩
  have indented : Scan.IsGap ['\r', '\n', '\t'] :=
    Or.inr ⟨[], ['\r', '\n'], ['\t'], by decide, none, tab, rfl⟩
  have tags := Scan.Spaced.cons "<br/>".toList [] "</a>".toList _ [] (Or.inl rfl) (.single _)
  have inside := Scan.Spaced.cons "&amp;lt; is &lt;".toList _ _ _ _ line tags
  have whole := Scan.Spaced.cons
    "<a data-open no-lazy title=\"&quot;&lt;b&gt;&quot; &amp; co\">".toList _ _ _ _ indented inside
  rw [pieces]
  exact LaidOut.intro ['\n'] _ [] line whole (Or.inl rfl)

theorem parse_laid_out_link :
    Canonical [sampleLink] ∧ allDepth [sampleLink] ≤ maxDepth - 1 ∧
      (∀ content ∈ allTexts [sampleLink], Scan.Flush content.toList) ∧
      LaidOut ((allPieces [sampleLink]).map String.toList) indentedLink.toList ∧
      parse indentedLink = parse (allMarkup [sampleLink]) ∧
      allEqual (parse indentedLink) [sampleLink] = true := by
  have flush : ∀ content ∈ allTexts [sampleLink], Scan.Flush content.toList := by
    intro content member
    rw [List.mem_singleton.mp member]
    exact ⟨by decide, by decide⟩
  have same := parse_laid_out _ sample_canonical (by decide) flush _ indented_link_laid_out
  exact ⟨sample_canonical, by decide, flush, indented_link_laid_out, same.2⟩

end MarkupTemplate.Element
