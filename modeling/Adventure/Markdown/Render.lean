import Adventure.Markdown.Document
import Adventure.Markdown.Emoji
import Adventure.Markdown.Html
import Adventure.Markdown.Passage

/-!
# Rendering

The HTML of a Markdown text.
-/

namespace Adventure.Markdown

/-- As many cells as there are columns. -/
def fitCells (columns : Nat) (cells : List (List Event)) : List (List Event) :=
  (cells ++ List.replicate (columns - cells.length) []).take columns

def Table.events (text : Passage → List Event) (t : Table) : List Event :=
  let row (tag : Tag) (cells : List Passage) : List Event :=
    tag.around ((fitCells t.alignments.length (cells.map text)).flatMap Tag.tableCell.around)
  (Tag.table t.alignments).around (row .tableHead t.head ++ t.rows.flatMap (row .tableRow))

mutual

/-- The events of a block, from those of its inline text. -/
def Block.events (text : Passage → List Event) : Block → List Event
  | .paragraph p             => Tag.paragraph.around (text p)
  | .candidate p             => Tag.paragraph.around (text p)
  | .plain p                 => text p
  | .heading level a p       => (Tag.heading level a).around (text p)
  | .codeBlock info code     =>
    (Tag.codeBlock info).around (if code.isEmpty then [] else [.text code])
  | .htmlBlock lines         => Tag.htmlBlock.around (lines.map .html)
  | .rule                    => [.rule]
  | .table t                 => t.events text
  | .quote inside            => Tag.quote.around (blockEvents text inside)
  | .list start items        => (Tag.list start).around (blockEvents text items)
  | .item inside             => Tag.item.around (blockEvents text inside)
  | .definitionList entries  => Tag.definitionList.around (blockEvents text entries)
  | .title p                 => Tag.definitionTitle.around (text p)
  | .definition inside       => Tag.definition.around (blockEvents text inside)
  | .footnote label inside   => (Tag.footnote label).around (blockEvents text inside)

def blockEvents (text : Passage → List Event) : List Block → List Event
  | []      => []
  | b :: bs => b.events text ++ blockEvents text bs

end

/-- The events of a text, emoji not yet replaced. -/
def parse (extensions : Extensions) (text : List Char) : List Event :=
  let s := Source.ofList text
  let (blocks, definitions) := readDocument extensions s
  mergeTexts (blockEvents (Passage.events extensions s definitions) blocks)

/-- The HTML of a text with the given emoji, without white space at its end. -/
def renderWith (emojis : Emojis) (o : Options) (text : List Char) : List Char :=
  let events := parse o.toExtensions text
  Text.trimEnd (toHtml (if o.emoji then replaceEmoji emojis false events else events))

/-- The HTML of a text with the emoji of the table. -/
def render (o : Options) (text : List Char) : List Char :=
  renderWith knownEmojis o text

end Adventure.Markdown
