import Adventure.Markdown.Event

/-!
# Markdown as HTML

The HTML of a sequence of events. Every block starts on a line of its own. Footnotes are numbered in
the order in which their labels are met.
-/

namespace Adventure.Markdown

/-! ### Escapes -/

/-- A character of the text between tags. -/
def escapeBodyChar : Char → List Char
  | '&' => "&amp;".toList
  | '<' => "&lt;".toList
  | '>' => "&gt;".toList
  | c   => [c]

def escapeAttributeChar : Char → List Char
  | '"'  => "&quot;".toList
  | '\'' => "&#39;".toList
  | c    => escapeBodyChar c

def escapeBody (cs : List Char) : List Char :=
  cs.flatMap escapeBodyChar

def escapeAttribute (cs : List Char) : List Char :=
  cs.flatMap escapeAttributeChar

/-- The characters that stand for themselves in a destination. -/
def isHrefSafe (c : Char) : Bool :=
  c.isAlphanum || "!#$%()*+,-./:;=?@^_~".toList.contains c

/-- An octet as `%` and two hexadecimal digits. -/
def percentEncode (b : UInt8) : List Char :=
  let digit (n : Nat) : Char := (Nat.digitChar n).toUpper
  ['%', digit (b.toNat / 16), digit (b.toNat % 16)]

def escapeHrefChar (c : Char) : List Char :=
  if isHrefSafe c then [c]
  else if c = '&' then "&amp;".toList
  else if c = '\'' then "&#x27;".toList
  else (String.singleton c).toUTF8.toList.flatMap percentEncode

/-- The destination of a link. -/
def escapeHref (cs : List Char) : List Char :=
  cs.flatMap escapeHrefChar

/-! ### The writer -/

/-- What has been written, and what is needed to go on. -/
structure Writer where
  /-- The pieces written so far, the latest first. -/
  pieces : List (List Char) := []
  /-- The last piece ends a line. -/
  atLineStart : Bool := true
  /-- The labels of the footnotes met so far. -/
  labels : List (List Char) := []
  alignments : List Alignment := []
  /-- The cells belong to the head of a table. -/
  inHead : Bool := false
  /-- The number of the next cell in its row. -/
  cell : Nat := 0
  /-- Inside an image: the number of open parts, and the title of the image. -/
  image : Option (Nat × List Char) := none

namespace Writer

/-- Writes a piece that does not count as the end of a line. -/
def push (w : Writer) (cs : List Char) : Writer :=
  { w with pieces := cs :: w.pieces }

def endsLine (cs : List Char) : Bool :=
  cs.getLast? == some '\n'

def write (w : Writer) (cs : List Char) : Writer :=
  if cs.isEmpty then w else { w.push cs with atLineStart := endsLine cs }

def put (w : Writer) (s : String) : Writer :=
  w.write s.toList

/-- Writes a literal piece on a line of its own. -/
def putLine (w : Writer) (s : String) : Writer :=
  if w.atLineStart then w.put s else w.put ("\n" ++ s)

/-- The number of a footnote. -/
def number (w : Writer) (label : List Char) : Writer × Nat :=
  match w.labels.idxOf? label with
  | some i => (w, i + 1)
  | none   => ({ w with labels := w.labels ++ [label] }, w.labels.length + 1)

def pushNumber (w : Writer) (n : Nat) : Writer :=
  w.push (toString n).toList

def putAttribute (w : Writer) (name : List Char) (value : List Char) : Writer :=
  (((w.write (' ' :: name ++ ['=', '"'])).push (escapeAttribute value)).put "\"")

def headingAttributes (w : Writer) (a : HeadingAttributes) : Writer :=
  let w := a.id.elim w fun id => w.putAttribute "id".toList id
  let w :=
    if a.classes.isEmpty then w
    else w.putAttribute "class".toList ([' '].intercalate a.classes)
  a.others.foldl (fun w (name, value) =>
    w.putAttribute (escapeAttribute name) (value.getD [])) w

def openCell (w : Writer) : Writer :=
  let w := w.put (if w.inHead then "<th" else "<td")
  w.put <| match w.alignments[w.cell]? with
    | some .left   => " style=\"text-align: left\">"
    | some .center => " style=\"text-align: center\">"
    | some .right  => " style=\"text-align: right\">"
    | _            => ">"

def title (w : Writer) (title : List Char) : Writer :=
  if title.isEmpty then w else (w.put "\" title=\"").push (escapeAttribute title)

/-- The language of a code block: the first word of its info string. -/
def language (info : List Char) : List Char :=
  info.takeWhile (· != ' ')

def openTag (w : Writer) : Tag → Writer
  | .paragraph => w.putLine "<p>"
  | .heading level a =>
    (((w.putLine "<").put ("h" ++ toString level)).headingAttributes a).put ">"
  | .quote => w.putLine "<blockquote>\n"
  | .codeBlock info =>
    let w := w.putLine ""
    let lang := language (info.getD [])
    if lang.isEmpty then w.put "<pre><code>"
    else ((w.put "<pre><code class=\"language-").push (escapeAttribute lang)).put "\">"
  | .htmlBlock => w
  | .list none => w.putLine "<ul>\n"
  | .list (some 1) => w.putLine "<ol>\n"
  | .list (some n) => ((w.putLine "<ol start=\"").pushNumber n).put "\">\n"
  | .item => w.putLine "<li>"
  | .definitionList => w.putLine "<dl>\n"
  | .definitionTitle => w.putLine "<dt>"
  | .definition => w.putLine "<dd>"
  | .footnote label =>
    let w := (w.putLine "<div class=\"footnote-definition\" id=\"").push (escapeAttribute label)
    let (w, n) := (w.put "\"><sup class=\"footnote-definition-label\">").number label
    (w.pushNumber n).put "</sup>"
  | .table alignments => { w with alignments }.put "<table>"
  | .tableHead => { w with inHead := true, cell := 0 }.put "<thead><tr>"
  | .tableRow => { w with cell := 0 }.put "<tr>"
  | .tableCell => w.openCell
  | .emphasis => w.put "<em>"
  | .strong => w.put "<strong>"
  | .strikethrough => w.put "<del>"
  | .subscript => w.put "<sub>"
  | .link target =>
    let w := w.put (if target.isEmail then "<a href=\"mailto:" else "<a href=\"")
    ((w.push (escapeHref target.destination)).title target.title).put "\">"
  | .image target =>
    let w := ((w.put "<img src=\"").push (escapeHref target.destination)).put "\" alt=\""
    { w with image := some (0, target.title) }

def closeTag (w : Writer) : Tag → Writer
  | .paragraph => w.put "</p>\n"
  | .heading level _ => w.put ("</h" ++ toString level ++ ">\n")
  | .quote => w.put "</blockquote>\n"
  | .codeBlock _ => w.put "</code></pre>\n"
  | .htmlBlock => w
  | .list none => w.put "</ul>\n"
  | .list (some _) => w.put "</ol>\n"
  | .item => w.put "</li>\n"
  | .definitionList => w.put "</dl>\n"
  | .definitionTitle => w.put "</dt>\n"
  | .definition => w.put "</dd>\n"
  | .footnote _ => w.put "</div>\n"
  | .table _ => w.put "</tbody></table>\n"
  | .tableHead => { w with inHead := false }.put "</tr></thead><tbody>\n"
  | .tableRow => w.put "</tr>\n"
  | .tableCell => { w.put (if w.inHead then "</th>" else "</td>") with cell := w.cell + 1 }
  | .emphasis => w.put "</em>"
  | .strong => w.put "</strong>"
  | .strikethrough => w.put "</del>"
  | .subscript => w.put "</sub>"
  | .link _ => w.put "</a>"
  | .image _ => w

/-- Writes a text whose end decides whether a line ends. -/
def writeText (w : Writer) (text escaped : List Char) : Writer :=
  { w.push escaped with atLineStart := endsLine text }

/-- Writes an event outside images. -/
def writeEvent (w : Writer) : Event → Writer
  | .start tag => w.openTag tag
  | .stop tag  => w.closeTag tag
  | .text cs   => w.writeText cs (escapeBody cs)
  | .code cs   => (((w.put "<code>").push (escapeBody cs)).put "</code>")
  | .html cs   => w.write cs
  | .softBreak => w.put "\n"
  | .hardBreak => w.put "<br />\n"
  | .rule      => w.putLine "<hr />\n"
  | .footnoteReference label =>
    let w := (w.put "<sup class=\"footnote-reference\"><a href=\"#").push (escapeAttribute label)
    let (w, n) := (w.put "\">").number label
    (w.pushNumber n).put "</a></sup>"

/-- Writes an event inside an image: of its parts only the text is kept. -/
def describeEvent (w : Writer) (depth : Nat) (title : List Char) : Event → Writer
  | .start _ => { w with image := some (depth + 1, title) }
  | .stop _  =>
    match depth with
    | 0         => ({ w with image := none }.title title).put "\" />"
    | depth + 1 => { w with image := some (depth, title) }
  | .text cs | .code cs | .html cs => w.writeText cs (escapeAttribute cs)
  | .softBreak | .hardBreak | .rule => w.put " "
  | .footnoteReference label =>
    let (w, n) := w.number label
    w.push ("[" ++ toString n ++ "]").toList

def event (w : Writer) (e : Event) : Writer :=
  match w.image with
  | none                => w.writeEvent e
  | some (depth, title) => w.describeEvent depth title e

def html (w : Writer) : List Char :=
  w.pieces.reverse.flatten

end Writer

/-- The HTML of a sequence of events. -/
def toHtml (events : List Event) : List Char :=
  (events.foldl Writer.event {}).html

end Adventure.Markdown
