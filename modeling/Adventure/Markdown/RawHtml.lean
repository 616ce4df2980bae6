import Adventure.Markdown.Source

/-!
# HTML inside Markdown

Tags, comments and the like that stand in a Markdown text, and links between angle brackets. All
readers start behind the opening angle bracket and return the place behind the closing one.
-/

namespace Adventure.Markdown

/-! ### Tags -/

/-- A tag that has been read up to a place. -/
structure TagReader where
  place : Nat
  /-- The starts of lines inside the tag that belong to the containers around it. -/
  margins : List (Nat × Nat) := []
  deriving Repr

namespace TagReader

/-- Goes on at the content of the next line. Where a tag has to end in its line, `content?` is
missing. -/
def nextLine (content? : Option (Nat → Nat)) (r : TagReader) (next : Nat) : Option TagReader :=
  content?.map fun content =>
    let start := content next
    ⟨start, if next < start then r.margins ++ [(next, start)] else r.margins⟩

def space (s : Source) (content? : Option (Nat → Nat)) : Nat → TagReader → Option TagReader
  | 0,        r => some r
  | fuel + 1, r =>
    let i := s.runEnd isInlineSpace r.place
    if s.test i isLineEnd then
      (s.lineEnd? i).bind fun next => (r.nextLine content? next).bind (space s content? fuel)
    else some { r with place := i }

/-- Passes a value up to its closing quotation mark. -/
def quoted (s : Source) (content? : Option (Nat → Nat)) (mark : Char) :
    Nat → TagReader → Option TagReader
  | 0,        _ => none
  | fuel + 1, r =>
    let i := s.runEnd (fun c => c != mark && !isLineEnd c) r.place
    if s.has i mark then some { r with place := i + 1 }
    else if s.test i isLineEnd then
      (s.lineEnd? i).bind fun next => (r.nextLine content? next).bind (quoted s content? mark fuel)
    else none

def isBareValueChar (c : Char) : Bool :=
  !(isLineEnd c || c == ' ' || c == '"' || c == '\'' || c == '=' || c == '<' || c == '>' || c == '`')

def value (s : Source) (content? : Option (Nat → Nat)) (r : TagReader) : Option TagReader :=
  (s.get? r.place).bind fun c =>
    if c == '"' || c == '\'' then quoted s content? c s.stop { r with place := r.place + 1 }
    else
      let i := s.runEnd isBareValueChar r.place
      if i = r.place then none else some { r with place := i }

def isAttributeNameChar (c : Char) : Bool :=
  c.isAlphanum || c == '_' || c == '.' || c == ':' || c == '-'

/-- Passes an attribute: a name, and after an equals sign a value. -/
def oneAttribute (s : Source) (content? : Option (Nat → Nat)) (r : TagReader) : Option TagReader := do
  if !s.test r.place (fun c => c.isAlpha || c == '_' || c == ':') then none
  let named := { r with place := s.runEnd isAttributeNameChar r.place }
  let r ← named.space s content? s.stop
  if s.has r.place '=' then
    let r ← { r with place := r.place + 1 }.space s content? s.stop
    r.value s content?
  else some named

/-- Passes the attributes of a tag. White space has to stand before each of them. -/
def allAttributes (s : Source) (content? : Option (Nat → Nat)) : Nat → TagReader → Option TagReader
  | 0,        _ => none
  | fuel + 1, r =>
    (r.space s content? s.stop).bind fun next =>
      if s.has next.place '/' || s.has next.place '>' then some next
      else if next.place = r.place then none
      else (next.oneAttribute s content?).bind (allAttributes s content? fuel)

def nameEnd? (s : Source) (i : Nat) : Option Nat :=
  if s.test i Char.isAlpha then some (s.runEnd (fun c => c.isAlphanum || c == '-') i) else none

/-- Reads a tag. Where it has to end in its line, `content?` is missing; otherwise `content?` tells
where the content of a line starts. -/
def read (s : Source) (content? : Option (Nat → Nat)) (i : Nat) : Option TagReader :=
  if s.has i '/' then
    (nameEnd? s (i + 1)).bind fun j =>
      let j := s.runEnd isInlineSpace j
      if s.has j '>' then some ⟨j + 1, []⟩ else none
  else
    (nameEnd? s i).bind fun j => (allAttributes s content? s.stop ⟨j, []⟩).bind fun r =>
      let j := if s.has r.place '/' then r.place + 1 else r.place
      if s.has j '>' then some { r with place := j + 1 } else none

/-- The text of a tag from a place on, without the margins of its lines. -/
def text (s : Source) (r : TagReader) (i : Nat) : List Char :=
  let (cs, place) := r.margins.foldl
    (fun (cs, place) (start, stop) => (cs ++ s.slice place start, stop)) ([], i)
  cs ++ s.slice place r.place

end TagReader

/-- The end of a tag, a comment, a processing instruction, a declaration or a section of character
data, and its text. `content` tells where the content of a line starts; but only tags lose the
margins of their lines. -/
def inlineHtml? (s : Source) (content : Nat → Nat) (i : Nat) : Option (Nat × List Char) :=
  let whole (stop : Nat) : Nat × List Char := (stop, s.slice (i - 1) stop)
  if s.startsWith i "!--".toList then (s.after? "-->".toList (i + 1)).map whole
  else if s.startsWith i "![CDATA[".toList then (s.after? "]]>".toList (i + 8)).map whole
  else if s.has i '!' then
    if s.test (i + 1) Char.isAlpha then (s.after? ['>'] (i + 1)).map whole else none
  else if s.has i '?' then (s.after? "?>".toList (i + 1)).map whole
  else (TagReader.read s (some content) i).map fun r => (r.place, r.text s (i - 1))

/-! ### Blocks -/

/-- The elements whose text is kept as it is, up to their closing tag. -/
def verbatimElements : List String := ["pre", "style", "script", "textarea"]

/-- The elements that start a block. -/
def blockElements : List String := [
  "address", "article", "aside", "base", "basefont", "blockquote", "body", "caption", "center",
  "col", "colgroup", "dd", "details", "dialog", "dir", "div", "dl", "dt", "fieldset",
  "figcaption", "figure", "footer", "form", "frame", "frameset", "h1", "h2", "h3", "h4", "h5", "h6",
  "head", "header", "hr", "html", "iframe", "legend", "li", "link", "main", "menu", "menuitem",
  "nav", "noframes", "ol", "optgroup", "option", "p", "param", "search", "section", "summary",
  "table", "tbody", "td", "tfoot", "th", "thead", "title", "tr", "track", "ul"]

/-- The name of an element in lower case, and where it ends. -/
def elementName (s : Source) (i : Nat) : String × Nat :=
  let j := s.runEnd Char.isAlphanum i
  (String.ofList ((s.slice i j).map Char.toLower), j)

/-- The text that ends a block of HTML which goes on over blank lines. -/
def htmlBlockEnd? (s : Source) (i : Nat) : Option (List Char) :=
  let (name, j) := elementName s i
  if verbatimElements.contains name && (s.get? j).all (fun c => isTagSpace c || c == '>') then
    some ("</" ++ name ++ ">").toList
  else if s.startsWith i "!--".toList then some "-->".toList
  else if s.has i '?' then some "?>".toList
  else if s.startsWith i "![CDATA[".toList then some "]]>".toList
  else if s.has i '!' && s.test (i + 1) Char.isAlpha then some ['>']
  else none

/-- A line that starts a block of HTML up to the next blank line. -/
def startsHtmlBlock (s : Source) (i : Nat) : Bool :=
  let (name, j) := elementName s (if s.has i '/' then i + 1 else i)
  blockElements.contains name &&
    ((s.get? j).all (fun c => isMargin c || isLineEnd c || c == '>') || s.startsWith j ['/', '>'])

/-- A line that holds nothing but one tag. -/
def isSingleTag (s : Source) (i : Nat) : Bool :=
  (TagReader.read s none i).any fun r => (s.blankLine? r.place).isSome

/-! ### Links between angle brackets -/

/-- The link that a scheme and a colon start. -/
def uri? (s : Source) (i : Nat) : Option (Nat × List Char) :=
  let j := s.runEnd (fun c => c.isAlphanum || c == '.' || c == '-' || c == '+') i
  if s.test i Char.isAlpha && 2 ≤ j - i && j - i ≤ 32 && s.has j ':' then
    let k := s.runEnd (fun c => c.toNat > 32 && c != '<' && c != '>') j
    if s.has k '>' then some (k + 1, s.slice i k) else none
  else none

/-- A character before the at sign of a mail address. -/
def isMailboxChar (c : Char) : Bool :=
  c.isAlphanum || ".!#$%&'*+/=?^_`\x7b|\x7d~-".toList.contains c

/-- A label of a domain: letters, digits and inner hyphens. -/
def isDomainLabel (cs : List Char) : Bool :=
  !cs.isEmpty && cs.length ≤ 63 && cs.head? != some '-' && cs.getLast? != some '-'

def email? (s : Source) (i : Nat) : Option (Nat × List Char) :=
  let j := s.runEnd isMailboxChar i
  let k := s.runEnd (fun c => c.isAlphanum || c == '-' || c == '.') (j + 1)
  if i < j && s.has j '@' && s.has k '>' && ((s.slice (j + 1) k).splitOn '.').all isDomainLabel then
    some (k + 1, s.slice i k)
  else none

end Adventure.Markdown
