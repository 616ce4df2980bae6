/-!
# Literals of the action language

A string literal stands between double quotes. Inside, a quote is written `\"` and a line feed `\n`;
a literal of a rendered text also writes a backslash as `\\`. Carriage returns are left out, so that
a literal always stays on one line.
-/

namespace Adventure.Action

/-- The characters on one line: a line feed becomes `\n` and a carriage return disappears. -/
def singleLine (cs : List Char) : List Char :=
  cs.flatMap fun
    | '\r' => []
    | '\n' => ['\\', 'n']
    | c    => [c]

/-- The form of a character inside a literal. -/
def escapeChar : Char → List Char
  | '"'  => ['\\', '"']
  | '\\' => ['\\', '\\']
  | '\n' => ['\\', 'n']
  | '\r' => []
  | c    => [c]

/-- The literal of a text. -/
def quote (cs : List Char) : List Char :=
  '"' :: cs.flatMap escapeChar ++ ['"']

/-- The text that stands for `\"` inside a Markdown literal is a plain quote. -/
def unescapeQuotes : List Char → List Char
  | []                => []
  | '\\' :: '"' :: cs => '"' :: unescapeQuotes cs
  | c :: cs           => c :: unescapeQuotes cs

/-- The text between the quotes of a Markdown literal `m"…"`, with its quotes unescaped. -/
def mdInterior (lexeme : List Char) : List Char :=
  unescapeQuotes (lexeme.drop 2).dropLast

/-- The text ends in a quote that may close a literal. -/
def endsInQuote (cs : List Char) : Bool :=
  cs.getLast? == some '"'

/-- The text ends in an escaped quote. -/
def endsInEscapedQuote (cs : List Char) : Bool :=
  match cs.reverse with
  | '"' :: '\\' :: _ => true
  | _                => false

/-- Takes the quotes off a quoted text and keeps a bare one. A quote at one end only has no reading. -/
def unquote (cs : List Char) : Option (List Char) :=
  let opens := cs.head? == some '"'
  let closes := cs.length > 1 && endsInQuote cs && !endsInEscapedQuote cs
  if opens && closes then some (cs.drop 1).dropLast
  else if !opens && !closes && !endsInQuote cs then some cs
  else none

end Adventure.Action
