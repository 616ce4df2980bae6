import Adventure.Text.Word

/-!
# Tokens of the action language

An action is a call such as `sub(1, amount, coin)`. Its text is a sequence of tokens; white space is
a token too.
-/

namespace Adventure.Action

/-- The functions that an action can call. -/
inductive Keyword where
  | set | add | sub | mul | div
  deriving DecidableEq, Repr, Inhabited

namespace Keyword

def name : Keyword → String
  | .set => "set"
  | .add => "add"
  | .sub => "sub"
  | .mul => "mul"
  | .div => "div"

def all : List Keyword := [.set, .add, .sub, .mul, .div]

def title : Keyword → String
  | .set => "SET"
  | .add => "ADD"
  | .sub => "SUB"
  | .mul => "MUL"
  | .div => "DIV"

end Keyword

inductive TokenKind where
  | keyword (k : Keyword)
  | mdString
  | string
  | integer
  | identifier
  | oparen
  | cparen
  | comma
  | whitespace
  deriving DecidableEq, Repr, Inhabited

namespace TokenKind

def name : TokenKind → String
  | .keyword k  => k.name
  | .mdString   => "md_string"
  | .string     => "string"
  | .integer    => "integer"
  | .identifier => "identifier"
  | .oparen     => "oparen"
  | .cparen     => "cparen"
  | .comma      => "comma"
  | .whitespace => "whitespace"

def title : TokenKind → String
  | .keyword k  => k.title
  | .mdString   => "MD_STRING"
  | .string     => "STRING"
  | .integer    => "INTEGER"
  | .identifier => "IDENTIFIER"
  | .oparen     => "OPAREN"
  | .cparen     => "CPAREN"
  | .comma      => "COMMA"
  | .whitespace => "WHITESPACE"

/-- The kind of a keyword that can start an action. -/
def isKeyword : TokenKind → Bool
  | .keyword _ => true
  | _          => false

end TokenKind

/-- A piece of an action with its kind. -/
structure Token where
  kind : TokenKind
  lexeme : List Char
  deriving DecidableEq, Repr, Inhabited

namespace Token

/-- A token as error messages show it: its kind in capitals and its lexeme. -/
def describe (t : Token) : String :=
  t.kind.title ++ "_TOKEN (`" ++ String.ofList t.lexeme ++ "`)"

/-- A token that the grammar sees: anything but white space. -/
def isSignificant (t : Token) : Bool :=
  t.kind != .whitespace

/-- The text that the tokens were cut from. -/
def concat (ts : List Token) : List Char :=
  ts.flatMap lexeme

end Token

def significant (ts : List Token) : List Token :=
  ts.filter Token.isSignificant

end Adventure.Action
