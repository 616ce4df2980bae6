import Adventure.Action.Token

/-!
# Failures of actions

Why an action has no statement, and what the author is told.
-/

namespace Adventure.Action

/-- Why an action has no statement. -/
inductive Cause where
  /-- No token starts here. -/
  | undefinedToken (rest : List Char)
  /-- The action does not start with a keyword. -/
  | undefinedStructure (first : Token)
  | unexpectedToken (expected found : TokenKind)
  | unexpectedEnd (expected : TokenKind)
  /-- There is no token at all. -/
  | noTokens
  /-- Something follows the closing parenthesis. -/
  | trailingTokens (found : List Char)
  | integerOutOfRange (lexeme : List Char)
  | divisionByZero
  /-- A name has a quote at one end only. -/
  | unbalancedQuote (name : List Char)
  deriving DecidableEq, Repr

/-- A failed action: its text and the cause. -/
structure Failure where
  action : List Char
  cause : Cause
  deriving DecidableEq, Repr

/-- The message about a quote at one end of a text only. -/
def unbalancedQuoteMessage (text : List Char) : String :=
  "Unbalanced quotes in `" ++ String.ofList text ++ "`"

/-- The message about a token that is not the expected one. -/
def unexpectedEndMessage (expected : String) (action : String) : String :=
  "Expected token type `" ++ expected ++ "` but there are no more tokens in action `" ++ action ++ "`"

/-- The message for the author. -/
def Failure.message (f : Failure) : String :=
  let action := String.ofList f.action
  match f.cause with
  | .undefinedToken rest =>
    "Undefined token `" ++ String.singleton (rest.head?.getD ' ') ++ "` in `" ++
      String.ofList rest ++ "`, in action `" ++ action ++ "`"
  | .undefinedStructure first =>
    "Undefined structure starting with `" ++ first.describe ++ "` for action `" ++ action ++ "`"
  | .unexpectedToken expected found =>
    "Expected token type `" ++ expected.name ++ "` but got `" ++ found.name ++ "` in action `" ++
      action ++ "`"
  | .unexpectedEnd expected => unexpectedEndMessage expected.name action
  | .noTokens => unexpectedEndMessage ("|".intercalate (Keyword.all.map Keyword.name)) action
  | .trailingTokens found =>
    "Unexpected `" ++ String.ofList found ++ "` after the closing parenthesis in action `" ++
      action ++ "`"
  | .integerOutOfRange lexeme =>
    "Integer `" ++ String.ofList lexeme ++ "` out of range in action `" ++ action ++ "`"
  | .divisionByZero => "div() action with 0 detected, cannot divide by 0"
  | .unbalancedQuote name => unbalancedQuoteMessage name

end Adventure.Action
