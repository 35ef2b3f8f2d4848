import TopicShell.Text.Escape

/-!
# Errors in the text of a template

Why a template cannot be taken apart, with the wording of each reason.
-/

namespace TopicShell.Template

/-- A text between quotes, for use in a message. -/
def quote (s : String) : String :=
  Text.Literal.ofText s

inductive ParseError where
  | character (c : Char) (position : Nat)
  /-- A closing bracket without an opening one. -/
  | unopened (bracket : Char)
  | mismatched (bracket expected : Char)
  | openComment
  | openRaw
  | escape (reason : Text.Escape.Reason)
  | identifier
  | expected (what got : String)
  | expectedAtEnd (what : String)
  | unexpected (what : String)
  | noExpression (got : String)
  | noTag
  /-- A tag that cannot stand here; `sought` are the tags looked for, `outer` those of the blocks
  around it, `block` the innermost open block. -/
  | unknownTag (tag : String) (sought outer : List String) (block : Option String)
  | unfinished (sought : List String) (block : Option String)
  | target (kind : String)
  | subscript
  | callArguments
  | defaultOrder
  | chainedTests
  deriving DecidableEq

namespace ParseError

def alternatives (words : List String) : String :=
  " or ".intercalate (words.map quote)

def innermost : Option String → String
  | some b => " The innermost block that needs to be closed is " ++ quote b ++ "."
  | none => ""

def looking (words : List String) : String :=
  if words.isEmpty then ""
  else " Jinja was looking for the following tags: " ++ alternatives words ++ "."

def message : ParseError → String
  | character c position => "unexpected char " ++ quote c.toString ++ " at " ++ toString position
  | unopened b => "unexpected '" ++ b.toString ++ "'"
  | mismatched b e => "unexpected '" ++ b.toString ++ "', expected '" ++ e.toString ++ "'"
  | openComment => "Missing end of comment tag"
  | openRaw => "Missing end of raw directive"
  | escape reason => reason.text
  | identifier => "Invalid character in identifier"
  | expected what got => "expected token " ++ quote what ++ ", got " ++ quote got
  | expectedAtEnd what => "unexpected end of template, expected " ++ quote what ++ "."
  | unexpected what => "unexpected " ++ quote what
  | noExpression got => "Expected an expression, got " ++ quote got
  | noTag => "tag name expected"
  | unknownTag tag sought outer block =>
    "Encountered unknown tag " ++ quote tag ++ "."
      ++ (if outer.contains tag && !sought.isEmpty then
          " You probably made a nesting mistake. Jinja is expecting this tag, but currently looking for "
            ++ alternatives sought ++ "."
        else looking sought)
      ++ innermost block
  | unfinished sought block =>
    "Unexpected end of template." ++ looking sought ++ innermost block
  | target kind => "can't assign to " ++ quote kind
  | subscript => "expected name or number"
  | callArguments => "invalid syntax for function call expression"
  | defaultOrder => "non-default argument follows default argument"
  | chainedTests => "You cannot chain multiple tests with is"

end ParseError

end TopicShell.Template
