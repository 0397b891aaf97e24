import TagTemplate.Source.Position
import TagTemplate.Text.Blank
import TagTemplate.Text.Letter
import TagTemplate.Text.Lowercase

/-!
# Tokens

A source is a row of text runs, opening tags, closing tags and interpolations. Comments are no
tokens: they vanish from the text around them. What a tag says is read off the characters
between its `<` and its `>` here; where a tag ends is the scanner's business.
-/

namespace TagTemplate

/-- What a token is. -/
inductive Token.Kind where
  /-- A run of literal characters. -/
  | text (text : String)
  /-- An opening tag: its folded name, its attribute text as written, and whether a slash ends it. -/
  | tagOpen (name : String) (attributes : String) (selfClosing : Bool)
  /-- A closing tag, with its folded name. -/
  | tagClose (name : String)
  /-- What stands between two `#` marks. -/
  | interpolation (expression : String)
deriving Repr, DecidableEq, Inhabited

/-- A token, where it stands, and the characters it was read from. For text these are the ones
that remain when comments are taken out. -/
structure Token where
  kind : Token.Kind
  span : Span
  lexeme : String
deriving Repr, DecidableEq, Inhabited

/-- A character of a tag name. -/
def isTagNameChar (c : Char) : Bool :=
  Text.isLetterOrNumeral c || c == '_' || c == '-' || c == ':' || c == '.'

/-- The name at the head of what stands in a tag. -/
def tagName (inside : List Char) : List Char := inside.takeWhile isTagNameChar

/-- The token that a tag makes, from what stands between `<` and `>`. A slash in front makes a
closing tag, and all after the name of such a tag is ignored. Otherwise a slash at the end makes
the tag self-closing, and what remains, trimmed, is the attribute text. -/
def Token.Kind.ofTag (inside : List Char) : Token.Kind :=
  match inside with
  | '/' :: rest => .tagClose (Text.foldAscii (String.ofList (tagName rest)))
  | inside =>
    let name := tagName inside
    let attributes := Text.trimChars (inside.drop name.length)
    let folded := Text.foldAscii (String.ofList name)
    if attributes.getLast? = some '/' then
      .tagOpen folded (String.ofList (Text.dropTrailingBlanks attributes.dropLast)) true
    else
      .tagOpen folded (String.ofList attributes) false

end TagTemplate
