/-!
Choosing the start rule of a Lark grammar. An engine always enters a grammar at the rule `start`; to
enter it at another rule, a line naming that rule is put in front, and a rule `start` that the
grammar already has is renamed.

The text is split into tokens that put together give it back, so that renaming touches identifiers
and nothing else: comments, and the contents of quoted texts and regular expressions, are tokens of
their own.
-/

namespace ConstrainedDecoding.Lark

/-! ## Tokens -/

/-- A token of a grammar text. -/
inductive Token
  /-- Two slashes and what follows them on the line. -/
  | comment (chars : List Char)
  /-- A quoted text or a regular expression with its delimiters; the closing one may be missing. -/
  | literal (chars : List Char)
  | identifier (name : List Char)
  | other (c : Char)
  deriving DecidableEq, Repr

namespace Token

/-- The characters of a token. -/
def chars : Token → List Char
  | comment chars | literal chars | identifier chars => chars
  | other c => [c]

/-- The name, if the token is an identifier. -/
def name? : Token → Option (List Char)
  | identifier name => some name
  | _ => none

end Token

/-- A character that an identifier may start with. -/
def startsIdentifier (c : Char) : Bool :=
  ('a' ≤ c && c ≤ 'z') || ('A' ≤ c && c ≤ 'Z') || c = '_'

/-- A character that an identifier may go on with. -/
def continuesIdentifier (c : Char) : Bool :=
  startsIdentifier c || ('0' ≤ c && c ≤ '9')

/-- What follows the opening delimiter of a literal, up to and with the first such character that no
backslash escapes. -/
def literalRest (delimiter : Char) : List Char → List Char
  | [] => []
  | '\\' :: c :: rest => '\\' :: c :: literalRest delimiter rest
  | c :: rest => if c = delimiter then [c] else c :: literalRest delimiter rest

/-- The token at the front of a non-empty text. -/
def front (c : Char) (rest : List Char) : Token :=
  if c = '/' ∧ rest.head? = some '/' then .comment (c :: rest.takeWhile (· ≠ '\n'))
  else if c = '"' ∨ c = '/' then .literal (c :: literalRest c rest)
  else if startsIdentifier c then .identifier (c :: rest.takeWhile continuesIdentifier)
  else .other c

/-- The tokens of a text. Every token takes up at least its first character. -/
def scan : List Char → List Token
  | [] => []
  | c :: rest =>
    let token := front c rest
    token :: scan (rest.drop (token.chars.length - 1))
termination_by text => text.length
decreasing_by
  simp only [List.length_drop, List.length_cons]
  omega

/-- The text that tokens make up. -/
def join (tokens : List Token) : List Char :=
  tokens.flatMap Token.chars

/-- The identifiers among tokens, in order. -/
def names (tokens : List Token) : List (List Char) :=
  tokens.filterMap Token.name?

/-! ## The start rule -/

/-- The name of the rule that engines enter at. -/
def startName : List Char := ['s', 't', 'a', 'r', 't']

/-- The names tried in turn for a rule `start` that has to give way. -/
def substitute : Nat → List Char
  | 0 => "start_rule".toList
  | n + 1 => s!"start_rule{n + 1}".toList

/-- The first of these names that is not taken. Among one more names than are taken, one is free. -/
def freeSubstitute (taken : List (List Char)) : List Char :=
  (((List.range (taken.length + 1)).map substitute).find? fun name => !taken.contains name).getD []

/-- A token with one name in place of another. -/
def Token.rename (old new : List Char) : Token → Token
  | identifier name => identifier (if name = old then new else name)
  | token => token

/-- The body of a grammar that is entered elsewhere than at its rule `start`. -/
def yieldStart (body : List Char) : List Char :=
  let tokens := scan body
  if (names tokens).contains startName then
    join (tokens.map (Token.rename startName (freeSubstitute (names tokens))))
  else body

/-- The grammar entered at the given rule. -/
def selectStart (text start : String) : String :=
  if start = "start" then text
  else "start: " ++ start ++ "\n" ++ String.ofList (yieldStart text.toList)

end ConstrainedDecoding.Lark
