import Retrace.Bytes
import Retrace.Json.Value

namespace Retrace.Json

/-- Quotes, backslashes and control characters are escaped, all else stands for itself. -/
def escape (c : Char) : List Char :=
  if c = '"' then ['\\', '"']
  else if c = '\\' then ['\\', '\\']
  else if c = '\x08' then ['\\', 'b']
  else if c = '\t' then ['\\', 't']
  else if c = '\n' then ['\\', 'n']
  else if c = '\x0c' then ['\\', 'f']
  else if c = '\r' then ['\\', 'r']
  else if c.toNat < 0x20 then
    ['\\', 'u', '0', '0', Bytes.hexDigit (c.toNat / 16), Bytes.hexDigit (c.toNat % 16)]
  else [c]

/-- The body of a literal that names no text is one half of a surrogate pair. -/
def literalBody : Option String → List Char
  | some text => text.toList.flatMap escape
  | none => ['\\', 'u', 'd', '8', '0', '0']

def literal (text : Option String) : List Char :=
  '"' :: (literalBody text ++ ['"'])

def Number.written (n : Number) : List Char :=
  (if n.negative then ['-'] else []) ++ n.whole ++
    (if n.fraction.isEmpty then [] else '.' :: n.fraction) ++
    match n.exponent with
    | none => []
    | some e => 'e' :: ((if e < 0 then ['-'] else []) ++ Numeral.digits 10 e.natAbs)

mutual

def compact : Json → List Char
  | .null => ['n', 'u', 'l', 'l']
  | .bool true => ['t', 'r', 'u', 'e']
  | .bool false => ['f', 'a', 'l', 's', 'e']
  | .number n => n.written
  | .string text => literal text
  | .array [] => ['[', ']']
  | .array (item :: rest) => '[' :: (compact item ++ compactItems rest)
  | .object [] => ['{', '}']
  | .object ((key, item) :: rest) => '{' :: (literal key ++ ':' :: (compact item ++ compactMembers rest))

/-- The items after the first, up to the closing bracket. -/
def compactItems : List Json → List Char
  | [] => [']']
  | item :: rest => ',' :: (compact item ++ compactItems rest)

/-- The members after the first, up to the closing brace. -/
def compactMembers : List (Option String × Json) → List Char
  | [] => ['}']
  | (key, item) :: rest => ',' :: (literal key ++ ':' :: (compact item ++ compactMembers rest))

end

/-- A new line, two blanks deeper for each level. -/
def newline (level : Nat) : List Char := '\n' :: List.replicate (2 * level) ' '

mutual

/-- The form with one item or member a line, of a value at a level of nesting. -/
def indented (level : Nat) : Json → List Char
  | .array [] => ['[', ']']
  | .array (item :: rest) =>
    '[' :: (newline (level + 1) ++ indented (level + 1) item ++ indentedItems level rest)
  | .object [] => ['{', '}']
  | .object ((key, item) :: rest) =>
    '{' :: (newline (level + 1) ++ literal key ++ ':' :: ' ' ::
      (indented (level + 1) item ++ indentedMembers level rest))
  | value => compact value

def indentedItems (level : Nat) : List Json → List Char
  | [] => newline level ++ [']']
  | item :: rest =>
    ',' :: (newline (level + 1) ++ indented (level + 1) item ++ indentedItems level rest)

def indentedMembers (level : Nat) : List (Option String × Json) → List Char
  | [] => newline level ++ ['}']
  | (key, item) :: rest =>
    ',' :: (newline (level + 1) ++ literal key ++ ':' :: ' ' ::
      (indented (level + 1) item ++ indentedMembers level rest))

end

/-- The compact text of a value. -/
def render (value : Json) : String := String.ofList value.compact

/-- The text of a value with one item or member a line. -/
def renderIndented (value : Json) : String := String.ofList (value.indented 0)

end Retrace.Json
