import EngineClient.Decimal.Shortest
import EngineClient.Json.Basic
import EngineClient.Text.Utf8

/-!
Compact and indented JSON text. Strings escape the quote, the backslash and the controls below
U+0020; all else stands as it is.
-/

namespace EngineClient.Json

def escape (c : Char) : List Char :=
  if c = '"' then ['\\', '"']
  else if c = '\\' then ['\\', '\\']
  else if c = '\n' then ['\\', 'n']
  else if c = '\r' then ['\\', 'r']
  else if c = '\t' then ['\\', 't']
  else if c.toNat = 0x08 then ['\\', 'b']
  else if c.toNat = 0x0C then ['\\', 'f']
  else if c.toNat < 0x20 then
    ['\\', 'u', '0', '0', Numeral.digitChar (c.toNat / 16), Numeral.digitChar (c.toNat % 16)]
  else [c]

def renderString (text : String) : List Char :=
  '"' :: text.toList.flatMap escape ++ ['"']

def Number.render : Number → List Char
  | .integer n => Numeral.decimalInt n.value
  | .double x => x.text

def separated (separator : List Char) : List (List Char) → List Char
  | [] => []
  | [piece] => piece
  | piece :: rest => piece ++ separator ++ separated separator rest

mutual

def render : Json → List Char
  | .null => ['n', 'u', 'l', 'l']
  | .bool true => ['t', 'r', 'u', 'e']
  | .bool false => ['f', 'a', 'l', 's', 'e']
  | .number n => n.render
  | .string text => renderString text
  | .list items => '[' :: separated [','] (renderItems items) ++ [']']
  | .object members => '\x7b' :: separated [','] (renderMembers members) ++ ['\x7d']

def renderItems : List Json → List (List Char)
  | [] => []
  | item :: rest => render item :: renderItems rest

def renderMembers : List (String × Json) → List (List Char)
  | [] => []
  | (key, value) :: rest => (renderString key ++ ':' :: render value) :: renderMembers rest

end

def indentation (depth : Nat) : List Char := '\n' :: List.replicate (2 * depth) ' '

mutual

/-- Text with each item and member on a line of its own, two blanks deeper than its container. -/
def renderIndented (depth : Nat) : Json → List Char
  | .list [] => ['[', ']']
  | .list items =>
    '[' :: indentation (depth + 1) ++
      separated (',' :: indentation (depth + 1)) (renderIndentedItems (depth + 1) items) ++
      indentation depth ++ [']']
  | .object [] => ['\x7b', '\x7d']
  | .object members =>
    '\x7b' :: indentation (depth + 1) ++
      separated (',' :: indentation (depth + 1)) (renderIndentedMembers (depth + 1) members) ++
      indentation depth ++ ['\x7d']
  | scalar => render scalar

def renderIndentedItems (depth : Nat) : List Json → List (List Char)
  | [] => []
  | item :: rest => renderIndented depth item :: renderIndentedItems depth rest

def renderIndentedMembers (depth : Nat) : List (String × Json) → List (List Char)
  | [] => []
  | (key, value) :: rest =>
    (renderString key ++ ':' :: ' ' :: renderIndented depth value) ::
      renderIndentedMembers depth rest

end

def text (json : Json) : String := String.ofList json.render

def indentedText (json : Json) : String := String.ofList (json.renderIndented 0)

def bytes (json : Json) : Bytes := Utf8.encode json.render

end EngineClient.Json
