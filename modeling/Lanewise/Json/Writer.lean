import Lanewise.Json.Basic

namespace Lanewise.Json

def hexDigits (n : Nat) : List Char :=
  let digits := Nat.toDigits 16 n
  List.replicate (4 - digits.length) '0' ++ digits

/-- A character as it stands within a string. -/
def escapedChar (c : Char) : List Char :=
  if c = '"' then ['\\', '"']
  else if c = '\\' then ['\\', '\\']
  else if c = '\x08' then ['\\', 'b']
  else if c = '\x0c' then ['\\', 'f']
  else if c = '\n' then ['\\', 'n']
  else if c = '\r' then ['\\', 'r']
  else if c = '\t' then ['\\', 't']
  else if c.toNat < 0x20 then ['\\', 'u'] ++ hexDigits c.toNat
  else [c]

def stringChars (s : String) : List Char :=
  '"' :: s.toList.flatMap escapedChar ++ ['"']

/-- A string that has no text is written empty. -/
def textChars (text : Option String) : List Char :=
  stringChars (text.getD "")

mutual

/-- The text of a value, without spaces. -/
def chars : Json → List Char
  | .null => "null".toList
  | .bool true => "true".toList
  | .bool false => "false".toList
  | .number lexeme => lexeme.toList
  | .string text => textChars text
  | .array [] => ['[', ']']
  | .array (item :: items) => '[' :: (chars item ++ tailChars items ++ [']'])
  | .object [] => ['\x7b', '\x7d']
  | .object ((key, value) :: fields) =>
    '\x7b' :: (textChars key ++ ':' :: (chars value ++ fieldChars fields ++ ['\x7d']))

def tailChars : List Json → List Char
  | [] => []
  | item :: items => ',' :: (chars item ++ tailChars items)

def fieldChars : List (Option String × Json) → List Char
  | [] => []
  | (key, value) :: fields => ',' :: (textChars key ++ ':' :: (chars value ++ fieldChars fields))

end

def render (value : Json) : String := String.ofList value.chars

end Lanewise.Json
