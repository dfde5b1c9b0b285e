import Lanewise.Json.Token

namespace Lanewise.Json

/-- A container that is still open, its contents in reverse. -/
inductive Frame where
  | array (items : List Json)
  | object (fields : List (Option String × Json))
  | field (fields : List (Option String × Json)) (key : Option String)

/-- What the next token may be. -/
inductive Phase where
  | value
  | firstItem
  | firstKey
  | key
  | colon
  | separator
  | complete (value : Json)

/-- A finished value goes into the innermost open container. -/
def deliver (value : Json) : List Frame → Option (Phase × List Frame)
  | [] => some (.complete value, [])
  | .array items :: frames => some (.separator, .array (value :: items) :: frames)
  | .field fields key :: frames => some (.separator, .object ((key, value) :: fields) :: frames)
  | .object _ :: _ => none

/-- A token at a place where a value starts. -/
def startValue (frames : List Frame) : Token → Option (Phase × List Frame)
  | .null => deliver .null frames
  | .bool value => deliver (.bool value) frames
  | .number lexeme => deliver (.number lexeme) frames
  | .string text => deliver (.string text) frames
  | .openBracket => some (.firstItem, .array [] :: frames)
  | .openBrace => some (.firstKey, .object [] :: frames)
  | _ => none

def readToken : Phase × List Frame → Token → Option (Phase × List Frame)
  | (.firstItem, .array items :: frames), .closeBracket => deliver (.array items.reverse) frames
  | (.firstItem, frames), token => startValue frames token
  | (.value, frames), token => startValue frames token
  | (.firstKey, .object fields :: frames), .closeBrace => deliver (.object fields.reverse) frames
  | (.firstKey, .object fields :: frames), .string key => some (.colon, .field fields key :: frames)
  | (.key, .object fields :: frames), .string key => some (.colon, .field fields key :: frames)
  | (.colon, frames), .colon => some (.value, frames)
  | (.separator, .array items :: frames), .comma => some (.value, .array items :: frames)
  | (.separator, .array items :: frames), .closeBracket => deliver (.array items.reverse) frames
  | (.separator, .object fields :: frames), .comma => some (.key, .object fields :: frames)
  | (.separator, .object fields :: frames), .closeBrace => deliver (.object fields.reverse) frames
  | _, _ => none

def ofTokens? (tokens : List Token) : Option Json := do
  match ← tokens.foldlM readToken (.value, []) with
  | (.complete value, _) => some value
  | _ => none

/-- The value of a text that holds nothing else but spaces. -/
def parse (s : String) : Option Json := do
  ofTokens? (← tokens? s.toList)

end Lanewise.Json
