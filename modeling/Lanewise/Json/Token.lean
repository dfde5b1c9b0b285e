import Lanewise.Json.Basic

namespace Lanewise.Json

/-- The words of the data format. -/
inductive Token where
  | openBrace
  | closeBrace
  | openBracket
  | closeBracket
  | colon
  | comma
  | null
  | bool (value : Bool)
  | number (lexeme : String)
  | string (text : Option String)
  deriving DecidableEq, Repr

/-- Where the reader stands within a token. What was read is kept in reverse; the contents of a
string are code points, among them the two halves of surrogate pairs. -/
inductive Lexing where
  | between
  | bare (chars : List Char)
  | text (points : List Nat)
  | escape (points : List Nat)
  | hex (missing value : Nat) (points : List Nat)

def isSpace (c : Char) : Bool :=
  c = ' ' || c = '\n' || c = '\t' || c = '\r'

def isBare (c : Char) : Bool :=
  c.isAlphanum || c = '+' || c = '-' || c = '.'

/-- A number has a whole part without leading zeros, and digits behind its point if it has one. -/
def isNumber (cs : List Char) : Bool :=
  let cs := match cs with
    | '-' :: cs => cs
    | cs => cs
  match Numeral.read? cs with
  | none => false
  | some n =>
    !n.whole.isEmpty && (n.whole.length = 1 || n.whole.head? != some '0') && n.fraction != some []

/-- A word that needs no quotes. -/
def bareToken? (cs : List Char) : Option Token :=
  if cs = "null".toList then some .null
  else if cs = "true".toList then some (.bool true)
  else if cs = "false".toList then some (.bool false)
  else if isNumber cs then some (.number (String.ofList cs))
  else none

def isHighHalf (n : Nat) : Bool := 0xD800 ≤ n && n < 0xDC00

def isLowHalf (n : Nat) : Bool := 0xDC00 ≤ n && n < 0xE000

/-- Joins the halves of surrogate pairs; fails on a half that stands alone. -/
def joinHalves? : List Nat → Option (List Char)
  | [] => some []
  | n :: rest =>
    if isLowHalf n then none
    else if isHighHalf n then
      match rest with
      | low :: rest =>
        if isLowHalf low then
          (joinHalves? rest).map
            (Char.ofNat (0x10000 + (n - 0xD800) * 0x400 + (low - 0xDC00)) :: ·)
        else none
      | [] => none
    else (joinHalves? rest).map (Char.ofNat n :: ·)

def stringToken (points : List Nat) : Token :=
  .string ((joinHalves? points.reverse).map String.ofList)

/-- What a letter after a backslash stands for. -/
def escaped? (c : Char) : Option Char :=
  match c with
  | '"' => some '"'
  | '\\' => some '\\'
  | '/' => some '/'
  | 'b' => some '\x08'
  | 'f' => some '\x0c'
  | 'n' => some '\n'
  | 'r' => some '\r'
  | 't' => some '\t'
  | _ => none

def hexValue? (c : Char) : Option Nat :=
  if c.isDigit then some (c.toNat - '0'.toNat)
  else if 'a' ≤ c && c ≤ 'f' then some (c.toNat - 'a'.toNat + 10)
  else if 'A' ≤ c && c ≤ 'F' then some (c.toNat - 'A'.toNat + 10)
  else none

/-- The first character of a token, or a space between tokens. -/
def startToken (tokens : List Token) (c : Char) : Option (Lexing × List Token) :=
  match c with
  | '\x7b' => some (.between, .openBrace :: tokens)
  | '\x7d' => some (.between, .closeBrace :: tokens)
  | '[' => some (.between, .openBracket :: tokens)
  | ']' => some (.between, .closeBracket :: tokens)
  | ':' => some (.between, .colon :: tokens)
  | ',' => some (.between, .comma :: tokens)
  | '"' => some (.text [], tokens)
  | c =>
    if isSpace c then some (.between, tokens)
    else if isBare c then some (.bare [c], tokens)
    else none

/-- One more character, with the tokens before it in reverse. -/
def lexChar : Lexing × List Token → Char → Option (Lexing × List Token)
  | (.between, tokens), c => startToken tokens c
  | (.bare chars, tokens), c =>
    if isBare c then some (.bare (c :: chars), tokens)
    else do startToken ((← bareToken? chars.reverse) :: tokens) c
  | (.text points, tokens), c =>
    if c = '"' then some (.between, stringToken points :: tokens)
    else if c = '\\' then some (.escape points, tokens)
    else if c.toNat < 0x20 then none
    else some (.text (c.toNat :: points), tokens)
  | (.escape points, tokens), c =>
    if c = 'u' then some (.hex 4 0 points, tokens)
    else (escaped? c).map fun d => (.text (d.toNat :: points), tokens)
  | (.hex missing value points, tokens), c => do
    let value := 16 * value + (← hexValue? c)
    if missing ≤ 1 then some (.text (value :: points), tokens)
    else some (.hex (missing - 1) value points, tokens)

/-- The tokens of a text, provided that it ends between two of them. -/
def tokens? (cs : List Char) : Option (List Token) := do
  match ← cs.foldlM lexChar (.between, []) with
  | (.between, tokens) => some tokens.reverse
  | (.bare chars, tokens) => some ((← bareToken? chars.reverse) :: tokens).reverse
  | _ => none

end Lanewise.Json
