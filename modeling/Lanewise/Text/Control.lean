namespace Lanewise.Text

/-- Where a text stands that may steer a terminal. -/
inductive Control where
  | text
  | escape
  /-- Behind an escape and some punctuation, up to the final character. -/
  | selecting
  /-- Numbers and punctuation up to the letter that commands. -/
  | command
  /-- The start of a message to the terminal, its numbers, and its punctuation. -/
  | message
  | messageNumbers
  | messageMarks
  /-- The body of a message, up to its terminator. -/
  | body
  /-- A title, up to a bell. -/
  | title
  deriving DecidableEq, Repr

namespace Control

def isBreak (c : Char) : Bool := c = '\t' || c = '\n' || c = '\x0c' || c = '\r'

/-- The state behind a character that neither is shown nor ends every sequence. The terminator of a
message is a byte, and counts also where it is a part of a character. -/
def next (control : Control) (c : Char) : Control :=
  let n := c.toNat
  match control with
  | .text => .text
  | .escape =>
    if n < 0x20 || 0x7F ≤ n then .escape
    else if n < 0x30 then .selecting
    else if c = '[' then .command
    else if c = ']' then .title
    else if c = 'P' then .message
    else if c = 'X' || c = '^' || c = '_' then .body
    else .text
  | .selecting => if 0x30 ≤ n && n < 0x7F then .text else .selecting
  | .command => if 0x40 ≤ n && n < 0x7F then .text else .command
  | .message =>
    if n < 0x20 || 0x7F ≤ n then .message
    else if n < 0x30 then .messageMarks
    else if n < 0x40 then .messageNumbers
    else .body
  | .messageNumbers =>
    if n < 0x20 || 0x7F ≤ n then .messageNumbers
    else if n < 0x30 then .messageMarks
    else if n < 0x3C then .messageNumbers
    else .body
  | .messageMarks => if 0x30 ≤ n && n < 0x7F then .body else .messageMarks
  | .body => if (String.utf8EncodeChar c).contains 0x9C then .text else .body
  | .title => if n = 7 then .text else .title

/-- Whether a character is shown. Within a sequence only a tab or the end of a line is. -/
def shows (control : Control) (c : Char) : Bool :=
  match control with
  | .text => isBreak c || (0x20 ≤ c.toNat && c.toNat != 0x7F)
  | .escape | .selecting | .command => isBreak c
  | .message | .messageNumbers | .messageMarks | .body | .title => false

/-- The characters that remain of a text when those that steer a terminal are taken out. What
follows a shown character is shown up to the next control character, even if a sequence was not
finished before; there the sequence goes on, unless a character beyond ASCII has ended it. -/
def shown (printing : Bool) (control : Control) : List Char → List Char
  | [] => []
  | c :: cs =>
    if c = '\x1b' then shown false .escape cs
    else if c = '\x18' || c = '\x1a' then shown false .text cs
    else if shows (if printing then .text else control) c then
      c :: shown true (if c.toNat < 0x80 then control else .text) cs
    else shown false (control.next c) cs

end Control

/-- A text without control characters and the sequences they start. -/
def withoutControls (s : String) : String := String.ofList (Control.shown false .text s.toList)

end Lanewise.Text
