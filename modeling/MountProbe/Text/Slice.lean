import MountProbe.Text.Utf8

namespace MountProbe.Text

/-- How many bytes stand before the first occurrence of a stretch of bytes. -/
def firstPlace (stretch : Bytes) : Bytes → Option Nat
  | [] => if stretch.isEmpty then some 0 else none
  | b :: rest =>
    if stretch.isPrefixOf (b :: rest) then some 0 else (firstPlace stretch rest).map (· + 1)

/-- The place is at an end of the text, or the byte there is the first one of its character. -/
def isBoundary (text : Bytes) (place : Nat) : Bool :=
  match text[place]? with
  | some b => place == 0 || !isTail b
  | none => place == text.length

/-- The text from one place to another. There is none if a character would have to be cut. -/
def slice? (text : Bytes) (start stop : Nat) : Option (List Char) :=
  if start ≤ stop && isBoundary text start && isBoundary text stop then
    decode? ((text.take stop).drop start)
  else none

end MountProbe.Text
