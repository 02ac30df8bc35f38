/-!
Text as lines. Besides line feed and carriage return, the vertical tab, the form feed, three
information separators, next line and the two Unicode separators end a line; a carriage return
with its line feed is one break, and a break at the very end opens no further line.
-/

namespace TableSchema.Text

def isLineBreak (c : Char) : Bool :=
  let n := c.toNat
  (0x0A ≤ n && n ≤ 0x0D) || (0x1C ≤ n && n ≤ 0x1E) || n == 0x85 || n == 0x2028 || n == 0x2029

def lines : List Char → List (List Char)
  | [] => []
  | '\r' :: '\n' :: cs => [] :: lines cs
  | c :: cs =>
    if isLineBreak c then [] :: lines cs
    else match lines cs with
      | [] => [[c]]
      | line :: rest => (c :: line) :: rest

example : lines "a\r\n\nb".toList = ["a".toList, [], "b".toList] := by decide
example : lines "a\n".toList = ["a".toList] := by decide

end TableSchema.Text
