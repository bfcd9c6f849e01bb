import ImageBot.Unicode.Category
/-!
# Text inside messages

A message that shows a piece of text puts it in quotation marks, and escapes what could
not be seen there: control characters, blanks other than the space, marks that combine
with the character before them, and code points that stand for no character.
-/
namespace ImageBot.Text

open Unicode

/-- Whether a message shows a character as it is. -/
def isShown (c : Char) : Bool :=
  let n := c.toNat
  if n < 0x7F then 0x20 ≤ n else isPrinted n && !isExtender n

/-- A character as a message shows it. -/
def showChar (c : Char) : List Char :=
  match c with
  | '"' => ['\\', '"']
  | '\\' => ['\\', '\\']
  | '\t' => ['\\', 't']
  | '\n' => ['\\', 'n']
  | '\r' => ['\\', 'r']
  | c =>
    if c.toNat = 0 then ['\\', '0']
    else if isShown c then [c]
    else ['\\', 'u', Char.ofNat 0x7B] ++ Nat.toDigits 16 c.toNat ++ [Char.ofNat 0x7D]

/-- A text in quotation marks, as a message shows it. -/
def shown (s : String) : String := String.ofList ('"' :: (s.toList.flatMap showChar ++ ['"']))

end ImageBot.Text
