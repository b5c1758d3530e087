import OciCompose.Text.Unprintable

/-
  Texts in quotes, as messages show them.
-/

namespace OciCompose.Text

/-- A character inside quotes. What leaves no mark is shown by its code point. -/
def shown (c : Char) : List Char :=
  if c = '"' then ['\\', '"']
  else if c = '\\' then ['\\', '\\']
  else if c = '\t' then ['\\', 't']
  else if c = '\r' then ['\\', 'r']
  else if c = '\n' then ['\\', 'n']
  else if c = '\x00' then ['\\', '0']
  else if isUnprintable c then '\\' :: 'u' :: '\x7b' :: Nat.toDigits 16 c.toNat ++ ['\x7d']
  else [c]

def quoted (s : String) : String := String.ofList ('"' :: s.toList.flatMap shown ++ ['"'])

end OciCompose.Text
