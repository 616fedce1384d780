import Wallpaper.Text.Invisible

/-! Texts in double quotes on one line. Quotes and backslashes are escaped, and so is every
character that would leave no mark of its own, so what is quoted can be read off the line. -/
namespace Wallpaper.Text

/-- A backslash, and the code point in braces. -/
def codePointEscape (c : Char) : List Char :=
  ['\\', 'u', '\x7b'] ++ Nat.toDigits 16 c.toNat ++ ['\x7d']

def escapeChar (c : Char) : List Char :=
  match c with
  | '\x00' => ['\\', '0']
  | '\t' => ['\\', 't']
  | '\n' => ['\\', 'n']
  | '\r' => ['\\', 'r']
  | '"' => ['\\', '"']
  | '\\' => ['\\', '\\']
  | c => if isInvisible c then codePointEscape c else [c]

def quoted (s : String) : String :=
  String.ofList ('"' :: s.toList.flatMap escapeChar ++ ['"'])

end Wallpaper.Text
