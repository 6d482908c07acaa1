import SessionLayer.Text.Printable

/-!
# Quoted texts

Logs show a text between quotes. A quote, a backslash and the common controls
get a backslash, and every other character that would not show by itself is
given by its code point.
-/

namespace SessionLayer.Quoted

/-- The digits of a number in base sixteen, in lower case. -/
def hexDigits (value : Nat) : List Char := Nat.toDigits 16 value

/-- A character as it stands between quotes. -/
def escape (c : Char) : List Char :=
  match c with
  | '"' => ['\\', '"']
  | '\\' => ['\\', '\\']
  | '\n' => ['\\', 'n']
  | '\r' => ['\\', 'r']
  | '\t' => ['\\', 't']
  | '\x00' => ['\\', '0']
  | _ =>
    if Printable.isShown c then [c]
    else ['\\', 'u', '\x7b'] ++ hexDigits c.toNat ++ ['\x7d']

/-- A text between quotes. -/
def quote (text : String) : String :=
  String.ofList ('"' :: text.toList.flatMap escape ++ ['"'])

end SessionLayer.Quoted
