/-
Quoted text, as diagnostics show it.

Text stands between double quotes.  A quote and a backslash are written behind a backslash, the
four common controls have letters of their own, every other hidden character is written by its
code point, and everything else stands for itself.
-/
import Interception.Text.Hex
import Interception.Text.Hidden

namespace Interception.Text

/-- One character inside quotes. -/
def quotedChar (c : Char) : List Char :=
  match c with
  | '\x00' => ['\\', '0']
  | '\t' => ['\\', 't']
  | '\r' => ['\\', 'r']
  | '\n' => ['\\', 'n']
  | '"' => ['\\', '"']
  | '\\' => ['\\', '\\']
  | c =>
    if isHidden c then ['\\', 'u', '\x7b'] ++ hexDigits c.toNat ++ ['\x7d'] else [c]

/-- Text between double quotes. -/
def quoted (text : String) : String :=
  String.ofList (['"'] ++ text.toList.flatMap quotedChar ++ ['"'])

end Interception.Text
