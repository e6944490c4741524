import FacetRules.Text.Extending

/-!
# Quoted texts

A text shown in a message stands between quotation marks, on one line, and leaves
no doubt about its characters.  Quotation marks and backslashes get a backslash,
tab, carriage return, line feed and the null character have short names, and what
cannot be shown or would join its neighbour is written as its number in
hexadecimal digits between braces.
-/

namespace FacetRules
namespace Text

def charNumber (c : Char) : List Char :=
  ['\\', 'u', '\x7b'] ++ Nat.toDigits 16 c.toNat ++ ['\x7d']

/-- A character as it stands between quotation marks. -/
def quotedChar (c : Char) : List Char :=
  match c with
  | '"' => ['\\', '"']
  | '\\' => ['\\', '\\']
  | '\t' => ['\\', 't']
  | '\r' => ['\\', 'r']
  | '\n' => ['\\', 'n']
  | '\x00' => ['\\', '0']
  | c => if isExtending c || isUnprintable c then charNumber c else [c]

def quoted (s : String) : String :=
  String.ofList ('"' :: s.toList.flatMap quotedChar ++ ['"'])

end Text
end FacetRules
