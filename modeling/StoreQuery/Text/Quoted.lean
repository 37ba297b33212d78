import StoreQuery.Text.CharClass
import StoreQuery.Text.Table.Coded

namespace StoreQuery.Text

def codeText (c : Char) : List Char :=
  ['\\', 'u', '\x7b'] ++ Nat.toDigits 16 c.toNat ++ ['\x7d']

def escapeQuoted (quotes : List Char) (c : Char) : List Char :=
  match c with
  | '\\' => ['\\', '\\']
  | '\n' => ['\\', 'n']
  | '\r' => ['\\', 'r']
  | '\t' => ['\\', 't']
  | '\x00' => ['\\', '0']
  | c =>
    if quotes.contains c then ['\\', c]
    else if inRanges codedRanges c then codeText c
    else [c]

def quoted (s : String) : String :=
  String.ofList ('"' :: s.toList.flatMap (escapeQuoted ['"']) ++ ['"'])

def quotedPath (s : String) : String :=
  String.ofList ('"' :: s.toList.flatMap (escapeQuoted ['"', '\'']) ++ ['"'])

end StoreQuery.Text
