import StoreQuery.Text.CharClass

namespace StoreQuery.Text

def trimChars (cs : List Char) : List Char :=
  ((cs.dropWhile isBlank).reverse.dropWhile isBlank).reverse

def trim (s : String) : String := String.ofList (trimChars s.toList)

def split (separator : Char) (s : String) : List String :=
  (s.toList.splitOn separator).map String.ofList

def lower (s : String) : String := String.ofList (s.toList.map Char.toLower)

end StoreQuery.Text
