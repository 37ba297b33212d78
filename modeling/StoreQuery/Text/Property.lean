import StoreQuery.Text.Basic
import StoreQuery.Text.CharSet
import StoreQuery.Text.Table.Category
import StoreQuery.Text.Table.Script
import StoreQuery.Text.Table.Age
import StoreQuery.Text.Table.Trait

namespace StoreQuery

/-- How a property is made up. A category is given by the letters its name begins with. -/
inductive Property
  | codes (text : String)
  | category (letters : String)
  | trait (name : String)
  | steps (first last step : Nat)
  | union (a b : Property)
  | diff (a b : Property)

namespace Property

instance : Union Property := ⟨.union⟩

instance : SDiff Property := ⟨.diff⟩

/-- Names are compared without case, blanks, hyphens and underscores, and without `is` in front.
The name `isc` is one of its own. -/
def looseName (cs : List Char) : String :=
  let isPrefixed := (cs.take 2).map Char.toLower = ['i', 's']
  let kept := ((if isPrefixed then cs.drop 2 else cs).filter fun c =>
    c.toNat < 0x80 && c != ' ' && c != '_' && c != '-').map Char.toLower
  if isPrefixed ∧ kept = ['c'] then "isc" else String.ofList kept

def namesOf (text : String) : List String :=
  (Text.split ' ' text).map fun name => looseName name.toList

def find? (table : List (String × α)) (loose : String) : Option α :=
  (table.find? fun (names, _) => (namesOf names).contains loose).map (·.2)

def unassigned : CharSet :=
  (CharSet.unionAll (Text.categories.map fun (_, text) => .ofText text)).compl

def categorySet (letters : String) : CharSet :=
  let assigned := Text.categories.filter fun (name, _) => letters.toList.isPrefixOf name.toList
  let sets := assigned.map fun (_, text) => CharSet.ofText text
  CharSet.unionAll (if letters.toList.isPrefixOf ['C', 'n'] then unassigned :: sets else sets)

def toSet : Property → CharSet
  | .codes text => .ofText text
  | .category letters => categorySet letters
  | .trait name => ((find? Text.traits (looseName name.toList)).map CharSet.ofText).getD .empty
  | .steps first last step =>
    ⟨(List.range ((last - first) / step + 1)).map fun i => (first + i * step, first + i * step)⟩
  | .union a b => a.toSet.union b.toSet
  | .diff a b => a.toSet.diff b.toSet

def everything : Property := .codes "0-D7FF E000-10FFFF"

def lowercase : Property := .category "Ll" ∪ .trait "Other_Lowercase"

def uppercase : Property := .category "Lu" ∪ .trait "Other_Uppercase"

def cased : Property := lowercase ∪ uppercase ∪ .category "Lt"

def letterLike : Property := .category "L" ∪ .category "Nl"

def alphabetic : Property := letterLike ∪ .trait "Other_Alphabetic"

def patternOnly : Property := .trait "Pattern_Syntax" ∪ .trait "Pattern_White_Space"

def idStart : Property := (letterLike ∪ .trait "Other_ID_Start") \ patternOnly

def idContinue : Property :=
  (idStart ∪ .category "Mn" ∪ .category "Mc" ∪ .category "Nd" ∪ .category "Pc"
    ∪ .trait "Other_ID_Continue") \ patternOnly

def graphemeExtend : Property :=
  .category "Mn" ∪ .category "Me" ∪ .trait "Other_Grapheme_Extend"

def defaultIgnorable : Property :=
  .trait "Other_Default_Ignorable_Code_Point" ∪ .trait "Variation_Selector"
    ∪ (.category "Cf" \ .codes "600-605 6DD 70F 890-891 8E2 FFF9-FFFB 110BD 110CD 13430-1343F")

def graphemeBase : Property :=
  everything \ (.category "C" ∪ .category "Zl" ∪ .category "Zp" ∪ graphemeExtend)

def caseIgnorable : Property :=
  .category "Mn" ∪ .category "Me" ∪ .category "Cf" ∪ .category "Lm" ∪ .category "Sk"
    ∪ .codes "27 2E 3A B7 387 55F 5F4 2018-2019 2024 2027 FE13 FE52 FE55 FF07 FF0E FF1A"

def digraphs : Property :=
  .codes "1C5 1C8 1CB 1F2 1F88-1F8F 1F98-1F9F 1FA8-1FAF 1FBC 1FCC 1FFC"

def changesWhenLowercased : Property :=
  ((.category "Lu" ∪ .category "Lt") \ .codes
    "3D2-3D4 2102 2107 210B-210D 2110-2112 2115 2119-211D 2124 2128 212C-212D 2130-2131 2133
    213E-213F 2145 1D400-1D419 1D434-1D44D 1D468-1D481 1D49C 1D49E-1D49F 1D4A2 1D4A5-1D4A6
    1D4A9-1D4AC 1D4AE-1D4B5 1D4D0-1D4E9 1D504-1D505 1D507-1D50A 1D50D-1D514 1D516-1D51C
    1D538-1D539 1D53B-1D53E 1D540-1D544 1D546 1D54A-1D550 1D56C-1D585 1D5A0-1D5B9 1D5D4-1D5ED
    1D608-1D621 1D63C-1D655 1D670-1D689 1D6A8-1D6C0 1D6E2-1D6FA 1D71C-1D734 1D756-1D76E
    1D790-1D7A8 1D7CA") ∪ .codes "2160-216F 24B6-24CF"

def changesWhenUppercased : Property :=
  (.category "Ll" \ .codes
    "138 18D 1AA-1AB 1BA 1BE 221 234-239 255 258 25A 25D-25F 262 267 26D-26E 270 273-274 276-27C
    27E-27F 281 284-286 28D-291 293 295-29C 29F-2AF 3FC 560 588 1D00-1D2B 1D6B-1D77 1D7A-1D7C
    1D7E-1D8D 1D8F-1D9A 1E9C-1E9D 1E9F 210A 210E-210F 2113 212F 2134 2139 213C-213D 2146-2149
    2C71 2C74 2C77-2C7B 2CE4 A730-A731 A771-A778 A78E A795 A7AF A7D3 A7D5 A7FA AB30-AB52
    AB54-AB5A AB60-AB68 1D41A-1D433 1D44E-1D454 1D456-1D467 1D482-1D49B 1D4B6-1D4B9 1D4BB
    1D4BD-1D4C3 1D4C5-1D4CF 1D4EA-1D503 1D51E-1D537 1D552-1D56B 1D586-1D59F 1D5BA-1D5D3
    1D5EE-1D607 1D622-1D63B 1D656-1D66F 1D68A-1D6A5 1D6C2-1D6DA 1D6DC-1D6E1 1D6FC-1D714
    1D716-1D71B 1D736-1D74E 1D750-1D755 1D770-1D788 1D78A-1D78F 1D7AA-1D7C2 1D7C4-1D7C9 1D7CB
    1DF00-1DF09 1DF0B-1DF1E 1DF25-1DF2A") ∪ digraphs ∪ .codes "345 2170-217F 24D0-24E9"

def changesWhenTitlecased : Property :=
  (changesWhenUppercased \ (digraphs ∪ .codes "10D0-10FA 10FD-10FF"))
    ∪ .codes "1C4 1C7 1CA 1F1"

def changesWhenCasefolded : Property :=
  (changesWhenLowercased \ .codes "13A0-13F5") ∪ .codes
    "B5 DF 149 17F 345 3C2 3D0-3D1 3D5-3D6 3F0-3F1 3F5 587 13F8-13FD 1C80-1C88 1E9A-1E9B
    1F80-1F87 1F90-1F97 1FA0-1FA7 1FB2-1FB4 1FB7 1FC2-1FC4 1FC7 1FF2-1FF4 1FF7 AB70-ABBF
    FB00-FB06 FB13-FB17"

def notComposed : Property :=
  .codes "37A 309B-309C FC5E-FC63 FDFA-FDFB FE70 FE72 FE74 FE76 FE78 FE7A FE7C FE7E"

def composites : List (String × Property) := [
  ("Alphabetic Alpha", alphabetic),
  ("Case_Ignorable CI", caseIgnorable),
  ("Cased", cased),
  ("Changes_When_Casefolded CWCF", changesWhenCasefolded),
  ("Changes_When_Casemapped CWCM",
    changesWhenLowercased ∪ changesWhenUppercased ∪ changesWhenTitlecased),
  ("Changes_When_Lowercased CWL", changesWhenLowercased),
  ("Changes_When_Titlecased CWT", changesWhenTitlecased),
  ("Changes_When_Uppercased CWU", changesWhenUppercased),
  ("Default_Ignorable_Code_Point DI", defaultIgnorable),
  ("Grapheme_Base Gr_Base", graphemeBase),
  ("Grapheme_Extend Gr_Ext", graphemeExtend),
  ("ID_Compat_Math_Continue",
    .trait "ID_Compat_Math_Start" ∪ .codes "B2-B3 B9 2070 2074-207E 2080-208E"),
  ("ID_Continue IDC", idContinue),
  ("ID_Start IDS", idStart),
  ("Lowercase Lower", lowercase),
  ("Math", .category "Sm" ∪ .trait "Other_Math"),
  ("Uppercase Upper", uppercase),
  ("XID_Continue XIDC", idContinue \ notComposed),
  ("XID_Start XIDS", idStart \ (notComposed ∪ .codes "E33 EB3 FF9E-FF9F"))]

def categoryNames : List (String × Property) := [
  ("L Letter", .category "L"),
  ("LC Cased_Letter", .category "Lu" ∪ .category "Ll" ∪ .category "Lt"),
  ("Lu Uppercase_Letter", .category "Lu"),
  ("Ll Lowercase_Letter", .category "Ll"),
  ("Lt Titlecase_Letter", .category "Lt"),
  ("Lm Modifier_Letter", .category "Lm"),
  ("Lo Other_Letter", .category "Lo"),
  ("M Mark Combining_Mark", .category "M"),
  ("Mn Nonspacing_Mark", .category "Mn"),
  ("Mc Spacing_Mark", .category "Mc"),
  ("Me Enclosing_Mark", .category "Me"),
  ("N Number", .category "N"),
  ("Nd Decimal_Number digit", .category "Nd"),
  ("Nl Letter_Number", .category "Nl"),
  ("No Other_Number", .category "No"),
  ("P Punctuation punct", .category "P"),
  ("Pc Connector_Punctuation", .category "Pc"),
  ("Pd Dash_Punctuation", .category "Pd"),
  ("Ps Open_Punctuation", .category "Ps"),
  ("Pe Close_Punctuation", .category "Pe"),
  ("Pi Initial_Punctuation", .category "Pi"),
  ("Pf Final_Punctuation", .category "Pf"),
  ("Po Other_Punctuation", .category "Po"),
  ("S Symbol", .category "S"),
  ("Sm Math_Symbol", .category "Sm"),
  ("Sc Currency_Symbol", .category "Sc"),
  ("Sk Modifier_Symbol", .category "Sk"),
  ("So Other_Symbol", .category "So"),
  ("Z Separator", .category "Z"),
  ("Zs Space_Separator", .category "Zs"),
  ("Zl Line_Separator", .category "Zl"),
  ("Zp Paragraph_Separator", .category "Zp"),
  ("C Other", .category "C"),
  ("Cc Control cntrl", .category "Cc"),
  ("Cf Format", .category "Cf"),
  ("Co Private_Use", .category "Co"),
  ("Cn Unassigned", .category "Cn"),
  ("Any", everything),
  ("Assigned", everything \ .category "Cn"),
  ("ASCII", .codes "0-7F")]

def marksAndModifiers : Property :=
  graphemeExtend ∪ .category "Mc" ∪ .trait "Emoji_Modifier"

def numberSigns : Property := .codes "600-605 6DD 890-891 8E2 110BD 110CD"

def formats : Property :=
  .category "Cf" \ (.codes "70F 200B-200D E0020-E007F" ∪ numberSigns)

def graphemeBreaks : List (String × Property) := [
  ("CR", .codes "D"),
  ("LF", .codes "A"),
  ("Control CN",
    (.category "Cc" ∪ .category "Cf" ∪ .category "Zl" ∪ .category "Zp"
      ∪ (defaultIgnorable \ (everything \ .category "Cn")))
      \ (.codes "A D 70F 200C-200D E0020-E007F" ∪ numberSigns)),
  ("Extend EX", graphemeExtend ∪ .trait "Emoji_Modifier"),
  ("Regional_Indicator RI", .trait "Regional_Indicator"),
  ("Prepend PP",
    .codes "70F D4E 111C2-111C3 113D1 1193F 11941 11A3A 11A84-11A89 11D46 11F02" ∪ numberSigns),
  ("SpacingMark SM",
    (.category "Mc" \ (graphemeExtend ∪ .codes
      "102B-102C 1038 1062-1064 1067-106D 1083 1087-108C 108F 109A-109C 1A61 1A63-1A64 AA7B AA7D
      11720-11721")) ∪ .codes "E33 EB3"),
  ("L", .codes "1100-115F A960-A97C"),
  ("V", .codes "1160-11A7 D7B0-D7C6 16D63 16D67-16D6A"),
  ("T", .codes "11A8-11FF D7CB-D7FB"),
  ("LV", .steps 0xAC00 0xD7A3 28),
  ("LVT", .codes "AC00-D7A3" \ .steps 0xAC00 0xD7A3 28),
  ("ZWJ", .codes "200D")]

def katakana : Property :=
  .codes "3031-3035 309B-309C 30A0-30FA 30FC-30FF 31F0-31FF 32D0-32FE 3300-3357 FF66-FF9D
    1AFF0-1AFF3 1AFF5-1AFFB 1AFFD-1AFFE 1B000 1B120-1B122 1B155 1B164-1B167"

def hebrewLetters : Property :=
  .codes "5D0-5EA 5EF-5F2 FB1D FB1F-FB28 FB2A-FB36 FB38-FB3C FB3E FB40-FB41 FB43-FB44 FB46-FB4F"

def unspacedLetters : Property :=
  .codes "E01-E30 E32-E33 E40-E46 E81-E82 E84 E86-E8A E8C-EA3 EA5 EA7-EB0 EB2-EB3 EBD EC0-EC4 EC6
    EDC-EDF 1000-102A 103F 1050-1055 105A-105D 1061 1065-1066 106E-1070 1075-1081 108E 1780-17B3
    17D7 17DC 1950-196D 1970-1974 1980-19AB 19B0-19C9 1A20-1A54 1AA7 3041-3096 309D-309F
    A9E0-A9E4 A9E6-A9EF A9FA-A9FE AA60-AA76 AA7A AA7E-AAAF AAB1 AAB5-AAB6 AAB9-AABD AAC0 AAC2
    AADB-AADD 11700-1171A 11740-11746 1B001-1B11F 1B132 1B150-1B152"

def wordBreaks : List (String × Property) := [
  ("CR", .codes "D"),
  ("LF", .codes "A"),
  ("Newline NL", .codes "B-C 85 2028-2029"),
  ("Extend", marksAndModifiers),
  ("ZWJ", .codes "200D"),
  ("Regional_Indicator RI", .trait "Regional_Indicator"),
  ("Format FO", formats),
  ("Katakana KA", katakana),
  ("Hebrew_Letter HL", hebrewLetters),
  ("ALetter LE",
    (alphabetic \ (marksAndModifiers ∪ .trait "Ideographic" ∪ katakana ∪ hebrewLetters
      ∪ unspacedLetters)) ∪ .codes
      "2C2-2C5 2D2-2D7 2DE-2DF 2E5-2EB 2ED 2EF-2FF 55A-55C 55E 58A 5F3 70F A708-A716 A720-A721
      A789-A78A AB5B"),
  ("Single_Quote SQ", .codes "27"),
  ("Double_Quote DQ", .codes "22"),
  ("MidNumLet MB", .codes "2E 2018-2019 2024 FE52 FF07 FF0E"),
  ("MidLetter ML", .codes "3A B7 387 55F 5F4 2027 FE13 FE55 FF1A"),
  ("MidNum MN", .codes "2C 3B 37E 589 60C-60D 66C 7F8 2044 FE10 FE14 FE50 FE54 FF0C FF1B"),
  ("Numeric NU", .category "Nd" ∪ .codes "66B" ∪ numberSigns),
  ("ExtendNumLet EX", .codes "5F 202F 203F-2040 2054 FE33-FE34 FE4D-FE4F FF3F"),
  ("WSegSpace", .codes "20 1680 2000-2006 2008-200A 205F 3000")]

def sentenceLower : Property := lowercase \ (graphemeExtend ∪ .codes "10D0-10FA 10FD-10FF")

def sentenceUpper : Property :=
  (uppercase ∪ .category "Lt") \ .codes "1C90-1CBA 1CBD-1CBF"

def sentenceExtend : Property := graphemeExtend ∪ .category "Mc" ∪ .codes "200D"

def fullStops : Property := .codes "2E 2024 FE52 FF0E"

def sentenceBreaks : List (String × Property) := [
  ("CR", .codes "D"),
  ("LF", .codes "A"),
  ("Extend EX", sentenceExtend),
  ("Sep SE", .codes "85 2028-2029"),
  ("Format FO", formats ∪ .codes "200B"),
  ("Sp", .codes "9 B-C 20 A0 1680 2000-200A 202F 205F 3000"),
  ("Lower LO", sentenceLower),
  ("Upper UP", sentenceUpper),
  ("OLetter LE",
    (alphabetic \ (sentenceLower ∪ sentenceUpper ∪ sentenceExtend)) ∪ .codes "5F3 70F"),
  ("Numeric NU", .category "Nd" ∪ .codes "66B-66C" ∪ numberSigns),
  ("ATerm AT", fullStops),
  ("SContinue SC",
    .codes "2C-2D 3A-3B 37E 55D 60C-60D 7F8 1802 1808 2013-2014 3001 FE10-FE11 FE13-FE14
      FE31-FE32 FE50-FE51 FE54-FE55 FE58 FE63 FF0C-FF0D FF1A-FF1B FF64"),
  ("STerm ST", .trait "Sentence_Terminal" \ fullStops),
  ("Close CL",
    .category "Ps" ∪ .category "Pe" ∪ .category "Pi" ∪ .category "Pf" ∪ .codes
      "22 27 275B-2760 2E00-2E01 2E06-2E08 2E0B 1F676-1F678")]

def extendedScript? (loose : String) : Option CharSet := do
  let (names, text) ← Text.scripts.find? fun (names, _) => (namesOf names).contains loose
  let short ← (Text.split ' ' names).head?
  let shared := CharSet.unionAll (Text.scriptExtensions.map fun (_, text) => .ofText text)
  let used := Text.scriptExtensions.filter fun (names, _) => (Text.split ' ' names).contains short
  return ((CharSet.ofText text).diff shared).union
    (CharSet.unionAll (used.map fun (_, text) => .ofText text))

/-- The characters that were there in a version, which is written `15.1` or `V15_1`. -/
def age? (loose : String) : Option CharSet :=
  let isVersion (version : String) : Bool :=
    version == loose || 'v' :: version.toList.filter (· ≠ '.') == loose.toList
  let later := Text.ages.dropWhile fun (version, _) => !isVersion version
  if later.isEmpty then none
  else some (.unionAll ((Text.ages.take (Text.ages.length - later.length + 1)).map fun (_, text) =>
    .ofText text))

def script? (loose : String) : Option CharSet := (find? Text.scripts loose).map CharSet.ofText

def value? (name value : String) : Option CharSet :=
  if ["gc", "generalcategory"].contains name then (find? categoryNames value).map toSet
  else if ["sc", "script"].contains name then script? value
  else if ["scx", "scriptextensions"].contains name then extendedScript? value
  else if name = "age" then age? value
  else if ["gcb", "graphemeclusterbreak"].contains name then
    (find? graphemeBreaks value).map toSet
  else if ["wb", "wordbreak"].contains name then (find? wordBreaks value).map toSet
  else if ["sb", "sentencebreak"].contains name then (find? sentenceBreaks value).map toSet
  else none

/-- A trait, a category or a script. Three abbreviations stand for categories first. -/
def named? (name : String) : Option CharSet :=
  if ["cf", "sc", "lc"].contains name then (find? categoryNames name).map toSet
  else
    ((find? Text.traits name).map CharSet.ofText)
      <|> ((find? composites name).map toSet)
      <|> ((find? categoryNames name).map toSet)
      <|> script? name

def cut? (mark : List Char) : List Char → Option (List Char × List Char)
  | [] => none
  | c :: rest =>
    if mark.isPrefixOf (c :: rest) then some ([], (c :: rest).drop mark.length)
    else (cut? mark rest).map fun (before, after) => (c :: before, after)

def ofChars? (cs : List Char) : Option CharSet :=
  match cut? ['!', '='] cs <|> cut? [':'] cs <|> cut? ['='] cs with
  | some (name, value) => value? (looseName name) (looseName value)
  | none => named? (looseName cs)

def newLetters : Property :=
  .codes "88F C5C CDC A7CE-A7CF A7D2 A7D4 A7F1 10940-10959 10EC5-10EC7 10EFA-10EFB 11B60-11B67
    11DB0-11DDB 16EA0-16EB8 16EBB-16ED3 16FF2-16FF6 187F8-187FF 18D09-18D1E 18D80-18DF2
    1E6C0-1E6DE 1E6E0-1E6F5 1E6FE-1E6FF 2B73A-2B73F 2CEA2-2CEAD 323B0-33479"

def newNumbers : Property := .codes "11DE0-11DE9 16FF4-16FF6"

end Property

namespace Text

def letters : CharSet := (Property.alphabetic ∪ Property.newLetters).toSet

def lettersAndNumbers : CharSet :=
  (Property.alphabetic ∪ .category "N" ∪ Property.newLetters ∪ Property.newNumbers).toSet

def isLetter (c : Char) : Bool := c.isAlpha || (0x80 ≤ c.toNat && letters.contains c)

def isLetterOrNumber (c : Char) : Bool :=
  c.isAlphanum || (0x80 ≤ c.toNat && lettersAndNumbers.contains c)

end Text

end StoreQuery
