import TypedDocument.Regex.CharSet
import TypedDocument.Text.Age
import TypedDocument.Text.BinaryProperty
import TypedDocument.Text.Segmentation
import TypedDocument.Text.SharedCharacters

/-!
# Named character classes

Patterns may name classes by a property, a category or a script, or by the value of one of these and of the ages and
the classes for dividing texts. Names are compared without regard to case, blanks, underscores, hyphens and a leading
`is`.
-/

namespace TypedDocument.CharSet

/-- The characters of a name that count, in lower case. -/
def nameChars (name : List Char) : List Char :=
  (name.filter fun c => !(c = ' ' || c = '_' || c = '-') && c.toNat < 128).map Char.toLower

/-- The form in which class names are compared. The `is` of the name `isc` belongs to it. -/
def normalizeName (name : List Char) : String :=
  match name with
  | i :: s :: rest =>
    if i.toLower = 'i' && s.toLower = 's' then
      let kept := nameChars rest
      if kept = ['c'] then "isc" else String.ofList kept
    else String.ofList (nameChars name)
  | _ => String.ofList (nameChars name)

/-- Categories and groups of categories. -/
def category? (name : String) : Option CharSet :=
  let group? : Option (List Category) :=
    match name with
    | "l" | "letter" => some Category.letters
    | "lc" | "casedletter" => some [.uppercaseLetter, .lowercaseLetter, .titlecaseLetter]
    | "m" | "mark" | "combiningmark" => some Category.marks
    | "n" | "number" => some Category.numbers
    | "digit" => some [.decimalNumber]
    | "p" | "punctuation" | "punct" => some Category.punctuation
    | "s" | "symbol" => some Category.symbols
    | "z" | "separator" => some Category.separators
    | "cntrl" => some [.control]
    | "cs" | "surrogate" => some []
    | _ => none
  match group? with
  | some gs => some (ranges (Category.union gs))
  | none =>
    match name with
    | "any" => some all
    | "ascii" => some (ranges [.upTo 0 127])
    | "assigned" => some (ranges (Category.union Category.all))
    | "cn" | "unassigned" => some (compl (ranges (Category.union Category.all)))
    | "c" | "other" =>
      some (compl (ranges (Category.union (Category.letters ++ Category.marks ++ Category.numbers ++
        Category.punctuation ++ Category.symbols ++ Category.separators))))
    | _ =>
      (Category.all.find? fun g => normalizeName g.code.toList == name || g.longName == name).map fun g =>
        ranges g.ranges

/-- The characters an identifier may start with: letters, letter numbers and a few more. -/
def identifierStart : CharSet :=
  .diff (ranges (Category.union (.letterNumber :: Category.letters) ++ .ofTable "1885-1886 2118 212E 309B-309C"))
    (ranges (.ofTable "2E2F"))

/-- The characters an identifier may hold: also marks, decimal digits, connectors and a few more. -/
def identifierContinue : CharSet :=
  .union identifierStart (ranges (Category.union (.decimalNumber :: .connectorPunctuation ::
    [.nonspacingMark, .spacingMark]) ++ .ofTable "B7 387 1369-1371 19DA"))

/-- The characters that may start an identifier in all normal forms. -/
def stableIdentifierStart : CharSet :=
  .diff identifierStart (ranges (.ofTable "37A E33 EB3 309B-309C FC5E-FC63 FDFA-FDFB FE70:FE7E FF9E-FF9F"))

def stableIdentifierContinue : CharSet :=
  .diff identifierContinue (ranges (.ofTable "37A 309B-309C FC5E-FC63 FDFA-FDFB FE70:FE7E"))

/-- The characters that start a grapheme: the assigned ones that are visible or blank and do not extend another. -/
def graphemeBase : CharSet :=
  .diff (ranges (Category.union (Category.letters ++ Category.marks ++ Category.numbers ++ Category.punctuation ++
    Category.symbols ++ [.spaceSeparator]))) (ranges CharProperty.graphemeExtend)

/-- Properties that hold or do not hold of a character. -/
def property? (name : String) : Option CharSet :=
  match name with
  | "alphabetic" | "alpha" => some (ranges CharProperty.alphabetic)
  | "lowercase" | "lower" => some (ranges CharProperty.lowercase)
  | "uppercase" | "upper" => some (ranges CharProperty.uppercase)
  | "whitespace" | "wspace" | "space" => some (ranges CharProperty.whiteSpace)
  | "joincontrol" | "joinc" => some (ranges CharProperty.joinControl)
  | "graphemeextend" | "grext" => some (ranges CharProperty.graphemeExtend)
  | "asciihexdigit" | "ahex" => some (ranges (.ofTable "30-39 41-46 61-66"))
  | "hexdigit" | "hex" => some (ranges (.ofTable "30-39 41-46 61-66 FF10-FF19 FF21-FF26 FF41-FF46"))
  | "cased" => some (ranges CharProperty.cased)
  | "caseignorable" | "ci" => some (ranges CharProperty.caseIgnorable)
  | "math" => some (ranges CharProperty.math)
  | "graphemebase" | "grbase" => some graphemeBase
  | "idstart" | "ids" => some identifierStart
  | "idcontinue" | "idc" => some identifierContinue
  | "xidstart" | "xids" => some stableIdentifierStart
  | "xidcontinue" | "xidc" => some stableIdentifierContinue
  | _ => (BinaryProperty.all.find? fun p => p.code == name || p.longName == name).map fun p => ranges p.ranges

/-- The script with a name. Two scripts have a second code. -/
def findScript? (name : String) : Option Script :=
  let name := match name with
    | "qaac" => Script.coptic.code
    | "qaai" => Script.inherited.code
    | _ => name
  Script.all.find? fun s => s.code == name || s.longName == name

def script? (name : String) : Option CharSet := (findScript? name).map fun s => ranges s.ranges

/-- The characters that are used in a script, whether or not they belong to it. -/
def scriptUse? (name : String) : Option CharSet :=
  (findScript? name).map fun s =>
    .union (.diff (ranges s.ranges) (ranges SharedCharacters.points)) (ranges (SharedCharacters.usedIn s.code))

/-- A class named alone. -/
def named? (name : List Char) : Option CharSet :=
  let name := normalizeName name
  property? name <|> category? name <|> script? name

/-- A class named by the property it fixes and the value it fixes it to. -/
def namedValue? (property value : List Char) : Option CharSet :=
  let value := normalizeName value
  match normalizeName property with
  | "generalcategory" | "gc" => category? value
  | "script" | "sc" => script? value
  | "scriptextensions" | "scx" => scriptUse? value
  | "age" => (Age.upTo? value).map ranges
  | "graphemeclusterbreak" | "gcb" => (BreakClass.find? BreakClass.grapheme value).map ranges
  | "wordbreak" | "wb" => (BreakClass.find? BreakClass.word value).map ranges
  | "sentencebreak" | "sb" => (BreakClass.find? BreakClass.sentence value).map ranges
  | _ => none

/-- The ASCII classes with names of their own inside brackets. -/
def ascii? : String → Option CharSet
  | "alnum" => some (ranges [.chars '0' '9', .chars 'A' 'Z', .chars 'a' 'z'])
  | "alpha" => some (ranges [.chars 'A' 'Z', .chars 'a' 'z'])
  | "ascii" => some (ranges [.upTo 0 127])
  | "blank" => some (ranges [.chars '\t' '\t', .chars ' ' ' '])
  | "cntrl" => some (ranges [.upTo 0 31, .upTo 127 127])
  | "digit" => some asciiDigits
  | "graph" => some (interval '!' '~')
  | "lower" => some (interval 'a' 'z')
  | "print" => some (interval ' ' '~')
  | "punct" => some (ranges [.chars '!' '/', .chars ':' '@', .chars '[' '\x60', .chars '\x7b' '~'])
  | "space" => some asciiBlanks
  | "upper" => some (interval 'A' 'Z')
  | "word" => some asciiWord
  | "xdigit" => some (ranges [.chars '0' '9', .chars 'A' 'F', .chars 'a' 'f'])
  | _ => none

end TypedDocument.CharSet
