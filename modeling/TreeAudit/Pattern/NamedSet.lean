import TreeAudit.Pattern.CharSet
import TreeAudit.Unicode.Alphabet
import TreeAudit.Unicode.Category
import TreeAudit.Unicode.Script
import TreeAudit.Unicode.Property

-- Sets of characters that have a name: digits, blanks and word characters, the bracketed ASCII
-- classes, and general categories, scripts and properties of characters.
namespace TreeAudit.Pattern.CharSet

open Unicode Unicode.Category

def digits : CharSet := ofRanges ndRanges
def blanks : CharSet := ofRanges blankRanges

def wordParts : CharSet :=
  ofRanges (alphabeticRanges ++ mnRanges ++ mcRanges ++ meRanges ++ ndRanges ++ pcRanges ++
    [(0x200C, 0x200D)])

def asciiDigits : CharSet := [(0x30, 0x39)]
def asciiBlanks : CharSet := [(0x09, 0x0D), (0x20, 0x20)]
def asciiWordParts : CharSet := [(0x30, 0x39), (0x41, 0x5A), (0x5F, 0x5F), (0x61, 0x7A)]

def asciiClass? : String → Option CharSet
  | "alnum" => some [(0x30, 0x39), (0x41, 0x5A), (0x61, 0x7A)]
  | "alpha" => some [(0x41, 0x5A), (0x61, 0x7A)]
  | "ascii" => some [(0x00, 0x7F)]
  | "blank" => some [(0x09, 0x09), (0x20, 0x20)]
  | "cntrl" => some [(0x00, 0x1F), (0x7F, 0x7F)]
  | "digit" => some asciiDigits
  | "graph" => some [(0x21, 0x7E)]
  | "lower" => some [(0x61, 0x7A)]
  | "print" => some [(0x20, 0x7E)]
  | "punct" => some [(0x21, 0x2F), (0x3A, 0x40), (0x5B, 0x60), (0x7B, 0x7E)]
  | "space" => some asciiBlanks
  | "upper" => some [(0x41, 0x5A)]
  | "word" => some asciiWordParts
  | "xdigit" => some [(0x30, 0x39), (0x41, 0x46), (0x61, 0x66)]
  | _ => none

def letters : List (Nat × Nat) := luRanges ++ llRanges ++ ltRanges ++ lmRanges ++ loRanges
def marks : List (Nat × Nat) := mnRanges ++ mcRanges ++ meRanges
def numbers : List (Nat × Nat) := ndRanges ++ nlRanges ++ noRanges
def punctuation : List (Nat × Nat) :=
  pcRanges ++ pdRanges ++ psRanges ++ peRanges ++ piRanges ++ pfRanges ++ poRanges
def signs : List (Nat × Nat) := smRanges ++ scRanges ++ skRanges ++ soRanges
def separators : List (Nat × Nat) := zsRanges ++ zlRanges ++ zpRanges

def assigned : CharSet :=
  ofRanges (letters ++ marks ++ numbers ++ punctuation ++ signs ++ separators ++ ccRanges ++
    cfRanges ++ coRanges ++ [(0xD800, 0xDFFF)])

def category? : String → Option CharSet
  | "any" => some every
  | "ascii" => some [(0x00, 0x7F)]
  | "assigned" => some assigned
  | "l" | "letter" => some (ofRanges letters)
  | "lc" | "casedletter" => some (ofRanges (luRanges ++ llRanges ++ ltRanges))
  | "lu" | "uppercaseletter" => some (ofRanges luRanges)
  | "ll" | "lowercaseletter" => some (ofRanges llRanges)
  | "lt" | "titlecaseletter" => some (ofRanges ltRanges)
  | "lm" | "modifierletter" => some (ofRanges lmRanges)
  | "lo" | "otherletter" => some (ofRanges loRanges)
  | "m" | "mark" | "combiningmark" => some (ofRanges marks)
  | "mn" | "nonspacingmark" => some (ofRanges mnRanges)
  | "mc" | "spacingmark" => some (ofRanges mcRanges)
  | "me" | "enclosingmark" => some (ofRanges meRanges)
  | "n" | "number" => some (ofRanges numbers)
  | "nd" | "decimalnumber" | "digit" => some digits
  | "nl" | "letternumber" => some (ofRanges nlRanges)
  | "no" | "othernumber" => some (ofRanges noRanges)
  | "p" | "punctuation" | "punct" => some (ofRanges punctuation)
  | "pc" | "connectorpunctuation" => some (ofRanges pcRanges)
  | "pd" | "dashpunctuation" => some (ofRanges pdRanges)
  | "ps" | "openpunctuation" => some (ofRanges psRanges)
  | "pe" | "closepunctuation" => some (ofRanges peRanges)
  | "pi" | "initialpunctuation" => some (ofRanges piRanges)
  | "pf" | "finalpunctuation" => some (ofRanges pfRanges)
  | "po" | "otherpunctuation" => some (ofRanges poRanges)
  | "s" | "symbol" => some (ofRanges signs)
  | "sm" | "mathsymbol" => some (ofRanges smRanges)
  | "sc" | "currencysymbol" => some (ofRanges scRanges)
  | "sk" | "modifiersymbol" => some (ofRanges skRanges)
  | "so" | "othersymbol" => some (ofRanges soRanges)
  | "z" | "separator" => some (ofRanges separators)
  | "zs" | "spaceseparator" => some (ofRanges zsRanges)
  | "zl" | "lineseparator" => some (ofRanges zlRanges)
  | "zp" | "paragraphseparator" => some (ofRanges zpRanges)
  | "c" | "other" =>
    some (complement (diff assigned (ofRanges (ccRanges ++ cfRanges ++ coRanges ++ [(0xD800, 0xDFFF)]))))
  | "cc" | "control" | "cntrl" => some (ofRanges ccRanges)
  | "cf" | "format" => some (ofRanges cfRanges)
  | "co" | "privateuse" => some (ofRanges coRanges)
  | "cs" | "surrogate" => some [(0xD800, 0xDFFF)]
  | "cn" | "unassigned" => some (complement assigned)
  | _ => none

def table? (tables : List (List String × List (Nat × Nat))) (name : String) : Option CharSet :=
  (tables.find? fun (names, _) => names.contains name).map fun (_, ranges) => ofRanges ranges

def script? (name : String) : Option CharSet := table? Script.tables name

def nameStarts : CharSet :=
  diff (ofRanges (letters ++ nlRanges ++ Property.otherNameStartRanges))
    (ofRanges Property.notNameStartRanges)

def nameParts : CharSet :=
  ofRanges (nameStarts ++ mnRanges ++ mcRanges ++ ndRanges ++ pcRanges ++
    Property.otherNamePartRanges)

-- The set of a property that characters have or do not have.
def property? (name : String) : Option CharSet :=
  match name with
  | "alphabetic" | "alpha" => some (ofRanges alphabeticRanges)
  | "uppercase" | "upper" => some (ofRanges (luRanges ++ Property.otherUppercaseRanges))
  | "lowercase" | "lower" => some (ofRanges (llRanges ++ Property.otherLowercaseRanges))
  | "whitespace" | "wspace" | "space" => some blanks
  | "cased" => some (ofRanges casedRanges)
  | "caseignorable" | "ci" => some (ofRanges caseIgnorableRanges)
  | "idstart" | "ids" => some nameStarts
  | "idcontinue" | "idc" => some nameParts
  | "xidstart" | "xids" => some (diff nameStarts (ofRanges Property.unstableNameStartRanges))
  | "xidcontinue" | "xidc" => some (diff nameParts (ofRanges Property.unstableNamePartRanges))
  | _ => table? Property.tables name

-- A name as names are compared: without blanks, underscores and hyphens, in small letters, and
-- without a leading `is`.
def looseName (s : String) : String :=
  let cs := s.toList
  let startsWithIs := (cs.take 2).map Char.toLower = ['i', 's']
  let plain := ((if startsWithIs then cs.drop 2 else cs).filter fun c =>
    c ≠ ' ' ∧ c ≠ '_' ∧ c ≠ '-' ∧ c.toNat < 0x80).map Char.toLower
  String.ofList (if startsWithIs ∧ plain = ['c'] then ['i', 's', 'c'] else plain)

def named? (name : String) : Option CharSet :=
  let name := looseName name
  let byProperty :=
    if name = "cf" ∨ name = "sc" ∨ name = "lc" then none else property? name
  (byProperty.or (category? name)).or (script? name)

def valued? (name value : String) : Option CharSet :=
  let value := looseName value
  match looseName name with
  | "gc" | "generalcategory" => category? value
  | "sc" | "script" | "scx" | "scriptextensions" => script? value
  | _ => none

end TreeAudit.Pattern.CharSet
