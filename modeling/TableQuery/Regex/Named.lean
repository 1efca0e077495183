import TableQuery.Regex.CharSet
import TableQuery.Unicode.Age
import TableQuery.Unicode.GraphemeClusterBreak
import TableQuery.Unicode.Script
import TableQuery.Unicode.ScriptExtension
import TableQuery.Unicode.SentenceBreak
import TableQuery.Unicode.WordBreak

set_option autoImplicit false

namespace TableQuery.Regex

open TableQuery.Unicode (namedSet? categories properties scripts scriptExtensions ages
  graphemeClusterBreaks wordBreaks sentenceBreaks)

def looseName (name : List Char) : String :=
  let plain (cs : List Char) : List Char :=
    (cs.filter fun c => c ≠ ' ' && c ≠ '_' && c ≠ '-' && c.toNat < 0x80).map Char.toLower
  match name with
  | i :: s :: rest =>
    if i.toLower = 'i' ∧ s.toLower = 's' then
      if plain rest = ['c'] then "isc" else String.ofList (plain rest)
    else String.ofList (plain name)
  | _ => String.ofList (plain name)

/-- Properties that are not binary: none of their names stands for a class. -/
def otherProperties : List String :=
  ["age", "bc", "bidiclass", "blk", "block", "bidimirroringglyph", "bmg", "bidipairedbracket", "bpb",
    "bidipairedbrackettype", "bpt", "canonicalcombiningclass", "ccc", "casefolding", "cf",
    "decompositionmapping", "dm", "decompositiontype", "dt", "eastasianwidth", "ea",
    "generalcategory", "gc", "graphemeclusterbreak", "gcb", "hangulsyllabletype", "hst",
    "indicpositionalcategory", "inpc", "indicsyllabiccategory", "insc", "isocomment", "isc",
    "jamoshortname", "jsn", "joininggroup", "jg", "joiningtype", "jt", "linebreak", "lb",
    "lowercasemapping", "lc", "name", "na", "unicode1name", "na1", "namealias", "nfcquickcheck",
    "nfcqc", "nfdquickcheck", "nfdqc", "nfkcquickcheck", "nfkcqc", "nfkdquickcheck", "nfkdqc",
    "numerictype", "nt", "numericvalue", "nv", "script", "sc", "scriptextensions", "scx",
    "sentencebreak", "sb", "simplecasefolding", "scf", "sfc", "simplelowercasemapping", "slc",
    "simpletitlecasemapping", "stc", "simpleuppercasemapping", "suc", "titlecasemapping", "tc",
    "uppercasemapping", "uc", "verticalorientation", "vo", "wordbreak", "wb",
    "nfkccasefold", "nfkccf", "bidimirrored", "bidim", "compositionexclusion", "ce",
    "fullcompositionexclusion", "compex", "expandsonnfc", "xonfc", "expandsonnfd", "xonfd",
    "expandsonnfkc", "xonfkc", "expandsonnfkd", "xonfkd", "indicconjunctbreak", "incb"]

def category? (name : String) : Option CharSet :=
  if name = "any" then some .any
  else if name = "ascii" then some (.range '\x00' '\x7f')
  else if name = "assigned" then (namedSet? categories "cn").map fun s => .compl (.table s)
  else (namedSet? categories name).map .table

def script? (name : String) : Option CharSet := (namedSet? scripts name).map .table

def scriptExtension? (name : String) : Option CharSet :=
  match namedSet? scriptExtensions name with
  | some s => some (.table s)
  | none => script? name

/-- The characters of a version of Unicode and the versions before it. -/
def age? (name : String) : Option CharSet :=
  let upTo := ages.takeWhile fun entry => !entry.1.contains name
  (namedSet? ages name).map fun s =>
    upTo.foldr (fun entry rest => .union (.table (.ofText entry.2)) rest) (.table s)

/-- The class of a single name: a binary property, a category or a script. -/
def namedClass? (name : List Char) : Option CharSet :=
  let loose := looseName name
  let reserved := loose = "cf" ∨ loose = "sc" ∨ loose = "lc"
  match if reserved then none else namedSet? properties loose with
  | some s => some (.table s)
  | none =>
    if !reserved && otherProperties.contains loose then none
    else
      match category? loose with
      | some s => some s
      | none => script? loose

def valuedClass? (property value : List Char) : Option CharSet :=
  let value := looseName value
  match looseName property with
  | "generalcategory" | "gc" => category? value
  | "script" | "sc" => script? value
  | "scriptextensions" | "scx" => scriptExtension? value
  | "age" => age? value
  | "graphemeclusterbreak" | "gcb" => (namedSet? graphemeClusterBreaks value).map .table
  | "wordbreak" | "wb" => (namedSet? wordBreaks value).map .table
  | "sentencebreak" | "sb" => (namedSet? sentenceBreaks value).map .table
  | _ => none

/-- Splits at the first place where a separator stands. -/
def splitAtFirst (separator : List Char) : List Char → Option (List Char × List Char)
  | [] => none
  | c :: rest =>
    if separator.isPrefixOf (c :: rest) then some ([], (c :: rest).drop separator.length)
    else (splitAtFirst separator rest).map fun (before, after) => (c :: before, after)

/-- The class that the text between the braces of `\p` names. -/
def bracedClass? (text : List Char) : Option CharSet :=
  match splitAtFirst ['!', '='] text with
  | some (property, value) => valuedClass? property value
  | none =>
    match splitAtFirst [':'] text with
    | some (property, value) => valuedClass? property value
    | none =>
      match splitAtFirst ['='] text with
      | some (property, value) => valuedClass? property value
      | none => namedClass? text

/-- The class of a shorthand letter in lower case, over Unicode or over ASCII. -/
def shorthand (unicode : Bool) : Char → CharSet
  | 'd' => if unicode then .table digitSet else .range '0' '9'
  | 's' => if unicode then .table blankSet else .ofRanges [('\t', '\r'), (' ', ' ')]
  | _ => if unicode then wordSet else .ofRanges [('0', '9'), ('A', 'Z'), ('_', '_'), ('a', 'z')]

def asciiClass? (name : String) : Option CharSet :=
  match name with
  | "alnum" => some (.ofRanges [('0', '9'), ('A', 'Z'), ('a', 'z')])
  | "alpha" => some (.ofRanges [('A', 'Z'), ('a', 'z')])
  | "ascii" => some (.range '\x00' '\x7f')
  | "blank" => some (.ofRanges [('\t', '\t'), (' ', ' ')])
  | "cntrl" => some (.ofRanges [('\x00', '\x1f'), ('\x7f', '\x7f')])
  | "digit" => some (.range '0' '9')
  | "graph" => some (.range '!' '~')
  | "lower" => some (.range 'a' 'z')
  | "print" => some (.range ' ' '~')
  | "punct" => some (.ofRanges [('!', '/'), (':', '@'), ('[', '\x60'), ('\x7b', '~')])
  | "space" => some (.ofRanges [('\t', '\r'), (' ', ' ')])
  | "upper" => some (.range 'A' 'Z')
  | "word" => some (.ofRanges [('0', '9'), ('A', 'Z'), ('_', '_'), ('a', 'z')])
  | "xdigit" => some (.ofRanges [('0', '9'), ('A', 'F'), ('a', 'f')])
  | _ => none

end TableQuery.Regex
