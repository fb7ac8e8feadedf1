/-
Classes of characters by name, as patterns write them: classes of ASCII
between brackets and colons, and properties of characters.

A property is named alone, or as a kind of property and a value of it.
Names are compared in a canonical form. A name that stands alone is the
first that fits of a property that a character has or has not, a general
category, and a script.
-/
import Coverage.Unicode.Age
import Coverage.Unicode.Property
import Coverage.Unicode.ScriptExtension
import Coverage.Unicode.Segmentation

namespace Coverage

namespace CharSet

-- ============================================================== ASCII

/-- The characters of ASCII. -/
def ascii : CharSet := range '\x00' '\x7f'

/-- ASCII decimal digits. -/
def asciiDigit : CharSet := range '0' '9'

/-- ASCII letters. -/
def asciiAlpha : CharSet := union (range 'a' 'z') (range 'A' 'Z')

/-- ASCII white space, the vertical tab included. -/
def asciiSpace : CharSet := union (range '\t' '\r') (single ' ')

/-- ASCII letters and digits, and the underscore. -/
def asciiWord : CharSet := unions [asciiAlpha, asciiDigit, single '_']

end CharSet

namespace Pattern

open Unicode (Category)

/-- The classes with a name of their own between brackets and colons, all
within ASCII. -/
def asciiClass? : String → Option CharSet
  | "alnum" => some (.union .asciiAlpha .asciiDigit)
  | "alpha" => some .asciiAlpha
  | "ascii" => some .ascii
  | "blank" => some (.ofChars "\t ")
  | "cntrl" => some (.union (.range '\x00' '\x1f') (.single '\x7f'))
  | "digit" => some .asciiDigit
  | "graph" => some (.range '!' '~')
  | "lower" => some (.range 'a' 'z')
  | "print" => some (.range ' ' '~')
  | "punct" =>
    some (.unions [.range '!' '/', .range ':' '@', .range '[' '\x60',
      .range '\x7b' '~'])
  | "space" => some .asciiSpace
  | "upper" => some (.range 'A' 'Z')
  | "word" => some .asciiWord
  | "xdigit" => some (.unions [.asciiDigit, .range 'A' 'F', .range 'a' 'f'])
  | _ => none

-- ======================================================== canonical form

/-- The form in which names of properties are compared: in lower case,
without blanks, hyphens, underscores and all that is not ASCII, and
without "is" in front. The abbreviation "isc" is kept from becoming the
name of a category; it belongs to a property that no class is made of. -/
def canonicalName (name : List Char) : String :=
  let (hasIs, name) :=
    match name with
    | i :: s :: rest =>
      if i.toLower = 'i' ∧ s.toLower = 's' then (true, rest) else (false, name)
    | _ => (false, name)
  let counts (c : Char) : Bool :=
    decide (c.toNat < 0x80) && c != ' ' && c != '_' && c != '-'
  let kept := String.ofList ((name.filter counts).map Char.toLower)
  if hasIs && kept == "c" then "isc" else kept

-- ========================================================== categories

/-- The groups of categories, by canonical name. -/
private def categoryGroup? : String → Option CharSet
  | "l" | "letter" => some Unicode.letters
  | "lc" | "casedletter" =>
    some (Category.sets [.uppercaseLetter, .lowercaseLetter,
      .titlecaseLetter])
  | "m" | "mark" | "combiningmark" => some Unicode.marks
  | "n" | "number" =>
    some (Category.sets [.decimalNumber, .letterNumber, .otherNumber])
  | "p" | "punctuation" | "punct" =>
    some (Category.sets [.connectorPunctuation, .dashPunctuation,
      .openPunctuation, .closePunctuation, .initialPunctuation,
      .finalPunctuation, .otherPunctuation])
  | "s" | "symbol" =>
    some (Category.sets [.mathSymbol, .currencySymbol, .modifierSymbol,
      .otherSymbol])
  | "z" | "separator" =>
    some (Category.sets [.spaceSeparator, .lineSeparator,
      .paragraphSeparator])
  | "c" | "other" =>
    some (.union (.complement Category.assigned)
      (Category.sets [.control, .format, .privateUse]))
  | "digit" => some Unicode.digits
  | "cntrl" => some Category.control.set
  | "cn" | "unassigned" => some (.complement Category.assigned)
  | "any" => some .all
  | "assigned" => some Category.assigned
  | "ascii" => some .ascii
  | _ => none

/-- The category or group of categories of that canonical name. -/
def category? (name : String) : Option CharSet :=
  let named := Category.all.find? fun category =>
    category.abbreviation == name || category.name == name
  (named.map Category.set).or (categoryGroup? name)

-- ========================================================== properties

/-- The class that a name alone stands for. -/
def property? (name : List Char) : Option CharSet :=
  let name := canonicalName name
  (Unicode.property? name).or
    ((category? name).or (Unicode.script? name))

/-- The class that a kind of property and a value of it stand for. -/
def propertyValue? (kind value : List Char) : Option CharSet :=
  let value := canonicalName value
  match canonicalName kind with
  | "generalcategory" | "gc" => category? value
  | "script" | "sc" => Unicode.script? value
  | "scriptextensions" | "scx" => Unicode.scriptExtension? value
  | "age" => Unicode.presentIn? value
  | "graphemeclusterbreak" | "gcb" => Unicode.graphemeClass? value
  | "wordbreak" | "wb" => Unicode.wordClass? value
  | "sentencebreak" | "sb" => Unicode.sentenceClass? value
  | _ => none

end Pattern

end Coverage
