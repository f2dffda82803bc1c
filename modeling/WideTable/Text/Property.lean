import WideTable.Text.Age
import WideTable.Text.Segmentation

namespace WideTable.Text.Property

def categories : List (List String × List Category) :=
  [(["lu", "uppercaseletter"], [.uppercaseLetter]), (["ll", "lowercaseletter"], [.lowercaseLetter]),
   (["lt", "titlecaseletter"], [.titlecaseLetter]),
   (["lc", "casedletter"], [.uppercaseLetter, .lowercaseLetter, .titlecaseLetter]),
   (["lm", "modifierletter"], [.modifierLetter]), (["lo", "otherletter"], [.otherLetter]),
   (["l", "letter"], Category.letters),
   (["mn", "nonspacingmark"], [.nonspacingMark]), (["mc", "spacingmark"], [.spacingMark]),
   (["me", "enclosingmark"], [.enclosingMark]), (["m", "mark", "combiningmark"], Category.marks),
   (["nd", "decimalnumber", "digit"], [.decimalNumber]), (["nl", "letternumber"], [.letterNumber]),
   (["no", "othernumber"], [.otherNumber]), (["n", "number"], Category.numbers),
   (["pc", "connectorpunctuation"], [.connectorPunctuation]),
   (["pd", "dashpunctuation"], [.dashPunctuation]), (["ps", "openpunctuation"], [.openPunctuation]),
   (["pe", "closepunctuation"], [.closePunctuation]),
   (["pi", "initialpunctuation"], [.initialPunctuation]),
   (["pf", "finalpunctuation"], [.finalPunctuation]),
   (["po", "otherpunctuation"], [.otherPunctuation]),
   (["p", "punctuation", "punct"], Category.punctuation),
   (["sm", "mathsymbol"], [.mathSymbol]), (["sc", "currencysymbol"], [.currencySymbol]),
   (["sk", "modifiersymbol"], [.modifierSymbol]), (["so", "othersymbol"], [.otherSymbol]),
   (["s", "symbol"], Category.symbols),
   (["zs", "spaceseparator"], [.spaceSeparator]), (["zl", "lineseparator"], [.lineSeparator]),
   (["zp", "paragraphseparator"], [.paragraphSeparator]), (["z", "separator"], Category.separators),
   (["cc", "control", "cntrl"], [.control]), (["cf", "format"], [.format]),
   (["co", "privateuse"], [.privateUse])]

def category? (name : String) : Option CodeSet :=
  match name with
  | "any" => some scalars
  | "ascii" => some (.range 0 0x7f)
  | "assigned" => some Category.assigned
  | "cn" | "unassigned" => some Category.unassigned
  | "c" | "other" => some (Category.unassigned ∪ Category.union Category.others)
  | _ => (categories.find? (·.1.contains name)).map fun (_, gs) => Category.union gs

-- A name is compared in small letters, without blanks, `_` and `-`, and without an `is` at its start.
-- Only `isc` keeps it, for `c` is another name.
def normalize (name : List Char) : String :=
  let (cut, rest) :=
    match name with
    | a :: b :: rest =>
      if (a == 'i' || a == 'I') && (b == 's' || b == 'S') then (true, rest) else (false, name)
    | _ => (false, name)
  let plain := (rest.filter fun c => c.toNat < 0x80 && !isLoose c).map Char.toLower
  if cut && plain == ['c'] then "isc" else .ofList plain
where
  isLoose (c : Char) : Bool :=
    c == ' ' || c == '_' || c == '-'

-- The short names `cf`, `lc` and `sc` are those of categories.
def named? (name : String) : Option CodeSet :=
  Trait.named? name <|> category? name <|> Script.codes? name

def valued? (name value : String) : Option CodeSet :=
  match name with
  | "gc" | "generalcategory" => category? value
  | "sc" | "script" => Script.codes? value
  | "scx" | "scriptextensions" => (Script.named? value).map Script.users
  | "age" => Edition.codes? value
  | "gcb" | "graphemeclusterbreak" => GraphemeBreak.named? value
  | "wb" | "wordbreak" => WordBreak.named? value
  | "sb" | "sentencebreak" => SentenceBreak.named? value
  | _ => none

structure Query where
  codes   : CodeSet
  negated : Bool := false

def ofLetter? (c : Char) : Option Query :=
  (named? (normalize [c])).map fun codes => { codes }

-- Reads `name`, `name=value`, `name:value` or `name!=value`.
def ofText? (query : List Char) : Option Query :=
  match (String.ofList query).splitOn "!=", query.span fun c => c != ':' && c != '=' with
  | name :: value :: rest, _ =>
    (read? name.toList ("!=".intercalate (value :: rest)).toList).map fun codes =>
      { codes, negated := true }
  | _, (name, _ :: value) => (read? name value).map fun codes => { codes }
  | _, (name, []) => (named? (normalize name)).map fun codes => { codes }
where
  read? (name value : List Char) : Option CodeSet :=
    valued? (normalize name) (normalize value)

end WideTable.Text.Property
