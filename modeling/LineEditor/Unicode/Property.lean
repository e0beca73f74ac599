import LineEditor.Unicode.Segmentation
import LineEditor.Unicode.Version

/-! Properties of characters by name. Names are compared loosely: case, spaces, hyphens, underscores
and a leading `is` do not count. A bare name is looked for among the properties a character has or
lacks, then among the general categories, then among the scripts. With a value, the name is one of a
property that sorts characters: by category, script, age or class for the division of text. -/
namespace LineEditor.Unicode

/-- What is left of a name when all is dropped that does not count in a comparison. The name `isc`
keeps its first letters, or it would read as the category `c`. -/
def looseName (name : Text) : Text :=
  let strip (t : Text) := (t.filter fun c => c.toNat < 0x80 && c ≠ ' ' && c ≠ '_' && c ≠ '-').map
    Char.toLower
  match name with
  | i :: s :: rest =>
      if (i = 'i' ∨ i = 'I') ∧ (s = 's' ∨ s = 'S') then
        if strip rest = ['c'] then ['i', 's', 'c'] else strip rest
      else strip name
  | _ => strip name

def lookup {α : Type} (entries : List (List String × α)) (name : Text) : Option α :=
  (entries.find? fun entry => entry.1.any fun s => looseName s.toList = name).map (·.2)

def script? (name : Text) : Option Script := lookup (Script.table.map fun s => (s.names, s)) name

/-- These short names belong to a property without members as well as to a category. -/
def categoryOnly : List Text := [['c', 'f'], ['s', 'c'], ['l', 'c']]

def named? (name : Text) : Option CharSet :=
  let name := looseName name
  (if categoryOnly.contains name then none else lookup Binary.named name) <|>
    lookup Category.named name <|> (script? name).map (·.members)

def valued? (property value : Text) : Option CharSet :=
  let value := looseName value
  match String.ofList (looseName property) with
  | "generalcategory" | "gc" => lookup Category.named value
  | "script" | "sc" => (script? value).map (·.members)
  | "scriptextensions" | "scx" => (script? value).map Script.extended
  | "age" => lookup Version.named value
  | "graphemeclusterbreak" | "gcb" => lookup GraphemeBreak.named value
  | "wordbreak" | "wb" => lookup WordBreak.named value
  | "sentencebreak" | "sb" => lookup SentenceBreak.named value
  | _ => none

def word : CharSet :=
  Category.unions [Binary.alphabetic, Category.mark, Category.decimalNumber,
    Category.connectorPunctuation, Binary.joinControl]

def digit : CharSet := Category.decimalNumber

def space : CharSet := Binary.whiteSpace

def alphabetic : CharSet := Binary.alphabetic

def alphanumeric : CharSet := Binary.alphabetic.union Category.number

end LineEditor.Unicode
