import LineEditor.Text.Basic

/-! File names are components with slashes between them. -/
namespace LineEditor.FileName

/-- The pieces between the slashes. A name that begins or ends in a slash has an empty piece there.
-/
def components : Text → List Text
  | [] => [[]]
  | c :: t =>
      if c = '/' then [] :: components t
      else match components t with
        | [] => [[c]]
        | first :: more => (c :: first) :: more

def isAbsolute (name : Text) : Bool := name.head? = some '/'

def isIdle (component : Text) : Bool := component.isEmpty || component = ['.']

def parentComponents (name : Text) : List Text :=
  ((components name).filter (!isIdle ·)).dropLast

def withoutFinalSlashes (name : Text) : List Text :=
  ((components name).reverse.dropWhile List.isEmpty).reverse

def endsInSlash (name : Text) : Bool := name.getLast? = some '/'

def isLongComponent (component : Text) : Bool := 255 < Text.byteLength component

/-- A name that cannot be handed to the system: a NUL would end it, and it has less than 4096 bytes.
-/
def isUnusable (name : Text) : Bool := name.contains '\x00' || 4096 ≤ Text.byteLength name

end LineEditor.FileName
