/-!
# Displayed values

How a value is displayed for a reader who inspects it: a `Layout` is a tree of named records,
applications and lists over atoms, and it has two forms.  `Layout.flat` writes it on one line.
`Layout.indented` gives every component a line of its own, four spaces further in than the line
that opens it and closed by a comma; nothing is broken over lines that has no components.

A record that shows only some of its components ends in `..`.
-/

namespace Raster

/-- The structure of a displayed value. -/
inductive Layout where
  /-- A value without components. -/
  | atom (text : String)
  /-- A record with named components; `isOpen` says that there are others that are not shown. -/
  | record (name : String) (fields : List (String × Layout)) (isOpen : Bool)
  /-- A name applied to components. -/
  | application (name : String) (items : List Layout)
  /-- A list of components. -/
  | list (items : List Layout)

namespace Layout

/-- The display of a number. -/
def nat (n : Nat) : Layout := .atom (toString n)

/-- The display of a truth value. -/
def bool (b : Bool) : Layout := .atom (if b then "true" else "false")

/-- The display of a value that may be absent. -/
def option {α : Type} (f : α → Layout) : Option α → Layout
  | none => .atom "None"
  | some a => .application "Some" [f a]

/-! ## On one line -/

mutual

/-- The display of a value on one line. -/
def flat : Layout → String
  | .atom text => text
  | .record name fields isOpen =>
    match flatFields fields ++ (if isOpen then [".."] else []) with
    | [] => name
    | parts => name ++ " \x7b " ++ ", ".intercalate parts ++ " \x7d"
  | .application name items => name ++ "(" ++ ", ".intercalate (flatItems items) ++ ")"
  | .list items => "[" ++ ", ".intercalate (flatItems items) ++ "]"

/-- The displays of named components, each with its name. -/
def flatFields : List (String × Layout) → List String
  | [] => []
  | (name, value) :: rest => (name ++ ": " ++ value.flat) :: flatFields rest

/-- The displays of unnamed components. -/
def flatItems : List Layout → List String
  | [] => []
  | item :: rest => item.flat :: flatItems rest

end

/-! ## One component a line -/

/-- Writes a text at the end of the last line. -/
def closeLine (text : String) : List String → List String
  | [] => []
  | [line] => [line ++ text]
  | line :: rest => line :: closeLine text rest

/-- The lines of one component: its name stands before the first, a comma after the last. -/
def component (name : String) : List String → List String
  | [] => []
  | line :: rest => closeLine "," ((name ++ line) :: rest)

/-- Lines that stand between an opening and a closing line. -/
def enclosed (opening closing : String) (inner : List String) : List String :=
  opening :: inner.map ("    " ++ ·) ++ [closing]

mutual

/-- The lines of a display with one component a line. -/
def lines : Layout → List String
  | .atom text => [text]
  | .record name fields isOpen =>
    match linesOfFields fields ++ (if isOpen then [".."] else []) with
    | [] => [name]
    | inner => enclosed (name ++ " \x7b") "\x7d" inner
  | .application name items => enclosed (name ++ "(") ")" (linesOfItems items)
  | .list [] => ["[]"]
  | .list (item :: rest) => enclosed "[" "]" (component "" item.lines ++ linesOfItems rest)

/-- The lines of named components. -/
def linesOfFields : List (String × Layout) → List String
  | [] => []
  | (name, value) :: rest => component (name ++ ": ") value.lines ++ linesOfFields rest

/-- The lines of unnamed components. -/
def linesOfItems : List Layout → List String
  | [] => []
  | item :: rest => component "" item.lines ++ linesOfItems rest

end

/-- The display of a value with one component a line. -/
def indented (l : Layout) : String := "\n".intercalate l.lines

/-- The display of a value, with one component a line if `pretty` is set. -/
def render (pretty : Bool) (l : Layout) : String := if pretty then l.indented else l.flat

end Layout

end Raster
