import TelemetrySim.Assoc
import TelemetrySim.Decode
import TelemetrySim.Toml.Line

/-!
Document trees from TOML text. The lines are put together into tables. A table may be given by one
header or by the paths of assignments, but not by both, and nothing is given twice. A header for a
table that so far only held others moves it behind its neighbours.
-/

set_option autoImplicit false
set_option relaxedAutoImplicit false

namespace TelemetrySim.Toml

/-- How a table came about: by a path through it, by the path of an assignment, or in full. -/
inductive Origin where
  | passed | dotted | given
deriving DecidableEq

inductive Item where
  | scalar (s : Scalar)
  | text (s : String)
  | array (items : List Item)
  /-- A table in braces; nothing can be added once it is closed. -/
  | inline (o : Origin) (fields : List (String × Item))
  | table (o : Origin) (fields : List (String × Item))
  | tables (rows : List (List (String × Item)))

abbrev Fields := List (String × Item)

/-- Applies `f` to the last row. -/
def onLast (f : Fields → Option Fields) : List Fields → Option (List Fields)
  | [] => none
  | [row] => (f row).map fun row ↦ [row]
  | row :: rest => (onLast f rest).map (row :: ·)

/-- Applies `f` to the table at the end of a path of an assignment, telling it whether the path has
made that table. -/
def alongKey (isInline : Bool) (f : Bool → Fields → Option Fields) :
    List String → Bool → Fields → Option Fields
  | [], dotted, fields => f dotted fields
  | k :: path, _, fields =>
    let wrap (o : Origin) (child : Fields) : Fields :=
      Assoc.insert k (if isInline then .inline o child else .table o child) fields
    match fields.lookup k with
    | none => (alongKey isInline f path true []).map (wrap .dotted)
    | some (.table o child) =>
      if o = .given ∨ isInline then none
      else (alongKey isInline f path (o = .dotted) child).map (wrap o)
    | some (.inline o child) =>
      if o = .given ∨ !isInline then none
      else (alongKey isInline f path (o = .dotted) child).map (wrap o)
    | some (.tables rows) =>
      (onLast (alongKey isInline f path false) rows).map fun rows ↦
        Assoc.insert k (.tables rows) fields
    | some _ => none

/-- Assigns a value at a path. -/
def assign (isInline : Bool) (path : List String) (v : Item) (fields : Fields) : Option Fields :=
  match path.getLast? with
  | none => none
  | some k =>
    let parents := path.dropLast
    alongKey isInline (fun dotted fields ↦
      if dotted = parents.isEmpty ∨ (fields.lookup k).isSome then none
      else some (fields ++ [(k, v)])) parents false fields

mutual

def Value.toItem : Value → Option Item
  | .scalar s => some (.scalar s)
  | .text s => some (.text s)
  | .array items => (itemsOf items).map .array
  | .inline assignments => (fieldsOf assignments []).map (.inline .given)

def itemsOf : List Value → Option (List Item)
  | [] => some []
  | v :: rest => do
    let i ← v.toItem
    let is ← itemsOf rest
    some (i :: is)

def fieldsOf : List (List String × Value) → Fields → Option Fields
  | [], fields => some fields
  | (path, v) :: rest, fields => do
    let i ← v.toItem
    let fields ← assign true path i fields
    fieldsOf rest fields

end

/-- Applies `f` to the table at the end of a path of a header, or to its last row. -/
def alongHeader (f : Fields → Option Fields) : List String → Fields → Option Fields
  | [], fields => f fields
  | k :: path, fields =>
    match fields.lookup k with
    | none => (alongHeader f path []).map fun c ↦ fields ++ [(k, .table .passed c)]
    | some (.table o child) =>
      (alongHeader f path child).map fun c ↦ Assoc.insert k (.table o c) fields
    | some (.tables rows) =>
      (onLast (alongHeader f path) rows).map fun rows ↦ Assoc.insert k (.tables rows) fields
    | some _ => none

/-- The lines behind a header up to the next one. -/
structure Section where
  header : Option Line
  assignments : List (List String × Value)

def sections : List Line → List Section
  | [] => [⟨none, []⟩]
  | .assign p v :: rest =>
    match sections rest with
    | ⟨none, l⟩ :: more => ⟨none, (p, v) :: l⟩ :: more
    | more => ⟨none, [(p, v)]⟩ :: more
  | h :: rest =>
    match sections rest with
    | ⟨none, l⟩ :: more => ⟨none, []⟩ :: ⟨some h, l⟩ :: more
    | more => ⟨none, []⟩ :: ⟨some h, []⟩ :: more

/-- Adds the assignments of a section to the fields of its table. -/
def fill (assignments : List (List String × Value)) (fields : Fields) : Option Fields :=
  assignments.foldlM (fun fields (p, v) ↦ do
    let i ← v.toItem
    assign false p i fields) fields

/-- Adds a section to the tables that are there. -/
def addSection (root : Fields) (s : Section) : Option Fields :=
  match s.header with
  | some (.header path) => do
    let k ← path.getLast?
    alongHeader (fun fields ↦ do
      let start ← match fields.lookup k with
        | none => some []
        | some (.table .passed child) => some child
        | some _ => none
      let filled ← fill s.assignments start
      some (fields.filter (·.1 ≠ k) ++ [(k, .table .given filled)])) path.dropLast root
  | some (.arrayHeader path) => do
    let k ← path.getLast?
    alongHeader (fun fields ↦ do
      let rows ← match fields.lookup k with
        | none => some []
        | some (.tables rows) => some rows
        | some _ => none
      let filled ← fill s.assignments []
      some (Assoc.insert k (.tables (rows ++ [filled])) fields)) path.dropLast root
  | _ => fill s.assignments root

/-- A text as a scalar of a tree. -/
def textLeaf (s : String) : Tree :=
  .leaf ⟨some s, none, none, none, some false, false, some (.text s)⟩

def atomLeaf : Tree.Atom → Tree
  | .text s => textLeaf s
  | .int i =>
    .leaf ⟨none, some i, if 0 ≤ i then some i.toNat else none, none, some false, false,
      some (.int i)⟩
  | .bool b => .leaf ⟨none, none, none, some b, some false, false, some (.bool b)⟩
  | a => .leaf ⟨none, none, none, none, some false, false, some a⟩

/-- The one field of the table that a date-time reads as. -/
def dateTimeKey : String := "$__toml_private_datetime"

mutual

def Item.toTree : Item → Tree
  | .scalar (.atom a) => atomLeaf a
  | .scalar (.dateTime d) => .table false [(textLeaf dateTimeKey, textLeaf d)]
  | .text s => textLeaf s
  | .array items => .list false (treesOf items)
  | .inline _ fields => .table false (treeFieldsOf fields)
  | .table _ fields => .table false (treeFieldsOf fields)
  | .tables rows => .list false (treeRowsOf rows)

def treesOf : List Item → List Tree
  | [] => []
  | i :: rest => i.toTree :: treesOf rest

def treeFieldsOf : List (String × Item) → List (Tree × Tree)
  | [] => []
  | (k, i) :: rest => (textLeaf k, i.toTree) :: treeFieldsOf rest

def treeRowsOf : List (List (String × Item)) → List Tree
  | [] => []
  | row :: rest => .table false (treeFieldsOf row) :: treeRowsOf rest

end

/-- The tree of a text that makes sense as a whole. -/
def tree? (text : String) : Option Tree := do
  let ls ← lines text
  let root ← (sections ls).foldlM addSection []
  some (.table false (treeFieldsOf root))

/-- Takes a value from a TOML text. -/
def read {α : Type} (d : Decode.Decoder α) (text : String) : Except Decode.ReadError α :=
  match tree? text with
  | none => Decode.invalid
  | some t => d { listing := .lenient } t

end TelemetrySim.Toml
