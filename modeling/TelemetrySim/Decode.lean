import TelemetrySim.Assoc
import TelemetrySim.Duration
import TelemetrySim.Number.Bounds
import TelemetrySim.Tree

/-!
Taking typed values from a document tree. A reader meets the tree in the order of the document and
reports the first thing that is wrong. Records are given by their fields; a field that is not
listed, or that is written twice, is an error of its own. In *strict* places a value has the type it
is written with, records may be written as lists, and every error is a plain mismatch.
-/

set_option autoImplicit false
set_option relaxedAutoImplicit false

namespace TelemetrySim.Decode

open TelemetrySim.Tree (Leaf Atom)

inductive ReadError where
  | unknownField (name : String)
  | missingField (name : String)
  | duplicateField (name : String)
  | invalid
deriving DecidableEq

def ReadError.message : ReadError → String
  | unknownField name => "unknown field `" ++ name ++ "`"
  | missingField name => "missing field `" ++ name ++ "`"
  | duplicateField name => "duplicate field `" ++ name ++ "`"
  | invalid => "invalid"

/-- Whether a record may be written as the list of its fields: not at all, with further items
ignored, or with exactly its fields. -/
inductive Listing where
  | never | lenient | exact
deriving DecidableEq

/-- What reading depends on besides the tree. -/
structure Setting where
  anchors : List (Nat × Tree) := []
  strict : Bool := false
  listing : Listing := .never

abbrev Decoder (α : Type) := Setting → Tree → Except ReadError α

namespace Setting

/-- The tree that a link stands for. -/
def follow (r : Setting) : Tree → Tree
  | .link n => (r.anchors.lookup n).getD .broken
  | t => t

/-- A list or table with a type of its own is a mismatch in a strict place. -/
def refuses (r : Setting) (marked : Bool) : Bool := r.strict && marked

end Setting

def invalid {α : Type} : Except ReadError α := .error .invalid

def orInvalid {α : Type} : Option α → Except ReadError α
  | some a => .ok a
  | none => invalid

/-- A decoder of scalars. -/
def scalar {α : Type} (f : Leaf → Bool → Option α) : Decoder α := fun r t ↦
  match r.follow t with
  | .leaf l => orInvalid (f l r.strict)
  | _ => invalid

def text : Decoder String := scalar Leaf.readText

def bool : Decoder Bool := scalar Leaf.readBool

/-- An integer of 64 bits with sign. -/
def int64 : Decoder Int64 := scalar fun l strict ↦ do
  let i ← l.readInt strict
  Number.int64? i

/-- An integer of 64 bits without sign. -/
def uint64 : Decoder UInt64 := scalar fun l strict ↦ do
  let n ← l.readNat strict
  Number.uint64? n

def duration : Decoder Duration := scalar fun l strict ↦ do
  let s ← l.readText strict
  Duration.read s

/-- A value that may be left out. -/
def optional {α : Type} (d : Decoder α) : Decoder (Option α) := fun r t ↦
  match r.follow t with
  | .leaf l =>
    match l.readAbsent r.strict with
    | none => invalid
    | some true => .ok none
    | some false => some <$> d r t
  | .broken => invalid
  | _ => some <$> d r t

def list {α : Type} (d : Decoder α) : Decoder (List α) := fun r t ↦
  match r.follow t with
  | .list marked items => if r.refuses marked then invalid else items.mapM (d r)
  | .leaf l => if l.blank && !r.strict then .ok [] else invalid
  | _ => invalid

/-- A table with keys of the writer's choice. A repeated key keeps its first place and takes its
last value. -/
def mapping {α : Type} (d : Decoder α) : Decoder (List (String × α)) := fun r t ↦
  match r.follow t with
  | .table marked fields =>
    if r.refuses marked then invalid
    else fields.foldlM (fun acc (k, v) ↦ do
      let key ← text r k
      let a ← d r v
      pure (Assoc.insert key a acc)) []
  | .leaf l => if l.blank && !r.strict then .ok [] else invalid
  | _ => invalid

/-- What a missing field means: an error; nothing, though its place in a list has to be filled; or
the value it has from the start. -/
inductive Need where
  | required | optional | defaulted
deriving DecidableEq

/-- A field of the records `σ`: its name and how its value is put into the record. -/
structure Field (σ : Type) where
  name : String
  need : Need
  store : Setting → Tree → σ → Except ReadError σ

/-- A field that is read by `d` and stored by `set`. -/
def Field.of {σ α : Type} (name : String) (need : Need) (d : Decoder α) (set : α → σ → σ) :
    Field σ :=
  ⟨name, need, fun r t s ↦ (d r t).map fun a ↦ set a s⟩

/-- A field that may be left out or written as nothing. -/
def Field.option {σ α : Type} (name : String) (d : Decoder α) (set : Option α → σ → σ) : Field σ :=
  .of name .optional (Decode.optional d) set

/-- The field that a key names. In strict places its position may stand for its name. -/
def fieldOf {σ : Type} (fields : List (Field σ)) (r : Setting) (key : Tree) :
    Except ReadError (Field σ) :=
  let byName (name : String) : Except ReadError (Field σ) :=
    match fields.find? fun f ↦ f.name == name with
    | some f => .ok f
    | none => .error (.unknownField name)
  match r.follow key with
  | .leaf l =>
    match l.readText r.strict with
    | some name => byName name
    | none =>
      match l.readNat r.strict with
      | some n => orInvalid fields[n]?
      | none => invalid
  | _ => invalid

/-- Stores the fields of a table in turn; `seen` holds the names that have been stored. -/
def storeTable {σ : Type} (fields : List (Field σ)) (r : Setting) :
    List (Tree × Tree) → List String → σ → Except ReadError (List String × σ)
  | [], seen, s => .ok (seen, s)
  | (k, v) :: rest, seen, s => do
    let f ← fieldOf fields r k
    if f.name ∈ seen then .error (.duplicateField f.name)
    else
      let s ← f.store r v s
      storeTable fields r rest (f.name :: seen) s

/-- Stores the items of a list as the fields in the order of their declaration. -/
def storeList {σ : Type} (r : Setting) :
    List (Field σ) → List Tree → σ → Except ReadError σ
  | [], [], s => .ok s
  | [], _ :: _, s => if r.listing = .exact then invalid else .ok s
  | f :: fields, [], s => if f.need = .defaulted then storeList r fields [] s else invalid
  | f :: fields, t :: rest, s => do
    let s ← f.store r t s
    storeList r fields rest s

/-- Fills in a table of which `seen` holds the names of the written fields. -/
def checkMissing {σ : Type} (fields : List (Field σ)) (seen : List String) :
    Except ReadError Unit :=
  match fields.find? fun f ↦ f.need == .required && !seen.contains f.name with
  | some f => .error (.missingField f.name)
  | none => .ok ()

/-- A record with the given fields, starting from `s`. -/
def record {σ : Type} (fields : List (Field σ)) (s : σ) : Decoder σ := fun r t ↦
  let fromTable (entries : List (Tree × Tree)) : Except ReadError σ := do
    let (seen, s) ← storeTable fields r entries [] s
    checkMissing fields seen
    pure s
  match r.follow t with
  | .table marked entries => if r.refuses marked then invalid else fromTable entries
  | .list marked items =>
    if r.listing = .never ∨ r.refuses marked then invalid else storeList r fields items s
  | .leaf l => if l.blank && !r.strict then fromTable [] else invalid
  | _ => invalid

/-- A strict place. -/
def strictly {α : Type} (d : Decoder α) : Decoder α := fun r t ↦
  match d { r with strict := true, listing := .exact } t with
  | .ok a => .ok a
  | .error _ => invalid

/-- The first of two decoders that succeeds. -/
def either {α : Type} (d e : Decoder α) : Decoder α := fun r t ↦
  match d r t with
  | .ok a => .ok a
  | .error _ => e r t

end TelemetrySim.Decode
