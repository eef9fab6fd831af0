import TelemetrySim.Yaml.Schema
import TelemetrySim.Yaml.Scan
import TelemetrySim.Decode

/-!
Document trees from YAML text. The tree is built from the tokens as far as they make sense; where
they stop, it has a broken place, so that a reader of the tree meets what comes before first. A text
holds one document, and has to make sense to its end.
-/

set_option autoImplicit false
set_option relaxedAutoImplicit false

namespace TelemetrySim.Yaml

/-- The state of building. Anchors are numbered; a number may be given again when a name is, and
then stands for the later node. -/
structure Builder where
  tokens : List Token
  ok : Bool := true
  /-- Tag handles and what they stand for. -/
  handles : List (String × String) := []
  /-- The number of each anchor name. -/
  names : List (String × Nat) := []
  /-- For each number the order in which its node began, the latest first. -/
  begun : List (Nat × Nat) := []
  /-- How many anchored nodes have begun. -/
  count : Nat := 0
  /-- The anchored nodes that have ended, by their order. -/
  nodes : List (Nat × Tree) := []

namespace Builder

def failed (b : Builder) : Builder := { b with ok := false }

def drop (b : Builder) : Builder := { b with tokens := b.tokens.tail }

/-- Whether the next token is one of `ts`. -/
def nextIn (b : Builder) (ts : List Token) : Bool := b.tokens.head?.any fun t ↦ ts.contains t

def blank : Tree := .leaf (leaf "" .plain none)

/-- Numbers the node that begins, if it has an anchor. -/
def begin (b : Builder) (anchor : Option String) : Builder × Option Nat :=
  match anchor with
  | none => (b, none)
  | some name =>
    let number := b.names.length
    ({ b with
       names := (name, number) :: b.names.filter (·.1 ≠ name)
       begun := (number, b.count) :: b.begun
       count := b.count + 1 }, some b.count)

/-- Records the node that has ended. -/
def finish (order : Option Nat) (t : Tree) (b : Builder) : Tree × Builder :=
  match order with
  | none => (t, b)
  | some n => (t, { b with nodes := (n, t) :: b.nodes })

/-- The nodes by the numbers that links use. -/
def anchors (b : Builder) : List (Nat × Tree) :=
  b.begun.filterMap fun (number, order) ↦ (b.nodes.lookup order).map fun t ↦ (number, t)

/-- An anchor and a tag in either order. -/
def properties (b : Builder) : Option String × Option (String × String) × Builder :=
  match b.tokens with
  | .anchor a :: .tag h s :: r => (some a, some (h, s), { b with tokens := r })
  | .tag h s :: .anchor a :: r => (some a, some (h, s), { b with tokens := r })
  | .anchor a :: r => (some a, none, { b with tokens := r })
  | .tag h s :: r => (none, some (h, s), { b with tokens := r })
  | _ => (none, none, b)

/-- The full tag of a node; a handle that is not known has none. -/
def fullTag (b : Builder) : Option (String × String) → Option (Option String)
  | none => some none
  | some (handle, suffix) =>
    if handle = "" then some (some suffix)
    else (b.handles.lookup handle).map fun start ↦ some (start ++ suffix)

def isMarked (tag : Option String) : Bool := tag.any isOwnTag

mutual

/-- One node. Blocks are allowed in `block` places, and a list without indentation of its own in
`flat` ones. -/
def node : Nat → Bool → Bool → Builder → Tree × Builder
  | 0, _, _, b => (.broken, b.failed)
  | fuel + 1, block, flat, b =>
    match b.tokens with
    | .alias name :: r =>
      match b.names.lookup name with
      | some n => (.link n, { b with tokens := r })
      | none => (.broken, b.failed)
    | _ =>
      let (anchor, tag, b) := b.properties
      match b.fullTag tag with
      | none => (.broken, b.failed)
      | some tag =>
        let (started, order) := b.begin anchor
        let asList (r : List Tree × Builder) : Tree × Builder :=
          finish order (.list (isMarked tag) r.1) r.2
        let asTable (r : List (Tree × Tree) × Builder) : Tree × Builder :=
          finish order (.table (isMarked tag) r.1) r.2
        match b.tokens with
        | [] => (.broken, b.failed)
        | .scalar s style :: _ => finish order (.leaf (leaf s style tag)) started.drop
        | .flowSequenceStart :: _ => asList (flowItems fuel true started.drop)
        | .flowMappingStart :: _ => asTable (flowFields fuel true started.drop)
        | t :: _ =>
          if flat && t == .blockEntry then asList (flatItems fuel started)
          else if block && t == .blockSequenceStart then asList (blockItems fuel started.drop)
          else if block && t == .blockMappingStart then asTable (blockFields fuel started.drop)
          else if anchor.isSome || tag.isSome then
            finish order (.leaf (leaf "" .plain tag)) started
          else (.broken, b.failed)

/-- The items of a block list. -/
def blockItems : Nat → Builder → List Tree × Builder
  | 0, b => ([.broken], b.failed)
  | fuel + 1, b =>
    match b.tokens with
    | .blockEntry :: _ =>
      let b := b.drop
      let (t, b) := if b.nextIn [.blockEntry, .blockEnd] then (blank, b) else node fuel true false b
      if b.ok then
        let (ts, b) := blockItems fuel b
        (t :: ts, b)
      else ([t], b)
    | .blockEnd :: _ => ([], b.drop)
    | _ => ([.broken], b.failed)

/-- The items of a list at the column of the mapping that holds it. -/
def flatItems : Nat → Builder → List Tree × Builder
  | 0, b => ([.broken], b.failed)
  | fuel + 1, b =>
    match b.tokens with
    | [] => ([.broken], b.failed)
    | .blockEntry :: _ =>
      let b := b.drop
      let (t, b) :=
        if b.nextIn [.blockEntry, .key, .value, .blockEnd] then (blank, b)
        else node fuel true false b
      if b.ok then
        let (ts, b) := flatItems fuel b
        (t :: ts, b)
      else ([t], b)
    | _ => ([], b)

def blockFields : Nat → Builder → List (Tree × Tree) × Builder
  | 0, b => ([(.broken, .broken)], b.failed)
  | fuel + 1, b =>
    match b.tokens with
    | .key :: _ =>
      let b := b.drop
      let (k, b) :=
        if b.nextIn [.key, .value, .blockEnd] then (blank, b) else node fuel true true b
      if b.ok then
        let (v, b) := blockValue fuel b
        if b.ok then
          let (rest, b) := blockFields fuel b
          ((k, v) :: rest, b)
        else ([(k, v)], b)
      else ([(k, .broken)], b)
    | .blockEnd :: _ => ([], b.drop)
    | _ => ([(.broken, .broken)], b.failed)

def blockValue : Nat → Builder → Tree × Builder
  | 0, b => (.broken, b.failed)
  | fuel + 1, b =>
    match b.tokens with
    | [] => (.broken, b.failed)
    | .value :: _ =>
      let b := b.drop
      if b.nextIn [.key, .value, .blockEnd] then (blank, b) else node fuel true true b
    | _ => (blank, b)

/-- The items of a list in brackets. A pair among them is a table of one field. -/
def flowItems : Nat → Bool → Builder → List Tree × Builder
  | 0, _, b => ([.broken], b.failed)
  | fuel + 1, first, b =>
    match b.tokens with
    | .flowSequenceEnd :: _ => ([], b.drop)
    | t :: _ =>
      if first || t == .flowEntry then
        let b := if first then b else b.drop
        match b.tokens with
        | .flowSequenceEnd :: _ => ([], b.drop)
        | .key :: _ =>
          let (k, v, b) := flowPair fuel b.drop
          if b.ok then
            let (ts, b) := flowItems fuel false b
            (.table false [(k, v)] :: ts, b)
          else ([.table false [(k, v)]], b)
        | _ =>
          let (t, b) := node fuel false false b
          if b.ok then
            let (ts, b) := flowItems fuel false b
            (t :: ts, b)
          else ([t], b)
      else ([.broken], b.failed)
    | [] => ([.broken], b.failed)

/-- A pair behind its key token, in a list in brackets. A missing key uses up the token in its
place. -/
def flowPair : Nat → Builder → Tree × Tree × Builder
  | 0, b => (.broken, .broken, b.failed)
  | fuel + 1, b =>
    let (k, b) :=
      if b.nextIn [.value, .flowEntry, .flowSequenceEnd] then (blank, b.drop)
      else node fuel false false b
    if b.ok then
      let (v, b) := flowValue fuel .flowSequenceEnd b
      (k, v, b)
    else (k, .broken, b)

/-- The value behind a key in brackets or braces, which `close` ends. -/
def flowValue : Nat → Token → Builder → Tree × Builder
  | 0, _, b => (.broken, b.failed)
  | fuel + 1, close, b =>
    match b.tokens with
    | [] => (.broken, b.failed)
    | .value :: _ =>
      let b := b.drop
      if b.nextIn [.flowEntry, close] then (blank, b) else node fuel false false b
    | _ => (blank, b)

/-- The fields of a table in braces. -/
def flowFields : Nat → Bool → Builder → List (Tree × Tree) × Builder
  | 0, _, b => ([(.broken, .broken)], b.failed)
  | fuel + 1, first, b =>
    match b.tokens with
    | .flowMappingEnd :: _ => ([], b.drop)
    | t :: _ =>
      if first || t == .flowEntry then
        let b := if first then b else b.drop
        match b.tokens with
        | .flowMappingEnd :: _ => ([], b.drop)
        | .key :: _ =>
          let b := b.drop
          let (k, b) :=
            if b.nextIn [.value, .flowEntry, .flowMappingEnd] then (blank, b)
            else node fuel false false b
          if b.ok then
            let (v, b) := flowValue fuel .flowMappingEnd b
            if b.ok then
              let (rest, b) := flowFields fuel false b
              ((k, v) :: rest, b)
            else ([(k, v)], b)
          else ([(k, .broken)], b)
        | _ =>
          let (k, b) := node fuel false false b
          if b.ok then
            match b.tokens with
            | [] => ([(k, .broken)], b.failed)
            | _ =>
              let (rest, b) := flowFields fuel false b
              ((k, blank) :: rest, b)
          else ([(k, .broken)], b)
      else ([(.broken, .broken)], b.failed)
    | [] => ([(.broken, .broken)], b.failed)

end

/-- The handles that need no directive. -/
def standardHandles : List (String × String) := [("!", "!"), ("!!", "tag:yaml.org,2002:")]

/-- Takes directives up to the start of the document: one version, which has to be 1.1 or 1.2, and
each tag handle once. -/
def directives : List Token → Bool → List (String × String) →
    Option (List Token × List (String × String))
  | .versionDirective major minor :: r, versioned, handles =>
    if versioned ∨ major ≠ 1 ∨ (minor ≠ 1 ∧ minor ≠ 2) then none else directives r true handles
  | .tagDirective h s :: r, versioned, handles =>
    if handles.any (·.1 = h) then none else directives r versioned ((h, s) :: handles)
  | .documentStart :: r, _, handles => some (r, handles ++ standardHandles)
  | _, _, _ => none

end Builder

/-- Whether a token belongs in front of a document. -/
def startsDocument : Token → Bool
  | .versionDirective _ _ => true
  | .tagDirective _ _ => true
  | .documentStart => true
  | _ => false

/-- Whether a token shows that a document is empty. -/
def endsDocument (t : Token) : Bool := startsDocument t || t == .documentEnd || t == .streamEnd

/-- Whether nothing but the end follows the document. -/
def endsCleanly : List Token → Bool
  | .documentEnd :: r => endsCleanly r
  | [.streamEnd] => true
  | _ => false

/-- A document, its anchored nodes, and whether the text makes sense to the end. -/
structure Document where
  root : Tree
  anchors : List (Nat × Tree)
  clean : Bool

def Document.ofTokens (ts : List Token) : Document :=
  let fuel := 2 * ts.length + 4
  let finish (r : Tree × Builder) : Document :=
    ⟨r.1, r.2.anchors, r.2.ok && endsCleanly r.2.tokens⟩
  let unreadable : Document := ⟨.broken, [], false⟩
  match ts with
  | [] => unreadable
  | [.streamEnd] => ⟨Builder.blank, [], true⟩
  | t :: _ =>
    if startsDocument t then
      match Builder.directives ts false [] with
      | none => unreadable
      | some (r, handles) =>
        let b : Builder := { tokens := r, handles := handles }
        if r.head?.any endsDocument then finish (Builder.blank, b)
        else finish (Builder.node fuel true false b)
    else
      finish (Builder.node fuel true false { tokens := ts, handles := Builder.standardHandles })

def Document.ofText (text : String) : Document := .ofTokens (tokens text)

/-- Takes a value from a YAML text. -/
def read {α : Type} (d : Decode.Decoder α) (text : String) : Except Decode.ReadError α := do
  let doc := Document.ofText text
  let a ← d { anchors := doc.anchors } doc.root
  if doc.clean then pure a else Decode.invalid

end TelemetrySim.Yaml
