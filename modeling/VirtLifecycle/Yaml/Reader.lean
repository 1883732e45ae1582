/-
Module: VirtLifecycle.Yaml.Reader
Purpose: The value of a YAML text of one document. Anchors are numbered by the names known before, so
  a name that is used again shares its number with the next new one, and of the values under one
  number the last counts, wherever it stands. Aliases are replaced by what they stand for.
Specification: [SPEC 10 Serialization]: manifests are YAML documents.
Main exports: Yaml.read?, Yaml.Node.ofTree?
-/
import VirtLifecycle.Yaml.Node
import VirtLifecycle.Yaml.Scalar
import VirtLifecycle.Yaml.Token.Stream
import VirtLifecycle.Yaml.Tree

namespace VirtLifecycle.Yaml

/-- A value with its aliases told by the numbers of their anchors. -/
inductive Linked where
  | reference (number : Nat)
  | scalar (tag : Option String) (text : String) (isPlain : Bool)
  | list (tag : Option String) (items : List Linked)
  | mapping (tag : Option String) (entries : List (Linked × Linked))
deriving Repr, Inhabited

/-- The anchors met so far. -/
structure Anchors where
  /-- the number that each name stands for -/
  numbers : Keyed Nat
  /-- how many anchors there were -/
  count : Nat
  /-- which of the anchors each number stands for, the latest first -/
  bearers : List (Nat × Nat)
  /-- the values of the anchors -/
  values : List (Nat × Linked)
deriving Repr, Inhabited

namespace Anchors

def none : Anchors := ⟨[], 0, [], []⟩

/-- Enters an anchor; tells which one it is. -/
def enter (a : Anchors) (name : Option String) : Option Nat × Anchors :=
  match name with
  | .none => (.none, a)
  | some name =>
    let number := a.numbers.length
    (some a.count, { a with
      numbers := a.numbers.insert name number
      count := a.count + 1
      bearers := (number, a.count) :: a.bearers })

/-- Tells the value of an anchor. -/
def settle (a : Anchors) (which : Option Nat) (value : Linked) : Linked × Anchors :=
  match which with
  | .none => (value, a)
  | some n => (value, { a with values := (n, value) :: a.values })

/-- The value that a number stands for. -/
def find? (a : Anchors) (number : Nat) : Option Linked := do
  let (_, which) ← a.bearers.find? (·.1 == number)
  let (_, value) ← a.values.find? (·.1 == which)
  some value

end Anchors

mutual

/-- Replaces the names of aliases by numbers; a name has to be known. -/
def link? (a : Anchors) : Tree → Option (Linked × Anchors)
  | .reference name => (Keyed.find? name a.numbers).map fun number => (.reference number, a)
  | .scalar p text isPlain =>
    let (which, a) := a.enter p.anchor
    some (a.settle which (.scalar p.tag text isPlain))
  | .list p items => do
    let (which, a) := a.enter p.anchor
    let (items, a) ← linkItems? a items
    some (a.settle which (.list p.tag items))
  | .mapping p entries => do
    let (which, a) := a.enter p.anchor
    let (entries, a) ← linkEntries? a entries
    some (a.settle which (.mapping p.tag entries))

def linkItems? (a : Anchors) : List Tree → Option (List Linked × Anchors)
  | [] => some ([], a)
  | item :: rest => do
    let (item, a) ← link? a item
    let (rest, a) ← linkItems? a rest
    some (item :: rest, a)

def linkEntries? (a : Anchors) : List (Tree × Tree) → Option (List (Linked × Linked) × Anchors)
  | [] => some ([], a)
  | (key, value) :: rest => do
    let (key, a) ← link? a key
    let (value, a) ← link? a value
    let (rest, a) ← linkEntries? a rest
    some ((key, value) :: rest, a)

end

mutual

/-- How many pieces a document has: one for a scalar or an alias, two for a list or a mapping besides
what is in it. -/
def Linked.pieces : Linked → Nat
  | .reference _ => 1
  | .scalar _ _ _ => 1
  | .list _ items => 2 + itemPieces items
  | .mapping _ entries => 2 + entryPieces entries

def Linked.itemPieces : List Linked → Nat
  | [] => 0
  | item :: rest => item.pieces + itemPieces rest

def Linked.entryPieces : List (Linked × Linked) → Nat
  | [] => 0
  | (key, value) :: rest => key.pieces + value.pieces + entryPieces rest

end

/-- The name of a local tag. -/
def localTag? (tag : Option String) : Option String :=
  match tag.map String.toList with
  | some ('!' :: name) => some (String.ofList name)
  | _ => none

def standardTag (name : String) : String := "tag:yaml.org,2002:" ++ name

def ofScalar? : Scalar → Option Node
  | .null => some .null
  | .bool b => some (.bool b)
  | .int n => some (.number (.int n))
  | .double d => some (.number (.double d))
  | .text s => some (.text s)
  | .tooLong => none

/-- The value of a scalar with a tag that is not local. The standard tags ask for a value of their
type; with any other tag a scalar is a text. -/
def standardScalar? (tag : String) (text : String) : Option Node :=
  let s := text.toList
  if tag = standardTag "bool" then (bool? s).map .bool
  else if tag = standardTag "int" then ((integer? s).bind ofInteger).bind ofScalar?
  else if tag = standardTag "float" then (double? s).map fun d => .number (.double d)
  else if tag = standardTag "null" then if isNullWord s then some .null else none
  else some (.text text)

/-- The value of a scalar. -/
def scalar? (tag : Option String) (text : String) (isPlain : Bool) : Option Node :=
  let bare : Option Node := if isPlain then ofScalar? (Scalar.ofPlain text.toList) else some (.text text)
  match tag, localTag? tag with
  | none, _ => bare
  | some _, some name => if name.isEmpty then none else bare.map (.tagged name)
  | some tag, none => standardScalar? tag text

/-- A list or mapping with its tag, which counts only if it is local. -/
def withTag? (tag : Option String) (value : Node) : Option Node :=
  match localTag? tag with
  | none => some value
  | some name => if name.isEmpty then none else some (.tagged name value)

/-- Whether two entries of a mapping have one key. -/
def hasTwins : List (Node × Node) → Bool
  | [] => false
  | (key, _) :: rest => rest.any (fun (other, _) => key.same other) || hasTwins rest

/-- How many lists and mappings may enclose a value. -/
def depthLimit : Nat := 128

/-- How many aliases may be followed for each piece of a document. -/
def aliasesPerPiece : Nat := 100

/-- Follows one alias more, if there are not too many. -/
def follow (limit : Nat) : StateT Nat Option Unit := do
  let count ← get
  if limit ≤ count then failure
  set (count + 1)

/-- The value itself or, for an alias, the value that it stands for. -/
def resolve (anchors : Anchors) (limit : Nat) : Linked → StateT Nat Option Linked
  | .reference number => do
    follow limit
    match anchors.find? number with
    | some value => pure value
    | none => failure
  | value => pure value

/-- The value of a linked one, within at most `depth` further lists and mappings. The state counts the
aliases that were followed. -/
def expand (anchors : Anchors) (limit : Nat) : (depth : Nat) → Linked → StateT Nat Option Node
  | 0, value => do
    match ← resolve anchors limit value with
    | .scalar tag text isPlain => (scalar? tag text isPlain : Option Node)
    | _ => failure
  | depth + 1, value => do
    match ← resolve anchors limit value with
    | .scalar tag text isPlain => (scalar? tag text isPlain : Option Node)
    | .list tag items => do
      let items ← items.mapM (expand anchors limit depth)
      (withTag? tag (.list items) : Option Node)
    | .mapping tag entries => do
      let entries ← entries.mapM fun (key, value) => do
        let key ← expand anchors limit depth key
        let value ← expand anchors limit depth value
        pure (key, value)
      if hasTwins entries then failure
      (withTag? tag (.mapping entries) : Option Node)
    | .reference _ => failure

/-- The value of a document. -/
def Node.ofTree? (tree : Tree) : Option Node := do
  let (linked, anchors) ← link? Anchors.none tree
  let (node, _) ← (expand anchors (aliasesPerPiece * linked.pieces) depthLimit linked).run 0
  some node

/-- The value of a text. A text without a document stands for null. -/
def read? (text : String) : Option Node := do
  let tokens ← Token.stream? text
  match ← Tree.ofTokens? tokens with
  | some tree => Node.ofTree? tree
  | none => some .null

end VirtLifecycle.Yaml
