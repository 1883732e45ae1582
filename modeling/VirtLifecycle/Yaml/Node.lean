/-
Module: VirtLifecycle.Yaml.Node
Purpose: The values of YAML documents, and how they are read as typed data. Local tags are looked
  through, except in free-form data, where there must be none; there keys are texts, and numbers that
  JSON does not have become null.
Specification: [SPEC 10 Serialization]: the values that manifests are read from.
Main exports: Yaml.Node, Yaml.Node.same, Yaml.Node.find?, Yaml.Node.text?
-/
import VirtLifecycle.Document

namespace VirtLifecycle.Yaml

/-- A value of a document. -/
inductive Node where
  | null
  | bool (value : Bool)
  | number (value : Json.Number)
  | text (value : String)
  | list (items : List Node)
  | mapping (entries : List (Node × Node))
  | tagged (tag : String) (value : Node)
deriving Repr, Inhabited

namespace Node

/-- Whether two numbers are one key: integers are equal as such, doubles by value, and all that are no
number are one. -/
def sameNumber (a b : Json.Number) : Bool :=
  match a, b with
  | .int m, .int n => m == n
  | .double c, .double d =>
    let undefined (x : Double) : Bool := !x.isFinite && x.fractionField != 0
    let zero (x : Double) : Bool := x.isFinite && x.significand == 0
    (undefined c && undefined d) || (zero c && zero d) || (c == d && !undefined c)
  | _, _ => false

mutual

/-- Whether two values are one key. The order of the entries of a mapping does not matter. -/
def same : Node → Node → Bool
  | null, null => true
  | bool a, bool b => a == b
  | number a, number b => sameNumber a b
  | text a, text b => a == b
  | list as, list bs => sameItems as bs
  | mapping as, mapping bs => as.length == bs.length && allEntriesIn as bs
  | tagged t a, tagged u b => t == u && same a b
  | _, _ => false

def sameItems : List Node → List Node → Bool
  | [], [] => true
  | a :: as, b :: bs => same a b && sameItems as bs
  | _, _ => false

/-- Whether each entry of the first mapping is one of the second. -/
def allEntriesIn : List (Node × Node) → List (Node × Node) → Bool
  | [], _ => true
  | (k, v) :: rest, bs => bs.any (fun (l, w) => same k l && same v w) && allEntriesIn rest bs

end

/-- The value under its local tags. -/
def untagged : Node → Node
  | tagged _ value => untagged value
  | value => value

/-- The value under a text key of a mapping. -/
def find? (key : String) (value : Node) : Option Node :=
  match value.untagged with
  | mapping entries =>
    entries.findSome? fun (k, v) =>
      match k with
      | text s => if s = key then some v else none
      | _ => none
  | _ => none

def text? (value : Node) : Option String :=
  match value.untagged with
  | text s => some s
  | _ => none

mutual

/-- The value as one of JSON. Keys have to be texts, and no tags may stand. -/
def json? : Node → Option Json
  | null => some .null
  | bool b => some (.bool b)
  | number n => some (if n.isFinite then .number n else .null)
  | text s => some (.text s)
  | list items => (jsonItems? items).map .array
  | mapping entries => (jsonEntries? entries).map .object
  | tagged _ _ => none

def jsonItems? : List Node → Option (List Json)
  | [] => some []
  | item :: rest => do
    let item ← json? item
    let rest ← jsonItems? rest
    some (item :: rest)

def jsonEntries? : List (Node × Node) → Option (List (String × Json))
  | [] => some []
  | (key, value) :: rest => do
    let key ← key.text?
    let value ← json? value
    let rest ← jsonEntries? rest
    some ((key, value) :: rest)

end

/-- A value of a YAML document as a document. Null stands for an empty record, list or map. -/
instance : Document Node where
  layer value :=
    match value.untagged with
    | null => .null
    | bool b => .bool b
    | number n => .number n
    | text s => .text s
    | list items => .list items
    | mapping entries => .record (entries.map fun (key, value) => (key.text?, value))
    | tagged _ _ => .null
  isAbsent
    | null => true
    | _ => false
  freeform? value := value.json?.bind Freeform.ofJson?
  positional := false
  nullIsEmpty := true

end Node

end VirtLifecycle.Yaml
