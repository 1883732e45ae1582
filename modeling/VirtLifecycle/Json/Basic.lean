/-
Module: VirtLifecycle.Json.Basic
Purpose: JSON values. A number is an integer or a double; the members of an object are a list, which
  keeps the order and the repetitions of a text. The canonical form of a value has every object's
  keys ascending, each once; two documents that mean the same have one canonical form.
Specification: [SPEC 10 Serialization]: the values that objects and patches are made of.
Main exports: Json, Json.Number, Json.find?, Json.canonical, Json.IsCanonical, Json.isUsable
-/
import VirtLifecycle.Decimal.Shortest
import VirtLifecycle.Keyed

namespace VirtLifecycle

/-- A number of a document. -/
inductive Json.Number where
  | int (value : Int)
  | double (value : Double)
deriving DecidableEq, Repr, Inhabited

/-- A value of a document. -/
inductive Json where
  | null
  | bool (value : Bool)
  | number (value : Json.Number)
  | text (value : String)
  | array (items : List Json)
  | object (members : List (String × Json))
deriving BEq, Repr, Inhabited

namespace Json

def int (value : Int) : Json := number (.int value)

/-- A value that is well formed in a text but stands for nothing: a number beyond the doubles, a text
with half a surrogate pair, a container nested too deeply. It can be skipped, not read. -/
def unusable : Json := number (.double (Double.infinity false))

/-- The member of an object under a key. -/
def find? (key : String) : Json → Option Json
  | object members => Keyed.find? key members
  | _ => none

def isNull : Json → Bool
  | null => true
  | _ => false

def text? : Json → Option String
  | text s => some s
  | _ => none

def object? : Json → Option (List (String × Json))
  | object members => some members
  | _ => none

mutual

/-- The same value with the keys of every object ascending, the last of several members under one
key alone kept. -/
def canonical : Json → Json
  | null => null
  | bool b => bool b
  | number n => number n
  | text s => text s
  | array items => array (canonicalItems items)
  | object members => object (Keyed.ofList (canonicalMembers members))

def canonicalItems : List Json → List Json
  | [] => []
  | item :: rest => canonical item :: canonicalItems rest

def canonicalMembers : List (String × Json) → List (String × Json)
  | [] => []
  | (key, value) :: rest => (key, canonical value) :: canonicalMembers rest

end

mutual

/-- The keys of every object in the value ascend. -/
def IsCanonical : Json → Prop
  | array items => AreCanonical items
  | object members => Keyed.Ascending members ∧ MembersCanonical members
  | _ => True

def AreCanonical : List Json → Prop
  | [] => True
  | item :: rest => IsCanonical item ∧ AreCanonical rest

def MembersCanonical : List (String × Json) → Prop
  | [] => True
  | (_, value) :: rest => IsCanonical value ∧ MembersCanonical rest

end

def Number.isFinite : Number → Bool
  | .int _ => true
  | .double d => d.isFinite

mutual

/-- Whether every number in the value is finite. -/
def isUsable : Json → Bool
  | number n => n.isFinite
  | array items => areUsable items
  | object members => membersUsable members
  | _ => true

def areUsable : List Json → Bool
  | [] => true
  | item :: rest => isUsable item && areUsable rest

def membersUsable : List (String × Json) → Bool
  | [] => true
  | (_, value) :: rest => isUsable value && membersUsable rest

end

end Json

end VirtLifecycle
