/-
Module: VirtLifecycle.Yaml.Tree
Purpose: The document that a sequence of tokens stands for, as it is written: scalars, lists and
  mappings with their anchors and tags, and aliases. What is left out is an empty scalar.
Specification: [SPEC 10 Serialization]: manifests are YAML documents.
Main exports: Yaml.Tree, Yaml.Properties, Yaml.Tree.node?, Yaml.Tree.ofTokens?
-/
import VirtLifecycle.Yaml.Token

namespace VirtLifecycle.Yaml

/-- What may stand before a value. -/
structure Properties where
  anchor : Option String
  tag : Option String
deriving DecidableEq, Repr, Inhabited

/-- A value as it is written. -/
inductive Tree where
  | reference (name : String)
  /-- a scalar, and whether it is written without quotes -/
  | scalar (properties : Properties) (text : String) (isPlain : Bool)
  | list (properties : Properties) (items : List Tree)
  | mapping (properties : Properties) (entries : List (Tree × Tree))
deriving Repr, Inhabited

namespace Tree

/-- The scalar that stands for what is left out. -/
def empty : Tree := scalar ⟨none, none⟩ "" true

/-- The expansions of the handles of tags. -/
abbrev Handles := List (String × String)

def standardHandles : Handles := [("!", "!"), ("!!", "tag:yaml.org,2002:")]

/-- The tag that a handle and a suffix make up. -/
def fullTag? (handles : Handles) (handle suffix : String) : Option String :=
  if handle.isEmpty then some suffix
  else (handles.find? (·.1 == handle)).map (·.2 ++ suffix)

/-- Reads anchor and tag, in either order. -/
def properties? (handles : Handles) : List Token → Option (Properties × List Token)
  | .anchor a :: .tag h s :: rest => (fullTag? handles h s).map (⟨⟨some a, some ·⟩, rest⟩)
  | .tag h s :: .anchor a :: rest => (fullTag? handles h s).map (⟨⟨some a, some ·⟩, rest⟩)
  | .anchor a :: rest => some (⟨some a, none⟩, rest)
  | .tag h s :: rest => (fullTag? handles h s).map (⟨⟨none, some ·⟩, rest⟩)
  | rest => some (⟨none, none⟩, rest)

/-- A scalar with its properties. The tag of one exclamation mark only says that it is a scalar. -/
def ofScalar (p : Properties) (text : String) (style : Style) : Tree :=
  scalar (if p.tag = some "!" then { p with tag := none } else p) text (style == .plain)

/-- Whether the next token is one of these. -/
def nextIn (tokens : List Token) (ends : List Token) : Bool :=
  match tokens with
  | t :: _ => t ∈ ends
  | [] => true

mutual

/-- Reads a value. Blocks are allowed in block context; where a key or value of a block mapping may
stand, the entries of a list need no indentation of their own. -/
def node? (handles : Handles) (fuel : Nat) (block indentless : Bool) (tokens : List Token) :
    Option (Tree × List Token) :=
  match fuel with
  | 0 => none
  | fuel + 1 =>
    match tokens with
    | .reference name :: rest => some (reference name, rest)
    | tokens => do
      let (p, tokens) ← properties? handles tokens
      match tokens with
      | .scalar text style :: rest => some (ofScalar p text style, rest)
      | .flowSequenceStart :: rest => do
        let (items, rest) ← flowItems? handles fuel true rest
        some (list p items, rest)
      | .flowMappingStart :: rest => do
        let (entries, rest) ← flowEntries? handles fuel true rest
        some (mapping p entries, rest)
      | t :: rest =>
        if indentless && t == .blockEntry then do
          let (items, rest) ← looseItems? handles fuel (t :: rest)
          some (list p items, rest)
        else if block && t == .blockSequenceStart then do
          let (items, rest) ← blockItems? handles fuel rest
          some (list p items, rest)
        else if block && t == .blockMappingStart then do
          let (entries, rest) ← blockEntries? handles fuel rest
          some (mapping p entries, rest)
        else if p.anchor.isSome || p.tag.isSome then some (scalar p "" true, t :: rest)
        else none
      | [] => none

/-- Reads a value, or an empty scalar if one of the given tokens is next. -/
def nodeOr? (handles : Handles) (fuel : Nat) (block indentless : Bool) (ends : List Token)
    (tokens : List Token) : Option (Tree × List Token) :=
  match fuel with
  | 0 => none
  | fuel + 1 =>
    if nextIn tokens ends then some (empty, tokens)
    else node? handles fuel block indentless tokens

/-- The items of a list that is a block. -/
def blockItems? (handles : Handles) (fuel : Nat) (tokens : List Token) :
    Option (List Tree × List Token) :=
  match fuel with
  | 0 => none
  | fuel + 1 =>
    match tokens with
    | .blockEntry :: rest => do
      let (item, rest) ← nodeOr? handles fuel true false [.blockEntry, .blockEnd] rest
      let (items, rest) ← blockItems? handles fuel rest
      some (item :: items, rest)
    | .blockEnd :: rest => some ([], rest)
    | _ => none

/-- The items of a list without indentation of its own. -/
def looseItems? (handles : Handles) (fuel : Nat) (tokens : List Token) :
    Option (List Tree × List Token) :=
  match fuel with
  | 0 => none
  | fuel + 1 =>
    match tokens with
    | .blockEntry :: rest => do
      let (item, rest) ← nodeOr? handles fuel true false [.blockEntry, .key, .value, .blockEnd] rest
      let (items, rest) ← looseItems? handles fuel rest
      some (item :: items, rest)
    | rest => some ([], rest)

/-- The entries of a mapping that is a block. -/
def blockEntries? (handles : Handles) (fuel : Nat) (tokens : List Token) :
    Option (List (Tree × Tree) × List Token) :=
  match fuel with
  | 0 => none
  | fuel + 1 =>
    let ends : List Token := [.key, .value, .blockEnd]
    match tokens with
    | .key :: rest => do
      let (key, rest) ← nodeOr? handles fuel true true ends rest
      let (value, rest) ← match rest with
        | .value :: rest => nodeOr? handles fuel true true ends rest
        | rest => some (empty, rest)
      let (entries, rest) ← blockEntries? handles fuel rest
      some ((key, value) :: entries, rest)
    | .blockEnd :: rest => some ([], rest)
    | _ => none

/-- The items of a list in flow style. A key among them begins a mapping of one entry. -/
def flowItems? (handles : Handles) (fuel : Nat) (first : Bool) (tokens : List Token) :
    Option (List Tree × List Token) :=
  match fuel with
  | 0 => none
  | fuel + 1 =>
    match tokens with
    | .flowSequenceEnd :: rest => some ([], rest)
    | tokens => do
      let tokens ← match first, tokens with
        | true, tokens => some tokens
        | false, .flowEntry :: rest => some rest
        | false, _ => none
      match tokens with
      | .key :: rest => do
        let (entry, rest) ← flowPair? handles fuel rest
        let (items, rest) ← flowItems? handles fuel false rest
        some (mapping ⟨none, none⟩ [entry] :: items, rest)
      | .flowSequenceEnd :: rest => some ([], rest)
      | tokens => do
        let (item, rest) ← node? handles fuel false false tokens
        let (items, rest) ← flowItems? handles fuel false rest
        some (item :: items, rest)

/-- The one entry of a mapping within a list. If its key is left out, the token in its place is passed
over. -/
def flowPair? (handles : Handles) (fuel : Nat) (tokens : List Token) :
    Option ((Tree × Tree) × List Token) :=
  match fuel with
  | 0 => none
  | fuel + 1 => do
    let (key, rest) ←
      if nextIn tokens [.value, .flowEntry, .flowSequenceEnd] then some (empty, tokens.drop 1)
      else node? handles fuel false false tokens
    let (value, rest) ← match rest with
      | .value :: rest => nodeOr? handles fuel false false [.flowEntry, .flowSequenceEnd] rest
      | rest => some (empty, rest)
    some ((key, value), rest)

/-- The entries of a mapping in flow style. -/
def flowEntries? (handles : Handles) (fuel : Nat) (first : Bool) (tokens : List Token) :
    Option (List (Tree × Tree) × List Token) :=
  match fuel with
  | 0 => none
  | fuel + 1 =>
    match tokens with
    | .flowMappingEnd :: rest => some ([], rest)
    | tokens => do
      let tokens ← match first, tokens with
        | true, tokens => some tokens
        | false, .flowEntry :: rest => some rest
        | false, _ => none
      match tokens with
      | .key :: rest => do
        let (key, rest) ←
          nodeOr? handles fuel false false [.value, .flowEntry, .flowMappingEnd] rest
        let (value, rest) ← match rest with
          | .value :: rest => nodeOr? handles fuel false false [.flowEntry, .flowMappingEnd] rest
          | rest => some (empty, rest)
        let (entries, rest) ← flowEntries? handles fuel false rest
        some ((key, value) :: entries, rest)
      | .flowMappingEnd :: rest => some ([], rest)
      | tokens => do
        let (key, rest) ← node? handles fuel false false tokens
        let (entries, rest) ← flowEntries? handles fuel false rest
        some ((key, empty) :: entries, rest)

end

/-- The directives before a document: at most one version, which is 1.1 or 1.2, and handles of tags,
each at most once. -/
def directives? : (version : Bool) → Handles → List Token → Option (Handles × List Token)
  | seen, handles, .version major minor :: rest =>
    if seen || major ≠ 1 || (minor ≠ 1 && minor ≠ 2) then none else directives? true handles rest
  | seen, handles, .tagShorthand handle expansion :: rest =>
    if handles.any (·.1 == handle) then none else directives? seen ((handle, expansion) :: handles) rest
  | _, handles, rest => some (handles, rest)

/-- Handles declared before a document hide the standard ones. -/
def withStandard (handles : Handles) : Handles := handles ++ standardHandles

/-- The tokens after which a document has no content. -/
def endsDocument (tokens : List Token) : Bool :=
  match tokens with
  | .version _ _ :: _ | .tagShorthand _ _ :: _ => true
  | tokens => nextIn tokens [.documentStart, .documentEnd, .streamEnd]

/-- Whether a text begins with something else than a document. -/
def beginsBare (tokens : List Token) : Bool :=
  match tokens with
  | .version _ _ :: _ | .tagShorthand _ _ :: _ => false
  | tokens => !nextIn tokens [.documentStart, .streamEnd]

/-- Whether nothing but marks of the document's end is left. -/
def atEnd : List Token → Bool
  | .documentEnd :: rest => atEnd rest
  | [.streamEnd] => true
  | _ => false

/-- The document that tokens make up; `none` within if there is none. There must not be another. -/
def ofTokens? (tokens : List Token) : Option (Option Tree) := do
  -- Each call of a reader is made for a token or by one that is, so this is enough.
  let fuel := 4 * tokens.length + 8
  if tokens = [.streamEnd] then some none
  else
    let (tree, rest) ←
      if beginsBare tokens then node? standardHandles fuel true false tokens
      else do
        let (handles, rest) ← directives? false [] tokens
        match rest with
        | .documentStart :: rest =>
          if endsDocument rest then some (empty, rest)
          else node? (withStandard handles) fuel true false rest
        | _ => none
    if atEnd rest then some (some tree) else none

end Tree

end VirtLifecycle.Yaml
