/-
Module: VirtLifecycle.Command.Line
Purpose: The command line. After an optional switch comes the name of a command and then its own
  words and options; two dashes end the options. A word is checked when the next word or option
  comes, so of several faults the one that is met first is reported.
Specification: [SPEC 6 External interfaces], the binary: the commands `create`, `delete`, `read` and
  `wait-running` with the global `--no-wait`, and what is accepted as arguments for them (`Cli`,
  `Command`).
Main exports: Command, CommandLine, CommandLine.ofArguments, UsageFault, UsageFault.exitCode
-/
import VirtLifecycle.Decimal.Count
import VirtLifecycle.Error

namespace VirtLifecycle

/-- What to do. The path of a manifest is a text, as it stands among the arguments; a path that is no text
cannot be given. -/
inductive Command where
  /-- create the object that the file describes -/
  | create (path : String)
  | read (kind : Kind) (id : ResourceId)
  | delete (kind : Kind) (id : ResourceId)
  /-- wait for a machine that was just started to run -/
  | waitRunning (id : ResourceId) (seconds : Nat)
deriving DecidableEq, Repr, Inhabited

/-- A command, and whether not to wait for its effects. -/
structure CommandLine where
  noWait : Bool
  command : Command
deriving DecidableEq, Repr, Inhabited

/-- Why arguments are no command line, or ask for something else. -/
inductive UsageFault where
  | unknownArgument
  | unknownCommand
  | missingArgument
  | missingCommand
  /-- no arguments at all; what is possible is shown -/
  | nothingGiven
  | malformedValue
  | missingValue
  | repeatedOption
  /-- a value for an option that takes none -/
  | excessValue
  | helpAsked
  | versionAsked
deriving DecidableEq, Repr, Inhabited

/-- Asking for help or the version is a success. -/
def UsageFault.exitCode : UsageFault → Nat
  | helpAsked | versionAsked => 0
  | _ => 2

namespace CommandLine

/-- The names of the commands. -/
inductive Verb where
  | create
  | read
  | delete
  | waitRunning
deriving DecidableEq, Repr, Inhabited

namespace Verb

def all : List Verb := [create, read, delete, waitRunning]

def name : Verb → String
  | create => "create"
  | read => "read"
  | delete => "delete"
  | waitRunning => "wait-running"

def ofName? (s : String) : Option Verb := all.find? (·.name == s)

end Verb

def helpVerb : String := "help"

/-- What a word of a command stands for. -/
inductive Slot where
  | path
  | kind
  | id
deriving DecidableEq, Repr, Inhabited

/-- A word that has been checked. -/
inductive Word where
  | path (path : String)
  | kind (kind : Kind)
  | id (id : ResourceId)
deriving DecidableEq, Repr, Inhabited

/-- The words that a command takes, in order. -/
def Verb.slots : Verb → List Slot
  | create => [.path]
  | read => [.kind, .id]
  | delete => [.kind, .id]
  | waitRunning => [.id]

/-- Whether the command takes a time budget. -/
def Verb.takesBudget : Verb → Bool
  | waitRunning => true
  | _ => false

/-- The budget if none is given, in seconds. -/
def defaultSeconds : Nat := 300

def Slot.read (slot : Slot) (text : String) : Except UsageFault Word :=
  match slot with
  | .path => if text.isEmpty then .error .missingValue else .ok (.path text)
  | .kind =>
    match Kind.ofSpelling? text with
    | some found => .ok (.kind found)
    | none => .error .malformedValue
  | .id =>
    match ResourceId.ofText? text with
    | some found => .ok (.id found)
    | none => .error .malformedValue

/-- What has been taken in but not checked. -/
inductive Pending where
  | none
  | word (slot : Slot) (text : String)
  /-- the budget option, with its value once that has come -/
  | budget (value : Option String)
deriving DecidableEq, Repr, Inhabited

/-- A command that is being filled in. -/
structure Filling where
  /-- the words checked so far, in order -/
  words : List Word
  /-- the words still to come -/
  slots : List Slot
  pending : Pending
  seconds : Option Nat
  noWait : Bool
deriving DecidableEq, Repr, Inhabited

namespace Filling

/-- Takes the value of the budget option, which may be given once. -/
def setSeconds (f : Filling) (value : String) : Except UsageFault Filling :=
  if f.seconds.isSome then .error .repeatedOption
  else
    match Count.ofText value with
    | .ok seconds => .ok { f with seconds := some seconds }
    | .error _ => .error .malformedValue

/-- Checks what is pending. -/
def settle (f : Filling) : Except UsageFault Filling :=
  let settled := { f with pending := .none }
  match f.pending with
  | .none => .ok settled
  | .word slot text => (slot.read text).map fun word => { settled with words := f.words ++ [word] }
  | .budget none => .error .missingValue
  | .budget (some value) => settled.setSeconds value

/-- Takes a word in. -/
def addWord (f : Filling) (text : String) : Except UsageFault Filling :=
  match f.slots with
  | [] => .error .unknownArgument
  | slot :: slots => f.settle.map fun f => { f with pending := .word slot text, slots := slots }

/-- Takes an option in, which may have a value attached. -/
def addOption (verb : Verb) (f : Filling) (name : String) (value : Option String) :
    Except UsageFault Filling :=
  match name, value with
  | "no-wait", some _ | "help", some _ => .error .excessValue
  | "no-wait", none => do
    let f ← f.settle
    if f.noWait then .error .repeatedOption else .ok { f with noWait := true }
  | "help", none => do
    let _ ← f.settle
    .error .helpAsked
  | "timeout-secs", value =>
    if verb.takesBudget then do
      let f ← f.settle
      match value with
      | some value => f.setSeconds value
      | none => .ok { f with pending := .budget none }
    else .error .unknownArgument
  | _, _ => .error .unknownArgument

/-- Takes one-letter options in. -/
def addLetters (f : Filling) : List Char → Except UsageFault Filling
  | 'h' :: _ => do
    let _ ← f.settle
    .error .helpAsked
  | _ => .error .unknownArgument

end Filling

/-- How an argument looks. -/
inductive Argument where
  | word (text : String)
  | option (name : String) (value : Option String)
  | letters (letters : List Char)
  /-- two dashes, after which there are only words -/
  | endOfOptions
deriving DecidableEq, Repr, Inhabited

def Argument.ofText (text : String) : Argument :=
  match text.toList with
  | ['-', '-'] => endOfOptions
  | '-' :: '-' :: rest =>
    let name := String.ofList (rest.takeWhile (· != '='))
    match rest.dropWhile (· != '=') with
    | [] => option name none
    | _ :: value => option name (some (String.ofList value))
  | '-' :: c :: rest => letters (c :: rest)
  | _ => word text

/-- Fills a command in with its arguments. -/
def fill (verb : Verb) : (onlyWords : Bool) → Filling → List String → Except UsageFault Filling
  | _, f, [] => f.settle
  | true, f, text :: rest => do
    let f ← f.addWord text
    fill verb true f rest
  | false, f, text :: rest =>
    match Argument.ofText text with
    | .endOfOptions => fill verb true f rest
    | .option name value => do
      let f ← f.addOption verb name value
      fill verb false f rest
    | .letters letters => do
      let f ← f.addLetters letters
      fill verb false f rest
    | .word text =>
      if f.pending = .budget none then fill verb false { f with pending := .budget (some text) } rest
      else do
        let f ← f.addWord text
        fill verb false f rest

/-- The command that checked words make up. -/
def Verb.command? (verb : Verb) (words : List Word) (seconds : Option Nat) : Option Command :=
  match verb, words with
  | create, [.path path] => some (.create path)
  | read, [.kind kind, .id id] => some (.read kind id)
  | delete, [.kind kind, .id id] => some (.delete kind id)
  | waitRunning, [.id id] => some (.waitRunning id (seconds.getD defaultSeconds))
  | _, _ => none

/-- Reads the arguments of a command. -/
def ofVerb (verb : Verb) (noWait : Bool) (arguments : List String) :
    Except UsageFault CommandLine := do
  let f ← fill verb false ⟨[], verb.slots, .none, none, false⟩ arguments
  match verb.command? f.words f.seconds with
  | some command => .ok ⟨noWait || f.noWait, command⟩
  | none => .error .missingArgument

/-- Asks for help on a command, or on all. -/
def helpOn : List String → UsageFault
  | [] => .helpAsked
  | [name] => if name = helpVerb ∨ (Verb.ofName? name).isSome then .helpAsked else .unknownCommand
  | _ => .unknownCommand

/-- No command was given. -/
def withoutCommand (noWait : Bool) : UsageFault :=
  if noWait then .missingCommand else .nothingGiven

/-- Reads the arguments up to the name of the command, and then those of the command. -/
def read (noWait : Bool) : List String → Except UsageFault CommandLine
  | [] => .error (withoutCommand noWait)
  | text :: rest =>
    if text = helpVerb then .error (helpOn rest)
    else
      match Verb.ofName? text with
      | some verb => ofVerb verb noWait rest
      | none =>
        match Argument.ofText text, rest with
        | .endOfOptions, [] => .error (withoutCommand noWait)
        | .endOfOptions, next :: _ =>
          if next = helpVerb ∨ (Verb.ofName? next).isSome then .error .unknownArgument
          else .error .unknownCommand
        | .option "no-wait" none, rest =>
          if noWait then .error .repeatedOption else read true rest
        | .option "help" none, _ => .error .helpAsked
        | .option "version" none, _ => .error .versionAsked
        | .option "no-wait" (some _), _ | .option "help" (some _), _
        | .option "version" (some _), _ => .error .excessValue
        | .option _ _, _ => .error .unknownArgument
        | .letters ('h' :: _), _ => .error .helpAsked
        | .letters ('V' :: _), _ => .error .versionAsked
        | .letters _, _ => .error .unknownArgument
        | .word _, _ => .error .unknownCommand

/-- Reads a command line from its arguments. -/
def ofArguments (arguments : List String) : Except UsageFault CommandLine :=
  read false arguments

end CommandLine

end VirtLifecycle
