/-
Module: VirtLifecycle.Command.Execute
Purpose: Carrying commands out. What a command tells of is written as soon as it is known: a line on what has
  been created or deleted, and the object that the command came to, as a document.
Specification: [SPEC 6 External interfaces], the binary: `Command.execute` with its helpers `create`,
  `print` and `line`.
Main exports: Command.execute, CommandLine.execute, Writing.print, Files, Output, Output.ofEnd
-/
import VirtLifecycle.Command.Line
import VirtLifecycle.Command.Writing
import VirtLifecycle.Lifecycle
import VirtLifecycle.Manifest
import VirtLifecycle.Yaml.Printer

namespace VirtLifecycle

/-- What the files of a system hold: the bytes, if there is a file under the path. Paths are texts here, as
they come in from a command line, and that there is no file is the only way in which reading can fail, apart
from bytes that are no text; other faults of a file system (rights, directories, media) are not told apart. -/
abbrev Files := String → Option ByteArray

/-- The text of a file. -/
def Files.text (files : Files) (path : String) : Except FileFault String :=
  match files path with
  | none => .error .notFound
  | some bytes =>
    match String.fromUTF8? bytes with
    | some text => .ok text
    | none => .error .invalidData

/-- Writes an object as a document. -/
def Writing.print {δ : Type} (device : Device δ) {kind : Kind} (object : Resource kind) : Writing δ Unit :=
  put device (Yaml.print object.encode)

namespace Command

section Writing

variable {δ : Type} (device : Device δ) (config : Config)

/-- Creates the object of a manifest and tells its id and its final state. The line comes first. -/
def createTelling (manifest : Manifest) : Writing δ Unit := do
  let (id, object) ← Lifecycle.create config manifest.object
  Writing.line device ("created " ++ manifest.kind.name ++ " " ++ id.text)
  Writing.print device object

/-- Carries a command out and writes what it tells of. -/
def execute (files : Files) : Command → Writing δ Unit
  | create path => do
    let text ← Operation.ofExcept ((files.text path).mapError .file)
    let manifest ← Operation.ofExcept (Manifest.ofText text)
    createTelling device config manifest
  | read kind id => do
    let object ← Lifecycle.read kind id
    Writing.print device object
  | delete kind id => do
    Lifecycle.delete config kind id
    Writing.line device ("deleted " ++ kind.name ++ " " ++ id.text)
  | waitRunning id seconds => do
    let object ← Lifecycle.awaitRunning config id (.ofSeconds seconds)
    Writing.print device object

end Writing

end Command

/-- The configuration that a command line goes by. -/
def CommandLine.config (line : CommandLine) (config : Config) : Config :=
  if line.noWait then { config with wait := false } else config

/-- Carries a command line out and writes what it tells of. -/
def CommandLine.execute {δ : Type} (line : CommandLine) (device : Device δ) (config : Config)
    (files : Files) : Writing δ Unit :=
  line.command.execute device (line.config config) files

/-- What has been written, and the failure if not all of it could be. -/
structure Output where
  bytes : List UInt8
  failure : Option LifecycleError
deriving Repr

/-- The output that is left when a command has come to an end. -/
def Output.ofEnd {δ : Type} (left : Except LifecycleError Unit × Written δ) : Output where
  bytes := left.2.bytes
  failure := match left.1 with
    | .ok () => none
    | .error error => some error

end VirtLifecycle
