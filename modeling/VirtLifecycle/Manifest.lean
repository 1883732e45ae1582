/-
Module: VirtLifecycle.Manifest
Purpose: Manifests: documents that describe one object. The kind tells what the document is to be read
  as, and a version that is given has to be that of the kind.
Specification: [SPEC 6 External interfaces], the binary: the manifest of `create`, whose kind is read
  from it (`Manifest.parse`, `decode`).
Main exports: Manifest, Manifest.ofNode, Manifest.ofText
-/
import VirtLifecycle.Error
import VirtLifecycle.Resource.Basic
import VirtLifecycle.Yaml.Reader

namespace VirtLifecycle

/-- An object with its kind. -/
structure Manifest where
  kind : Kind
  object : Resource kind

namespace Manifest

/-- Reads an object of a kind out of a document (`decode`). -/
def ofKind (kind : Kind) (document : Yaml.Node) : Except LifecycleError Manifest :=
  let read : Except LifecycleError Manifest :=
    match Resource.decode? kind document with
    | some object => .ok ⟨kind, object⟩
    | none => .error .yaml
  match (document.find? "apiVersion").bind Yaml.Node.text? with
  | none => read
  | some version =>
    if version = kind.apiVersion then read else .error (.manifest (.wrongVersion kind version))

/-- Reads the object that a document describes. -/
def ofNode (document : Yaml.Node) : Except LifecycleError Manifest :=
  match (document.find? "kind").bind Yaml.Node.text? with
  | none => .error (.manifest .missingKind)
  | some name =>
    match Kind.ofName? name with
    | none => .error (.manifest (.unsupportedKind name))
    | some kind => ofKind kind document

/-- Reads the object that a text describes (`parse`). -/
def ofText (text : String) : Except LifecycleError Manifest :=
  match Yaml.read? text with
  | none => .error .yaml
  | some document => ofNode document

end Manifest

end VirtLifecycle
