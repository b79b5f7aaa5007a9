import ResourceTemplate.Document.OfJson
import ResourceTemplate.Manifest.Basic

/-!
# Schemes

A scheme registers types.  A value that states a registered API version and kind must have that
type, and the manifest decoded from it is typed; any other value that states both is decoded without
looking at its content.  What a manifest carries does not depend on the scheme.

Any check can make a type.  The types that are known by name are the record types of the table.
-/

namespace ResourceTemplate

open Document

/-- A type of values that state an API version and a kind. -/
structure RegisteredType where
  apiVersion : String
  kind : String
  /-- Whether a value has the type, or what violates it. -/
  check : Json → Except Cause Unit

/-- The types that values are checked against, the one registered last in front. -/
structure Scheme where
  types : List RegisteredType

/-- A value that states what it is but cannot be decoded. -/
structure ConversionError where
  apiVersion : String
  kind : String
  cause : Cause
deriving DecidableEq

/-- The wording of the error. -/
def ConversionError.message (e : ConversionError) : String :=
  s!"unable to decode object of kind '{e.kind}' (apiVersion '{e.apiVersion}'): {e.cause.message}"

namespace RegisteredType

/-- Whether a value is a record of a name, or what violates that. -/
def checkRecord (name : String) (raw : Json) : Except Cause Unit :=
  match Schema.read (.record name) (Node.ofJson raw) with
  | .ok _ => .ok ()
  | .error v => .error v.cause

/-- The type of a record that objects are made of. -/
def ofRecord? (r : Schema.RecordType) : Option RegisteredType :=
  r.resource?.map fun apiVersion => ⟨apiVersion, r.name, checkRecord r.name⟩

end RegisteredType

namespace Scheme

/-- The scheme without types. -/
def empty : Scheme := ⟨[]⟩

/-- Register a type, in place of what was registered for its API version and kind. -/
def register (scheme : Scheme) (type : RegisteredType) : Scheme := ⟨type :: scheme.types⟩

/-- The scheme of types given by name. -/
def ofNames (names : List String) : Scheme :=
  (names.filterMap fun name => RegisteredType.ofRecord? (Schema.recordType name)).foldl register empty

/-- The scheme of the kinds that templates usually contain. -/
def builtin : Scheme := ofNames Schema.builtinKinds

/-- The type registered for an API version and a kind. -/
def type? (scheme : Scheme) (apiVersion kind : String) : Option RegisteredType :=
  scheme.types.find? fun type => type.apiVersion = apiVersion && type.kind = kind

/-- Whether a type is registered for an API version and a kind. -/
def isRegistered (scheme : Scheme) (apiVersion kind : String) : Bool :=
  (scheme.type? apiVersion kind).isSome

/-- The API version and the kind that a value states, when neither is empty. -/
def statedType? (raw : Json) : Option TypeMeta :=
  match (raw.getString? "apiVersion").filter (· ≠ ""), (raw.getString? "kind").filter (· ≠ "") with
  | some apiVersion, some kind => some ⟨apiVersion, kind⟩
  | _, _ => none

/-- The resource that a value holds. -/
def resourceOf (raw : Json) : Except Cause Resource :=
  match Resource.read (Node.ofJson raw) with
  | .ok r => .ok r
  | .error v => .error v.cause

/-- Decode a value that states a type. -/
def decodeStated (scheme : Scheme) (types : TypeMeta) (raw : Json) : Except Cause Manifest :=
  match scheme.type? types.apiVersion types.kind with
  | none => (resourceOf raw).map (Manifest.mk false)
  | some type =>
      match type.check raw with
      | .error cause => .error cause
      | .ok () => (resourceOf raw).map (Manifest.mk true)

/-- Decode a value; a value that does not state what it is has no manifest. -/
def decode (scheme : Scheme) (raw : Json) : Except ConversionError (Option Manifest) :=
  match statedType? raw with
  | none => .ok none
  | some types =>
      match decodeStated scheme types raw with
      | .ok m => .ok (some m)
      | .error cause => .error ⟨types.apiVersion, types.kind, cause⟩

/-- Decode values in order, up to the first that fails. -/
def convert (scheme : Scheme) : List Json → Except ConversionError (List RenderedObject)
  | [] => .ok []
  | raw :: rest =>
      match scheme.decode raw with
      | .error e => .error e
      | .ok manifest? => (scheme.convert rest).map (⟨raw, manifest?⟩ :: ·)

end Scheme

end ResourceTemplate
