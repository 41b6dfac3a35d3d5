/-
Reading a document from a value.

Every part is checked and every fault is listed, in the order in which the parts
are declared. Keys that are not known are ignored; text is text or bytes that
encode text, and no other value is turned into text.
-/
import ServiceSchema.Document.Basic
import ServiceSchema.Validation.Scalars
import ServiceSchema.Yaml.Value

set_option autoImplicit false

namespace ServiceSchema.Document

open Validation Yaml

/-! ## Scalars -/

/-- A text. -/
def readText : Value → Checked String
  | .text s => .valid s
  | .bytes bytes => match utf8Text? bytes with
    | some s => .valid s
    | none => .fail .notUnicode
  | _ => .fail .notText

/-- What characters alone can say: nothing with a surrogate. -/
def readCharacters {α : Type} (read : String → Checked α) (s : String) : Checked α :=
  if Text.isEncodable s then read s else .fail .notUnicode

/-- A text or nothing. -/
def readOptionalText : Value → Checked (Option String)
  | .null => .valid none
  | v => some <$> readText v

/-- A truth value. -/
def readBool : Value → Checked Bool
  | .bool b => .valid b
  | .int n => boolOfInt n
  | .real x => boolOfReal x
  | .text s => readCharacters boolOfText s
  | .bytes bytes => match utf8Text? bytes with
    | some s => boolOfText s
    | none => .fail .unclearBool
  | _ => .fail .notBool

/-- A whole number. -/
def readInt : Value → Checked Int
  | .bool b => .valid (if b then 1 else 0)
  | .int n => .valid n
  | .real x => intOfReal x
  | .text s => readCharacters intOfText s
  | .bytes bytes => match utf8Text? bytes with
    | some s => intOfText s
    | none => .fail .intText
  | _ => .fail .notInt

/-- The location that a word names, if there is a word. -/
def locationOf (word : Option String) : Checked Location :=
  match word.bind Location.find? with
  | some location => .valid location
  | none => .fail (.notMember (Location.all.map Location.word))

/-- A location, whose word may be written in any case. -/
def readLocation : Value → Checked Location
  | .text s => readCharacters (fun s => locationOf (some s)) (Text.lowerAscii s)
  | .bytes bytes => locationOf (utf8Text? bytes)
  | _ => locationOf none

/-- A list of values that each pass a check. A set counts as a list. -/
def readList {α : Type} (check : Value → Checked α) : Value → Checked (List α)
  | .list items | .set items => Checked.items check 0 items
  | _ => .fail .notList

/-! ## Records -/

/-- The entries of a mapping that describes a record of the given name. -/
abbrev Entries := List (Value × Value)

/-- A record that is described by a mapping. -/
def readRecord {α : Type} (name : String) (read : Entries → Checked α) : Value → Checked α
  | .mapping entries => read entries
  | _ => .fail (.notRecord name)

/-- A part that has to be there. -/
def required {α : Type} (key : String) (check : Value → Checked α) (entries : Entries) :
    Checked α :=
  match Value.find? key entries with
  | some v => (check v).under (.key key)
  | none => (Checked.fail .missing).under (.key key)

/-- A part that may be left out. -/
def optional {α : Type} (key : String) (check : Value → Checked α) (default : α)
    (entries : Entries) : Checked α :=
  match Value.find? key entries with
  | some v => (check v).under (.key key)
  | none => .valid default

/-- A part that may be left out and has two keys, of which the first that occurs counts. -/
def optionalEither {α : Type} (key other : String) (check : Value → Checked α) (default : α)
    (entries : Entries) : Checked α :=
  match Value.find? key entries with
  | some v => (check v).under (.key key)
  | none => optional other check default entries

/-- A field or parameter. -/
def readField (e : Entries) : Checked FieldEntry :=
  FieldEntry.mk <$> required "name" readText e <*> required "type" readText e
    <*> optional "required" readBool false e
    <*> optional "location" readLocation .unspecified e
    <*> optional "description" readOptionalText none e

/-- A list of fields or parameters. -/
def readFields : Value → Checked (List FieldEntry) := readList (readRecord "FieldDoc" readField)

/-- What a struct says about subtypes has to be complete. -/
def checkUnion (s : StructEntry) : Checked StructEntry :=
  if s.isConsistent then .valid s
  else .fail (.rule ("struct " ++ Text.quoted s.name
    ++ ": 'one_of' and 'discriminator' must be given together"))

/-- A struct or exception. -/
def readStruct (e : Entries) : Checked StructEntry :=
  (StructEntry.mk <$> required "name" readText e
    <*> optional "description" readOptionalText none e
    <*> optional "fields" readFields [] e
    <*> optionalEither "one_of" "oneOf" (readList readText) [] e
    <*> optional "discriminator" readOptionalText none e).andThen checkUnion

/-- A list of structs or exceptions. -/
def readStructs : Value → Checked (List StructEntry) :=
  readList (readRecord "StructDoc" readStruct)

/-- An enum. -/
def readEnum (e : Entries) : Checked EnumEntry :=
  EnumEntry.mk <$> required "name" readText e
    <*> optional "description" readOptionalText none e
    <*> required "values" (readList readText) e

/-- An endpoint. -/
def readEndpoint (e : Entries) : Checked EndpointEntry :=
  EndpointEntry.mk <$> required "path" readText e <*> optional "host" readText "*" e
    <*> optional "mime_types" (readList readText) ["application/json"] e

/-- A method. -/
def readMethod (e : Entries) : Checked MethodEntry :=
  MethodEntry.mk <$> required "name" readText e
    <*> optional "description" readOptionalText none e
    <*> optional "http_method" readText "POST" e
    <*> optional "return_type" readText "void" e
    <*> optional "overload_id" (fun v => (readInt v).andThen natural) 0 e
    <*> optional "parameters" readFields [] e
    <*> optional "endpoints" (readList (readRecord "EndpointDoc" readEndpoint)) [] e

/-- A service. -/
def readService (e : Entries) : Checked ServiceEntry :=
  ServiceEntry.mk <$> required "name" readText e
    <*> optional "description" readOptionalText none e
    <*> optional "methods" (readList (readRecord "MethodDoc" readMethod)) [] e

/-- A document. -/
def readEntries (e : Entries) : Checked Document :=
  Document.mk <$> optional "services" (readList (readRecord "ServiceDoc" readService)) [] e
    <*> optional "structs" readStructs [] e
    <*> optional "enums" (readList (readRecord "EnumDoc" readEnum)) [] e
    <*> optional "exceptions" readStructs [] e

end ServiceSchema.Document
