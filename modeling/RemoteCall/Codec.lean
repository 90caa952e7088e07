import RemoteCall.CallError
import RemoteCall.Json.Reader

/-!
# Codecs

A codec turns messages into payloads and back; either direction may fail. `jsonText` carries
texts as JSON strings, and `prefixed` marks texts with a leading `p:`. Where payloads are no
bytes, `verbatim` leaves messages as they are, and `optional` knows a payload that is no text.
-/

namespace RemoteCall

/-- Turns messages into payloads and back. -/
structure Codec (Payload Message : Type) where
  encode : Message → Result Payload
  decode : Payload → Result Message

namespace Codec

/-- Messages that are their own payloads. -/
def verbatim {Message : Type} : Codec Message Message where
  encode := .ok
  decode := .ok

/-- Texts as they are. A payload without a text cannot be read. -/
def optional : Codec (Option String) String where
  encode text := .ok (some text)
  decode
    | some text => .ok text
    | none => .error (.codec "no text")

/-- Reads a JSON payload of a given form. -/
def decodeJson (schema : Json.Schema) (payload : Bytes) : Result Json.Value :=
  match Json.read schema payload with
  | .ok value => .ok value
  | .error fault => .error (.codec fault.text)

/-- JSON documents of a given form. Writing never fails. -/
def json (schema : Json.Schema) : Codec Bytes Json.Value where
  encode value := .ok (Text.toBytes value.text)
  decode := decodeJson schema

def jsonText : Codec Bytes String where
  encode text := .ok (Text.toBytes (Json.quote text))
  decode payload :=
    match decodeJson .text payload with
    | .ok (.string text) => .ok text
    | .ok _ => .error (.codec (Json.Reason.text .valueExpected))
    | .error e => .error e

/-- Texts behind the mark `p:`. Texts that start with an exclamation mark are not encoded. -/
def prefixed : Codec Bytes String where
  encode text :=
    if text.toList.head? = some '!' then .error (.codec "unencodable")
    else .ok (Text.toBytes ("p:" ++ text))
  decode
    | 0x70 :: 0x3a :: rest =>
      match Text.ofBytes? rest with
      | some text => .ok text
      | none => .error (.codec "not utf8")
    | _ => .error (.codec "missing prefix")

/-- Why a map whose keys are not texts has no JSON form. -/
def keyFault : CallError := .codec "key must be a string"

end Codec

end RemoteCall
