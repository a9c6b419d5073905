import GraphTable.Json.Printer
import GraphTable.Json.Reader
import GraphTable.Text.Utf8

/-!
# Requests to a remote store

A script is sent in one binary message: the length of a media type in one byte,
the media type, and the request as JSON text. `RequestFrame.decode?` takes such
a message apart again.
-/

namespace GraphTable

structure EvalRequest where
  id : String
  script : String
  deriving Repr, DecidableEq

structure RequestFrame where
  mediaType : String
  body : String
  deriving Repr, DecidableEq

namespace EvalRequest

def mediaType : String :=
  "application/json"

def toJson (request : EvalRequest) : Json :=
  .object
    [("requestId", .string request.id),
      ("op", .string "eval"),
      ("processor", .string ""),
      ("args", .object
        [("gremlin", .string request.script),
          ("language", .string "gremlin-groovy")])]

/-- The message that a request is sent in, before it is written as bytes. -/
def frame (request : EvalRequest) : RequestFrame :=
  ⟨mediaType, request.toJson.write⟩

end EvalRequest

namespace RequestFrame

def encode (frame : RequestFrame) : List UInt8 :=
  let mediaType := Text.encodeUtf8 frame.mediaType
  mediaType.length.toUInt8 :: mediaType ++ Text.encodeUtf8 frame.body

def decode? : List UInt8 → Option RequestFrame
  | [] => none
  | length :: rest => do
      let mediaType ← (Text.decodeUtf8 (rest.take length.toNat)).toOption
      let body ← (Text.decodeUtf8 (rest.drop length.toNat)).toOption
      return ⟨mediaType, body⟩

end RequestFrame

def EvalRequest.encode (request : EvalRequest) : List UInt8 :=
  request.frame.encode

end GraphTable
