import GraphTable.Proofs.Json.Printed
import GraphTable.Proofs.Text.Utf8
import GraphTable.Remote.Request

/-!
# Taking request messages apart

A message is taken apart into what it was put together from, so a remote store
finds the identifier and the script of a request in it as they were, whatever
characters they hold.
-/

namespace GraphTable

/-- One byte holds the length of any media type in use. -/
theorem RequestFrame.decode?_encode {frame : RequestFrame}
    (short : (Text.encodeUtf8 frame.mediaType).length < 256) :
    RequestFrame.decode? frame.encode = some frame := by
  have length : (Text.encodeUtf8 frame.mediaType).length.toUInt8.toNat =
      (Text.encodeUtf8 frame.mediaType).length :=
    UInt8.toNat_ofNat_of_lt' short
  rw [encode, List.cons_append, decode?, length, List.take_left,
    List.drop_left, Text.decodeUtf8_encodeUtf8, Text.decodeUtf8_encodeUtf8]
  rfl

namespace EvalRequest

theorem decode?_encode (request : EvalRequest) :
    RequestFrame.decode? request.encode = some request.frame :=
  RequestFrame.decode?_encode
    (show (Text.encodeUtf8 mediaType).length < 256 by decide)

theorem toJson_printed (request : EvalRequest) : request.toJson.Printed := by
  have args : (Json.object [("gremlin", .string request.script),
      ("language", .string "gremlin-groovy")]).Printed :=
    .object (by simp [Json.Printed.string])
  exact .object (by simp [Json.Printed.string, args])

theorem toJson_fits (request : EvalRequest) : request.toJson.Fits 2 := by
  have args : (Json.object [("gremlin", .string request.script),
      ("language", .string "gremlin-groovy")]).Fits 1 := by
    refine .object ?_ ?_
    · simp [Entries.Distinct, Entries.names]
    · simp [Json.Fits.string]
  refine .object ?_ ?_
  · simp [Entries.Distinct, Entries.names]
  · simp [Json.Fits.string, args]

theorem parse_body (request : EvalRequest) :
    Json.parse request.frame.body = .ok request.toJson :=
  Json.parse_write request.toJson_printed request.toJson_fits (by decide)

/-- The bytes of a request are taken apart, by the length in their first byte,
into a media type and a text that is parsed as the request, so no two requests
are sent as the same bytes. -/
theorem encode_recoverable :
    (∀ request : EvalRequest, ∃ body,
      RequestFrame.decode? request.encode = some ⟨"application/json", body⟩ ∧
      Json.parse body = .ok (.object
        [("requestId", .string request.id),
          ("op", .string "eval"),
          ("processor", .string ""),
          ("args", .object
            [("gremlin", .string request.script),
              ("language", .string "gremlin-groovy")])])) ∧
    Function.Injective EvalRequest.encode := by
  refine ⟨fun request => ⟨_, request.decode?_encode, request.parse_body⟩, ?_⟩
  intro first second sameBytes
  have sameFrame : first.frame = second.frame := by
    have decoded := congrArg RequestFrame.decode? sameBytes
    rw [first.decode?_encode, second.decode?_encode] at decoded
    exact Option.some.inj decoded
  have sameJson : first.toJson = second.toJson := by
    have parsed := congrArg (fun frame => Json.parse frame.body) sameFrame
    simp only [parse_body] at parsed
    exact Except.ok.inj parsed
  obtain ⟨id, script⟩ := first
  obtain ⟨otherId, otherScript⟩ := second
  simp only [toJson, Json.object.injEq, List.cons.injEq, Prod.mk.injEq,
    Json.string.injEq, true_and, and_true] at sameJson
  rw [sameJson.1, sameJson.2]

end EvalRequest

end GraphTable
