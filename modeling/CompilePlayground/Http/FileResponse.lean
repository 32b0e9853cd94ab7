import CompilePlayground.Http.Date
import CompilePlayground.Http.Range

namespace CompilePlayground.Http

/-!
# Answering with a file

A file is sent whole or in part, unless the client says that it only wants a file that was
changed after some date, or that was not. Conditions are looked at before ranges, and a
condition that is no date is none.
-/

/-- A file to be sent, with the second at which it was last changed. -/
structure SentFile where
  bytes : Bytes
  modified : Nat
  mediaType : String
  deriving Repr, DecidableEq

namespace SentFile

/-- The date that a field of a request gives. -/
def dateOf? (request : Request) (name : String) : Option Nat :=
  (request.field? name).bind fun field => Date.read? field.value

/-- Whether a file was changed after the last date at which the client would take it. -/
def isTooNew (file : SentFile) (request : Request) : Bool :=
  (dateOf? request "if-unmodified-since").any (· < file.modified)

/-- Whether the client has a file already that was not changed since. -/
def isKnown (file : SentFile) (request : Request) : Bool :=
  (dateOf? request "if-modified-since").any (file.modified ≤ ·)

/-- The fields that go with a file. -/
def fields (file : SentFile) : List Field :=
  [.ofText "content-type" file.mediaType, .ofText "accept-ranges" "bytes",
    .ofText "last-modified" (Date.write file.modified)]

/-- The field that says which part of a file is sent. -/
def extentField (file : SentFile) (extent : Extent) : Field :=
  .ofText "content-range"
    ("bytes " ++ toString extent.first ++ "-" ++ toString extent.last ++ "/"
      ++ toString file.bytes.length)

/-- The field that says that no part of a file is sent. -/
def noExtentField (file : SentFile) : Field :=
  .ofText "content-range" ("bytes */" ++ toString file.bytes.length)

/-- The response with the whole file. -/
def whole (file : SentFile) : Response :=
  ⟨200, file.fields, file.bytes⟩

/-- The response with one part of the file. -/
def part (file : SentFile) (extent : Extent) : Response :=
  ⟨206, file.fields ++ [file.extentField extent], Range.slice extent file.bytes⟩

/-- The response to a wish that cannot be met. -/
def refusal (file : SentFile) (reason : String) : Response :=
  ⟨416, file.fields ++ [file.noExtentField], Text.Utf8.encode reason⟩

/-- The response to a request for a file. Only one part is sent at a time. -/
def respond (file : SentFile) (request : Request) : Response :=
  if file.isTooNew request then .bare 412
  else if file.isKnown request then .bare 304
  else
    match request.text? "range" with
    | none => file.whole
    | some text =>
      match Range.resolve? file.bytes.length text with
      | some [extent] => file.part extent
      | some (_ :: _ :: _) => file.refusal "Cannot serve multipart range requests"
      | _ => file.refusal ""

end SentFile

end CompilePlayground.Http
