import ImageBot.Json.Decode
import ImageBot.Json.Printer
import ImageBot.Search.Result
/-!
# Messages to a room

A message is a notice or an image. On the wire it is an object whose `msgtype` says
which; an image comes with its address in the content repository and its size. When a
message is read, the type is looked for first and the rest is read as any value, so what
is wrong with the rest is told without a place.
-/
namespace ImageBot

open Decimal Json

/-- The address of a file in the content repository. -/
structure ContentUri where
  text : String
  deriving Repr, DecidableEq

/-- Size and type of an image. -/
structure ImageInfo where
  height : UInt32
  width : UInt32
  mimetype : String
  deriving Repr, DecidableEq

/-- An image in the content repository, with the text shown for it. -/
structure ImageMessage where
  body : String
  uri : ContentUri
  info : ImageInfo
  deriving Repr, DecidableEq

/-- What a command answers. -/
inductive Message
  | notice (body : String)
  | image (content : ImageMessage)
  deriving Repr, DecidableEq

/-- A length in whole pixels: the floor of the number, kept between 0 and `2 ^ 32 - 1`.
What is no number is no pixel. -/
def pixels (x : Binary64) : UInt32 :=
  match x.value with
  | .nan => 0
  | .infinite negative => if negative then 0 else 0xFFFFFFFF
  | .finite negative m q => if negative then 0 else (min (Binary64.floor m q) 0xFFFFFFFF).toUInt32

/-- The size that a search tells, with a type. -/
def ImageInfo.ofDescriptor (image : Search.Descriptor) (mimetype : String) : ImageInfo :=
  ⟨pixels image.height, pixels image.width, mimetype⟩

/-- Size and type as JSON. -/
def ImageInfo.toValue (info : ImageInfo) : Value :=
  .object [("h", .number (.int info.height.toNat)), ("w", .number (.int info.width.toNat)),
    ("mimetype", .string info.mimetype)]

namespace Message

/-- The text of a message. -/
def body : Message → String
  | notice body => body
  | image content => content.body

/-- A message as JSON, the type first. -/
def toValue : Message → Value
  | notice body => .object [("msgtype", .string "m.notice"), ("body", .string body)]
  | image content =>
    .object [("msgtype", .string "m.image"), ("body", .string content.body),
      ("url", .string content.uri.text), ("info", content.info.toValue)]

/-- A message as JSON text. -/
def wire (m : Message) : String := m.toValue.write

/-- The two types of messages. -/
inductive Kind
  | notice
  | image
  deriving Repr, DecidableEq

/-- Reads the type of a message. -/
def kind (node : Node) : Except Problem Kind :=
  match node with
  | .string (.ok s) stop =>
    if s = "m.notice" then .ok .notice
    else if s = "m.image" then .ok .image
    else .error (.mismatch s!"unknown variant `{s}`, expected `m.notice` or `m.image`" stop)
  | other => .error (unexpected "variant identifier" other)

/-- Size and type of an image. -/
def infoRecord : Record ImageInfo :=
  ⟨"struct ImageInfo", ⟨0, 0, ""⟩,
    [.required "h" .nat32 fun a i => { i with height := a.toUInt32 },
      .required "w" .nat32 fun a i => { i with width := a.toUInt32 },
      .required "mimetype" .string fun a i => { i with mimetype := a }]⟩

/-- The fields of an image message behind its type. -/
def imageRecord : Record ImageMessage :=
  ⟨"struct ImageMessage", ⟨"", ⟨""⟩, infoRecord.empty⟩,
    [.required "body" .string fun a m => { m with body := a },
      .required "url" .string fun a m => { m with uri := ⟨a⟩ },
      .required "info" infoRecord.decode fun a m => { m with info := a }]⟩

/-- The fields of a notice behind its type. -/
def noticeRecord : Record String :=
  ⟨"struct variant Message::Notice", "", [.required "body" .string fun a _ => a]⟩

/-- Reads a message of a known type from what else its value holds. -/
def ofParts (kind : Kind) (rest : Value) : Except Problem Message :=
  match kind with
  | .notice => (noticeRecord.ofValue rest).map .notice
  | .image => (imageRecord.ofValue rest).map .image

/-- Finds the type among members; the others are kept as they are. -/
def splitMembers (depth : Nat) :
    Option Kind → Members → Except Problem (Kind × List (String × Value))
  | some k, .closed _ => .ok (k, [])
  | none, .closed stop => .error (.mismatch "missing field `msgtype`" stop)
  | _, .broken f => .error (.ofFault f.reading)
  | found, .keyOnly key mark f =>
    match key with
    | .error f => .error (.ofFault f)
    | .ok name =>
      if name = "msgtype" ∧ found.isSome then .error (.mismatch "duplicate field `msgtype`" mark)
      else .error (.ofFault f.reading)
  | found, .member key mark v leave rest =>
    match key with
    | .error f => .error (.ofFault f)
    | .ok name =>
      if name = "msgtype" then
        if found.isSome then .error (.mismatch "duplicate field `msgtype`" mark)
        else match kind v with
          | .error p => .error (p.placed leave)
          | .ok k => splitMembers depth (some k) rest
      else match v.toValue depth with
        | .error p => .error p
        | .ok a => (splitMembers depth found rest).map fun (k, members) => (k, (name, a) :: members)

/-- The type of a message and the rest of its value. In an array the type comes first. -/
def split : Decoder (Kind × Value) := fun depth node =>
  match node with
  | .object start members => do
    let (k, rest) ← splitMembers (← enter depth start) none members
    return (k, .object rest)
  | .array start items => do
    let inner ← enter depth start
    match items with
    | .closed stop => throw (.mismatch "missing field `msgtype`" stop)
    | .broken f => throw (.ofFault f.reading)
    | .item v leave rest =>
      let k ← (kind v).mapError (·.placed leave.offset)
      return (k, .array (← rest.toValues inner))
  | other => .error (unexpected "internally tagged enum Message" other)

/-- Reads a message. -/
def decoder : Decoder Message := fun depth node => do
  let (k, rest) ← split depth node
  ofParts k rest

/-- Decodes a message. -/
def decode (document : List UInt8) : Except Error Message := Json.decode decoder document

end Message

end ImageBot
