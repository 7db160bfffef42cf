import ClusterWatch.Mesh.Message

/-!
# Frames

A message travels in a frame: the length of the message in four bytes, lowest first, and then the
message. Bytes after the declared length are ignored.
-/

namespace ClusterWatch

/-- Why a frame yields no message. -/
inductive FrameError where
  /-- There are not even four bytes for the length. -/
  | tooShort (length : Nat)
  /-- The frame declares more bytes than there are. -/
  | truncated (declared available : Nat)
  /-- The declared bytes are no message. -/
  | malformed
  deriving DecidableEq, Repr

/-- The text that reports an error. -/
def FrameError.message : FrameError → String
  | .tooShort length => s!"frame too short: {length} bytes, need at least 4"
  | .truncated declared available =>
    s!"frame declares {declared} bytes but only {available} are available"
  | .malformed => "malformed protobuf payload"

namespace Frame

/-- The four bytes of a length, lowest first. -/
def lengthBytes (n : Nat) : Bytes :=
  [UInt8.ofNat n, UInt8.ofNat (n / 256), UInt8.ofNat (n / 256 / 256),
    UInt8.ofNat (n / 256 / 256 / 256)]

/-- The frame of a payload. A length beyond 32 bits is declared as the largest there is. -/
def ofPayload (payload : Bytes) : Bytes :=
  lengthBytes (min payload.length (UInt32.size - 1)) ++ payload

/-- The declared payload of a frame. -/
def payload (frame : Bytes) : Except FrameError Bytes :=
  match frame with
  | a :: b :: c :: d :: rest =>
    let declared := a.toNat + 256 * (b.toNat + 256 * (c.toNat + 256 * d.toNat))
    if rest.length < declared then .error (.truncated declared rest.length)
      else .ok (rest.take declared)
  | _ => .error (.tooShort frame.length)

variable {α : Type} [WireMessage α]

/-- The frame of a message. -/
def encode (message : α) : Bytes :=
  ofPayload (WireMessage.encode message)

/-- The message in a frame. -/
def decode (frame : Bytes) : Except FrameError α :=
  match payload frame with
  | .error error => .error error
  | .ok bs =>
    match WireMessage.decode? bs with
    | some message => .ok message
    | none => .error .malformed

end Frame

end ClusterWatch
