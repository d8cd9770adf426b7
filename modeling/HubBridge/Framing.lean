import HubBridge.Message

/-!
# One message per datagram

The socket hands each datagram over in a buffer and asks for messages until there is none left. The
buffer of an empty datagram looks like the drained buffer of the last one, and one flag tells them
apart.
-/

namespace HubBridge

structure Framing where
  /-- Whether a message was handed out since the buffer was last found empty. -/
  emitted : Bool
  deriving DecidableEq, Repr

namespace Framing

/-- A reader before its first datagram. -/
def initial : Framing := ⟨false⟩

/-- The message that fills the buffer, if it holds anything; the buffer is empty afterwards. -/
def decode (buffer : ByteArray) : Option Message :=
  if buffer.isEmpty then none else some (.ofDatagram buffer)

/-- Asked again and again about one datagram, this hands out its message once and then nothing; an
empty datagram is an empty raw line. The buffer is empty afterwards. -/
def decodeLast (f : Framing) (buffer : ByteArray) : Framing × Option Message :=
  if buffer.isEmpty then
    if f.emitted then (⟨false⟩, none) else (⟨true⟩, some (.raw ""))
  else (⟨true⟩, decode buffer)

end Framing

/-- A framing and the buffer that it is asked about. -/
structure Reader where
  framing : Framing
  buffer : ByteArray

namespace Reader

def initial : Reader := ⟨.initial, .empty⟩

/-- The octets of one datagram come in. -/
def fill (r : Reader) (bytes : ByteArray) : Reader := { r with buffer := r.buffer ++ bytes }

/-- Asks for one message; what was in the buffer is taken out with it. -/
def ask (r : Reader) : Reader × Option Message :=
  let (framing, message) := r.framing.decodeLast r.buffer
  (⟨framing, .empty⟩, message)

def clear (r : Reader) : Reader := { r with buffer := .empty }

end Reader

end HubBridge
