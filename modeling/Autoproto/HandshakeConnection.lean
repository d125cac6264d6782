import Autoproto.Handshake
import Autoproto.Transition
import Autoproto.Transport

namespace Autoproto.Mtproto

open ByteEncoding

/-!
# Handshakes over connections

A `HandshakeConnection` resumes a handshake and hands it the unencrypted packets
that its `RawConnection` reads. `flush_read` delivers what has arrived, up to
the first error; after that nothing is delivered.
-/

/-- The code of the status with which an answer is refused. -/
def HandshakeError.code : HandshakeError → Int32
  | .parse => 500
  | _ => 0

inductive Incoming where
  /-- A packet; transports read packets of less than two gigabytes. -/
  | packet (bytes : Bytes) (short : bytes.length < 2 ^ 31) (draws : HandshakeDraws)
  /-- A quick acknowledgement of the transport. -/
  | quickAck
  /-- The transport fails, or it waits for a packet that is too big. -/
  | failure (code : Int32)

structure FlushRead where
  handshake : AuthKeyHandshake
  status : Except Int32 Unit := .ok ()
  sent : List Bytes := []

/-- The answer of a packet, without header and padding. -/
def messageOf (data : Bytes) : Bytes :=
  let answer := data.drop 12
  answer.take (answer.length / 4 * 4)

def onRawPacket (context : HandshakeContext) (draws : HandshakeDraws) (handshake : AuthKeyHandshake)
    (packetInfo : PacketInfo) (data : Bytes) : Except Fault FlushRead :=
  if !packetInfo.noCryptoFlag then
    .ok { handshake := handshake, status := .error 0 }
  else if data.length < 12 then
    .ok { handshake := handshake, status := .error 0 }
  else do
    let handled ← handshake.onMessage context draws (messageOf data)
    return {
      handshake := handled.handshake
      status := handled.status.mapError HandshakeError.code
      sent := handled.sent.toList }

def onReadMtprotoError (code : Int32) : Int32 :=
  if code = -429 then
    500
  else if code = -404 then
    -404
  else
    0

def readIncoming (context : HandshakeContext)
    (handshake : AuthKeyHandshake) : Incoming → Except Fault FlushRead
  | .quickAck => .ok { handshake := handshake }
  | .failure code => .ok { handshake := handshake, status := .error code }
  | .packet bytes _ draws => do
      let read ← read context.primitives bytes {} { version := 2 }
      match read.result with
      | .error _ => return { handshake := handshake, status := .error 0 }
      | .ok .nop => return { handshake := handshake }
      | .ok (.quickAck _) => return { handshake := handshake }
      | .ok (.error code) =>
        return {
          handshake := handshake
          status := .error (onReadMtprotoError code) }
      | .ok (.packet data) =>
        onRawPacket context draws handshake read.packetInfo (data.bytes read.packet)

/-- The loop of `flush_read`, up to the first error. -/
def flushRead (context : HandshakeContext)
    (handshake : AuthKeyHandshake) : List Incoming → Except Fault FlushRead
  | [] => .ok { handshake := handshake }
  | incoming :: rest => do
      let first ← readIncoming context handshake incoming
      match first.status with
      | .error _ => return first
      | .ok _ =>
        let others ← flushRead context first.handshake rest
        return { others with sent := first.sent ++ others.sent }

/-- A handshake, and whether packets still reach it. -/
structure HandshakeConnection where
  handshake : AuthKeyHandshake
  isAlive : Bool := false

namespace HandshakeConnection

def new (dcId expiresIn : Int32) : HandshakeConnection :=
  { handshake := .new dcId expiresIn }

/-- The function `flush`; writing may fail after reading. -/
def flush (context : HandshakeContext) (connection : HandshakeConnection) (incoming : List Incoming)
    (writing : Except Int32 Unit) : Except Fault HandshakeConnection :=
  if connection.isAlive then do
    let reading ← flushRead context connection.handshake incoming
    match (do reading.status; writing : Except Int32 Unit) with
    | .ok _ => return { connection with handshake := reading.handshake }
    | .error code =>
      return {
        handshake :=
          if code = -404 then reading.handshake.clear else reading.handshake
        isAlive := false }
  else
    .ok connection

inductive Event where
  /-- A connection is made for the handshake. -/
  | connect (nonce : FixedBytes 16)
  /-- The connection is flushed. -/
  | flush (context : HandshakeContext) (incoming : List Incoming) (writing : Except Int32 Unit)
  /-- The connection is given up. -/
  | close

def handle (connection : HandshakeConnection) :
    Event → Except Fault HandshakeConnection
  | .connect nonce =>
    .ok {
      handshake := (connection.handshake.resume nonce).1
      isAlive := true }
  | .flush context incoming writing => connection.flush context incoming writing
  | .close => .ok { connection with isAlive := false }

/-- An event that does not end in an abort. -/
def Step (before : HandshakeConnection) (event : Event) (after : HandshakeConnection) : Prop :=
  before.handle event = .ok after

end HandshakeConnection

end Autoproto.Mtproto
