import Beignet.Data.Masking
import Beignet.Onion.Payload

namespace Beignet.Onion

open Beignet.Data Beignet.Message

/-- The cryptography of an onion. A cipher stream is a function of its key and the position, so that a longer
    stream begins with a shorter one. -/
structure SphinxPrimitives where
  getPublicKey : Bytes → Bytes
  isValidPublicKey : Bytes → Bool
  ecdh : Bytes → Bytes → Bytes
  pointMultiply : Bytes → Bytes → Bytes
  privateMultiply : Bytes → Bytes → Bytes
  sha256 : Bytes → Bytes
  hmacSha256 : Bytes → Bytes → Bytes
  chacha20 : Bytes → Nat → Fin 256

def routingInfoLength : Nat := 1300

def onionVersion : Nat := 0

structure OnionPacket where
  version : Nat
  ephemeralKey : Bytes
  routingInfo : Bytes
  hmac : Bytes
  deriving DecidableEq, Repr

structure ProcessedOnion where
  hopPayload : HopPayload
  nextPacket : OnionPacket
  sharedSecret : Bytes
  deriving DecidableEq, Repr

structure OnionError where
  message : String
  failureCode : Nat
  failureData : Bytes := []
  sharedSecret : Option Bytes := none
  deriving DecidableEq, Repr

def invalidOnionVersion : Nat := 0x8000 ||| 0x4000 ||| 4
def invalidOnionHmac : Nat := 0x8000 ||| 0x4000 ||| 5
def invalidOnionKey : Nat := 0x8000 ||| 0x4000 ||| 6
def invalidOnionPayload : Nat := 0x4000 ||| 22

def zeroHmac : Bytes := List.replicate 32 0

namespace SphinxPrimitives

variable (prim : SphinxPrimitives)

section Keys

def computeBlindingFactor (ephemeralKey sharedSecret : Bytes) : Bytes :=
  prim.sha256 (ephemeralKey ++ sharedSecret)

def generateKey (keyType secret : Bytes) : Bytes := prim.hmacSha256 keyType secret

variable (sharedSecret : Bytes) (sessionKey : Bytes)

def rho : Bytes := prim.generateKey [114, 104, 111] sharedSecret

def mu : Bytes := prim.generateKey [109, 117] sharedSecret

def pad : Bytes := prim.generateKey [112, 97, 100] sessionKey

def stream : Nat → Fin 256 := prim.chacha20 (prim.rho sharedSecret)

/-- The shared secret of each hop, the sender's key moving on with the ephemeral one. -/
def sharedSecrets : Bytes → Bytes → List Bytes → List Bytes
  | _, _, [] => []
  | currentKey, ephemeralPub, hop :: rest =>
    let sharedSecret := prim.ecdh currentKey hop
    let blindingFactor := prim.computeBlindingFactor ephemeralPub sharedSecret
    sharedSecret :: sharedSecrets (prim.privateMultiply currentKey blindingFactor)
      (prim.pointMultiply ephemeralPub blindingFactor) rest

def computeSharedSecrets (hops : List Bytes) : List Bytes :=
  prim.sharedSecrets sessionKey (prim.getPublicKey sessionKey) hops

end Keys

section Construction

/-- One turn of the loop of `generateFiller`. Where the filler has outgrown the routing info the stream is
    read before its start, and those bytes stay as they are. -/
def extendFiller (filler : Bytes) (sharedSecret : Bytes) (payloadSize : Nat) : Bytes :=
  let extended := filler ++ List.replicate (payloadSize + 32) 0
  let before := filler.length - routingInfoLength
  extended.take before ++ mask (prim.stream sharedSecret) (routingInfoLength - filler.length) (extended.drop before)

def fillerFrom (filler : Bytes) (hops : List (Bytes × Nat)) : Bytes :=
  hops.dropLast.foldl (fun filler hop => prim.extendFiller filler hop.1 hop.2) filler

def generateFiller (sharedSecrets : List Bytes) (payloadSizes : List Nat) : Bytes :=
  prim.fillerFrom [] (sharedSecrets.zip payloadSizes)

structure Layer where
  routingInfo : Bytes
  hmac : Bytes
  deriving DecidableEq, Repr

def layerHmac (sharedSecret routingInfo : Bytes) (associatedData : Option Bytes) : Bytes :=
  prim.hmacSha256 (prim.mu sharedSecret) (routingInfo ++ associatedData.getD [])

/-- `filler.copy(routingInfo, ROUTING_INFO_LENGTH - filler.length)`, which throws before the buffer. -/
def applyFiller (filler routingInfo : Bytes) : Except String Bytes :=
  if filler.length = 0 then .ok routingInfo
  else if routingInfoLength < filler.length then
    let received := (routingInfoLength : Int) - filler.length
    .error s!"The value of \"targetStart\" is out of range. It must be >= 0. Received {received}"
  else .ok (routingInfo.take (routingInfoLength - filler.length) ++ filler)

/-- One turn of the loop of `constructOnionPacket`; `filler` is given to the innermost hop only. A payload
    that leaves no room makes the copy of the routing info throw. -/
def wrapHop (associatedData : Option Bytes) (filler : Option Bytes) (sharedSecret payload : Bytes)
    (inner : Layer) : Except String Layer := do
  let shiftSize := payload.length + 32
  if routingInfoLength < shiftSize then
    let received := (routingInfoLength : Int) - shiftSize
    .error s!"The value of \"sourceEnd\" is out of range. It must be >= 0. Received {received}"
  else do
    let shifted := payload ++ inner.hmac ++ inner.routingInfo.take (routingInfoLength - shiftSize)
    let masked := mask (prim.stream sharedSecret) 0 shifted
    let routingInfo ← applyFiller (filler.getD []) masked
    return ⟨routingInfo, prim.layerHmac sharedSecret routingInfo associatedData⟩

def wrapHops (associatedData : Option Bytes) (filler padding : Bytes) : List (Bytes × Bytes) → Except String Layer
  | [] => .ok ⟨padding, zeroHmac⟩
  | (sharedSecret, payload) :: rest => do
    let inner ← wrapHops associatedData filler padding rest
    prim.wrapHop associatedData (if rest = [] then some filler else none) sharedSecret payload inner

structure Hop where
  pubkey : Bytes
  payload : HopPayload
  deriving DecidableEq, Repr

def constructOnionPacket (sessionKey : Bytes) (hops : List Hop) (associatedData : Option Bytes) :
    Except String OnionPacket := do
  if hops.length = 0 then .error "At least one hop is required"
  else if 20 < hops.length then .error "Too many hops (max 20)"
  else do
    let sharedSecrets := prim.computeSharedSecrets sessionKey (hops.map Hop.pubkey)
    let encodedPayloads ← hops.mapM fun hop => encodeHopPayload hop.payload
    let filler := prim.generateFiller sharedSecrets (encodedPayloads.map List.length)
    let padding := mask (prim.chacha20 (prim.pad sessionKey)) 0 (List.replicate routingInfoLength 0)
    let outer ← prim.wrapHops associatedData filler padding (sharedSecrets.zip encodedPayloads)
    return ⟨onionVersion, prim.getPublicKey sessionKey, outer.routingInfo, outer.hmac⟩

end Construction

section Processing

def payloadFailure (sharedSecret : Bytes) (error : PayloadError) : OnionError where
  message := error.message
  failureCode := invalidOnionPayload
  failureData := ((encodeBigSize error.tlvType).toOption.getD []) ++ writeBE 2 (min error.offset 0xffff)
  sharedSecret := some sharedSecret

def processOnionPacket (packet : OnionPacket) (nodePrivkey : Bytes) (associatedData : Option Bytes) :
    Except OnionError ProcessedOnion :=
  let version := packet.version
  let size := packet.routingInfo.length
  if version ≠ onionVersion then
    .error { message := s!"Invalid onion version: {version}", failureCode := invalidOnionVersion }
  else if size ≠ routingInfoLength then
    .error
      { message := s!"Payment onion routing info must be 1300 bytes, got {size}"
        failureCode := invalidOnionHmac }
  else if prim.isValidPublicKey packet.ephemeralKey = false then
    .error { message := "Onion ephemeral key is not a valid point", failureCode := invalidOnionKey }
  else
    let sharedSecret := prim.ecdh nodePrivkey packet.ephemeralKey
    if packet.hmac ≠ prim.layerHmac sharedSecret packet.routingInfo associatedData then
      .error { message := "HMAC verification failed", failureCode := invalidOnionHmac }
    else
      let extended := mask (prim.stream sharedSecret) 0
        (packet.routingInfo ++ List.replicate routingInfoLength 0)
      match decodeHopPayload extended 0 with
      | .error e => .error (payloadFailure sharedSecret e)
      | .ok ⟨hopPayload, bytesRead⟩ =>
        let blindingFactor := prim.computeBlindingFactor packet.ephemeralKey sharedSecret
        .ok
          { hopPayload := hopPayload
            nextPacket :=
              { version := onionVersion
                ephemeralKey := prim.pointMultiply packet.ephemeralKey blindingFactor
                routingInfo := slice extended (bytesRead + 32) routingInfoLength
                hmac := slice extended bytesRead 32 }
            sharedSecret := sharedSecret }

end Processing

end SphinxPrimitives

def isFinalHop (packet : OnionPacket) : Bool := packet.hmac = zeroHmac

end Beignet.Onion
