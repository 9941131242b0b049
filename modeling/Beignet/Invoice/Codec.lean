import Beignet.Invoice.BlindedPaths

namespace Beignet.Invoice

open Beignet.Data

section Signing

/-- The libraries: bech32 texts, the hash, recoverable signatures and points. -/
structure InvoiceLibrary where
  Text : Type
  bech32Encode : List Char → List Nat → Except String Text
  bech32Decode : Text → Except String (List Char × List Nat)
  sha256 : Bytes → Bytes
  signSync : Bytes → Bytes → Except String (Bytes × Fin 256)
  recoverPublicKey : Bytes → Bytes → Fin 256 → Option Bytes
  getPublicKey : Bytes → Bytes
  isValidPublicKey : Bytes → Bool
  replaced : Bytes → String

structure InvoiceLibrary.Lawful (library : InvoiceLibrary) : Prop where
  bech32 : ∀ hrp words text, library.bech32Encode hrp words = .ok text → library.bech32Decode text = .ok (hrp, words)
  signed : ∀ hash key signature recovery, library.signSync hash key = .ok (signature, recovery) →
    signature.length = 64 ∧ recovery.val ≤ 3 ∧
      library.recoverPublicKey hash signature recovery = some (library.getPublicKey key)

def signingBytesLoop : List Nat → Nat → Nat → Bytes
  | [], value, bits => if bits > 0 then [Fin.ofNat 256 (value * 2 ^ (8 - bits))] else []
  | word :: rest, value, bits =>
    let shifted := (value * 32 ||| word) % 2 ^ 32
    if bits + 5 ≥ 8 then Fin.ofNat 256 (shifted / 2 ^ (bits + 5 - 8)) :: signingBytesLoop rest shifted (bits + 5 - 8)
    else signingBytesLoop rest shifted (bits + 5)

def wordsToSigningBytes (words : List Nat) : Bytes := signingBytesLoop words 0 0

namespace InvoiceLibrary

variable (library : InvoiceLibrary) (hrp : List Char) (dataWords : List Nat)

def computeSigningHash : Bytes :=
  library.sha256 (utf8 (String.ofList hrp) ++ wordsToSigningBytes dataWords)

def signInvoice (privateKey : Bytes) : Except String Bytes := do
  let (signature, recovery) ← library.signSync (library.computeSigningHash hrp dataWords) privateKey
  return signature ++ [recovery]

def verifyInvoice (signature : Bytes) : Option Bytes :=
  match signature.drop 64 with
  | [recovery] =>
    if recovery.val > 3 then none
    else library.recoverPublicKey (library.computeSigningHash hrp dataWords) (signature.take 64) recovery
  | _ => none

end InvoiceLibrary

end Signing

section Encoding

def timestampWords : Nat := 7

def signatureWords : Nat := 104

structure InvoiceCreationOptions where
  network : Network
  amountMsat : Option Int
  timestamp : Option Nat
  paymentHash : Bytes
  paymentSecret : Option Bytes
  description : Option String
  descriptionHash : Option Bytes
  expiry : Option Nat
  minFinalCltvExpiry : Option Nat
  fallbackAddress : Option FallbackAddress
  routingHints : Option (List (List RoutingHintHop))
  blindedPaths : Option (List BlindedPaymentPath)
  featureBits : Option FeatureFlags
  metadata : Option Bytes
  payeeNodeKey : Option Bytes
  privateKey : Bytes

def encodeSized (tag : TagType) (size : Nat) (problem : String) (data : Bytes) : Except String (List Nat) := do
  if data.length ≠ size then throw problem
  encodeTaggedField tag.number (bufferToWords data)

def encodeOptional {α : Type} (given : Option α) (encodeField : α → Except String (List Nat)) :
    Except String (List Nat) :=
  match given with
  | none => return []
  | some value => encodeField value

def encodeRoutes : List (List RoutingHintHop) → Except String (List Nat)
  | [] => return []
  | route :: rest => do
    let info ← encodeRoutingInfo route
    let first ← encodeTaggedField TagType.routingInfo.number info
    let others ← encodeRoutes rest
    return first ++ others

def encodeBlinded (entries : List BlindedPaymentPath) : Except String (List Nat) :=
  if entries = [] then return []
  else do
    let bytes ← encodeInvoiceBlindedPaymentPaths entries
    encodeTaggedField TagType.blindedPaths.number (bufferToWords bytes)

variable (library : InvoiceLibrary) (options : InvoiceCreationOptions)

def encodeDescription : Except String (List Nat) :=
  match options.description with
  | some description => encodeTaggedField TagType.description.number (bufferToWords (utf8 description))
  | none => encodeOptional options.descriptionHash
      (encodeSized .descriptionHash 32 "descriptionHash must be 32 bytes")

def encodeFields : Except String (List Nat) := do
  let paymentHash ← encodeTaggedField TagType.paymentHash.number (bufferToWords options.paymentHash)
  let paymentSecret ← encodeOptional options.paymentSecret
    (encodeSized .paymentSecret 32 "paymentSecret must be 32 bytes")
  let description ← encodeDescription options
  let payee ← encodeOptional options.payeeNodeKey (encodeSized .payeePubkey 33 "payeeNodeKey must be 33 bytes")
  let expiry ← encodeOptional options.expiry fun value => encodeTaggedField TagType.expiry.number (encodeVarInt value)
  let cltv ← encodeOptional options.minFinalCltvExpiry fun value =>
    encodeTaggedField TagType.minFinalCltvExpiry.number (encodeVarInt value)
  let features ← encodeOptional options.featureBits fun value =>
    encodeTaggedField TagType.featureBits.number (encodeFeatureBits value)
  let fallback ← encodeOptional options.fallbackAddress fun value =>
    encodeTaggedField TagType.fallbackAddress.number (encodeFallbackAddress value)
  let routes ← encodeOptional options.routingHints encodeRoutes
  let blinded ← encodeOptional options.blindedPaths encodeBlinded
  let metadata ← encodeOptional options.metadata fun value =>
    encodeTaggedField TagType.metadata.number (bufferToWords value)
  return paymentHash ++ (paymentSecret ++ (description ++ (payee ++ (expiry ++ (cltv ++ (features ++ (fallback ++
    (routes ++ (blinded ++ metadata)))))))))

def encode (now : Nat) : Except String library.Text :=
  if options.paymentHash.length ≠ 32 then .error "paymentHash must be 32 bytes"
  else if options.description.isSome ∧ options.descriptionHash.isSome then
    .error "Cannot specify both description and descriptionHash"
  else if options.description.isNone ∧ options.descriptionHash.isNone then
    .error "Must specify either description or descriptionHash"
  else do
    let hrp ← buildHrp options.network options.amountMsat
    let fields ← encodeFields options
    let dataWords := encodeUintToWords (options.timestamp.getD now) timestampWords ++ fields
    let signature ← library.signInvoice hrp dataWords options.privateKey
    library.bech32Encode hrp (dataWords ++ bufferToWords signature)

end Encoding

section Decoding

structure InvoiceFields where
  paymentHash : Option Bytes := none
  paymentSecret : Option Bytes := none
  description : Option String := none
  descriptionHash : Option Bytes := none
  payeeNodeKey : Option Bytes := none
  expiry : Option Nat := none
  minFinalCltvExpiry : Option Nat := none
  fallbackAddress : Option FallbackAddress := none
  featureBits : Option FeatureFlags := none
  metadata : Option Bytes := none
  routingHints : List (List RoutingHintHop) := []
  blindedPaths : Option (List BlindedPaymentPath) := none
  unknownTags : List (Nat × List Nat) := []

structure DecodedInvoice where
  network : Network
  amountMsat : Option Nat
  timestamp : Nat
  paymentHash : Bytes
  paymentSecret : Option Bytes
  description : Option String
  descriptionHash : Option Bytes
  payeeNodeKey : Option Bytes
  expiry : Option Nat
  minFinalCltvExpiry : Option Nat
  fallbackAddress : Option FallbackAddress
  routingHints : Option (List (List RoutingHintHop))
  blindedPaths : Option (List BlindedPaymentPath)
  featureBits : Option FeatureFlags
  metadata : Option Bytes
  signature : Bytes
  recoveredPubkey : Option Bytes
  unknownTags : Option (List (Nat × List Nat))

def decodeFixedLengthHash (words : List Nat) (expectedBytes : Nat) : Except String Bytes := do
  let buf ← wordsToBuffer words
  let got := buf.length
  if got < expectedBytes then throw s!"Expected {expectedBytes} bytes, got {got}"
  return buf.take expectedBytes

def decodePayeeNodeKey (words : List Nat) : Except String Bytes := do
  let buf ← wordsToBuffer words
  let got := buf.length
  if got < 33 then throw s!"Expected 33-byte pubkey, got {got}"
  return buf.take 33

variable (library : InvoiceLibrary) (fields : InvoiceFields)

def decodeDescription (words : List Nat) : Except String String := do
  let buf ← wordsToBuffer words
  return ofUtf8 library.replaced buf

def storeField (words : List Nat) : TagType → Except String InvoiceFields
  | .paymentHash => do
    let value ← decodeFixedLengthHash words 32
    return { fields with paymentHash := some value }
  | .paymentSecret => do
    let value ← decodeFixedLengthHash words 32
    return { fields with paymentSecret := some value }
  | .description => do
    let value ← decodeDescription library words
    return { fields with description := some value }
  | .descriptionHash => do
    let value ← decodeFixedLengthHash words 32
    return { fields with descriptionHash := some value }
  | .payeePubkey => do
    let value ← decodePayeeNodeKey words
    return { fields with payeeNodeKey := some value }
  | .expiry => return { fields with expiry := some (decodeUintFromWords words) }
  | .minFinalCltvExpiry => return { fields with minFinalCltvExpiry := some (decodeUintFromWords words) }
  | .fallbackAddress => do
    let value ← decodeFallbackAddress words
    return { fields with fallbackAddress := some value }
  | .routingInfo => do
    let value ← decodeRoutingInfo words
    return { fields with routingHints := fields.routingHints ++ [value] }
  | .featureBits => return { fields with featureBits := some (decodeFeatureBits words) }
  | .metadata => do
    let value ← wordsToBuffer words
    return { fields with metadata := some value }
  | .blindedPaths => do
    let buf ← wordsToBuffer words
    let value ← decodeInvoiceBlindedPaymentPaths library.isValidPublicKey buf
    return { fields with blindedPaths := some value }

def readField (type : Nat) (words : List Nat) : Except String InvoiceFields :=
  let unknown := { fields with unknownTags := fields.unknownTags ++ [(type, words)] }
  match TagType.ofNumber type with
  | none => return unknown
  | some tag => if tag.fixedLength.any (· ≠ words.length) then return unknown else storeField library fields words tag

theorem decodeTaggedField_shrinks {words : List Nat} {field : TaggedField}
    (decoded : decodeTaggedField words = .ok field) : field.rest.length < words.length := by
  unfold decodeTaggedField at decoded
  split at decoded
  · dsimp only at decoded
    split at decoded
    · cases decoded
    · cases decoded
      simp
      omega
  · cases decoded

def readFields (fields : InvoiceFields) (words : List Nat) : Except String InvoiceFields :=
  if words = [] then return fields
  else
    match _ : decodeTaggedField words with
    | .error problem => .error problem
    | .ok field =>
      match readField library fields field.type field.dataWords with
      | .error problem => .error problem
      | .ok next => readFields next field.rest
termination_by words.length
decreasing_by exact decodeTaggedField_shrinks (by assumption)

def finishInvoice (network : Network) (amountMsat : Option Nat) (timestamp : Nat) (signature : Bytes)
    (recoveredPubkey : Option Bytes) (fields : InvoiceFields) : Except String DecodedInvoice :=
  match fields.paymentHash with
  | none => .error "Invoice missing required payment_hash (tag 1)"
  | some paymentHash =>
    if recoveredPubkey.any (fun key => fields.payeeNodeKey.any (· ≠ key)) then
      .error "Invoice signature does not match the payee node id (n field)"
    else if fields.description.isSome ∧ fields.descriptionHash.isSome then
      .error "Invoice has both description and description_hash"
    else if fields.description.isNone ∧ fields.descriptionHash.isNone then
      .error "Invoice missing description or description_hash"
    else .ok
      { network := network
        amountMsat := amountMsat
        timestamp := timestamp
        paymentHash := paymentHash
        paymentSecret := fields.paymentSecret
        description := fields.description
        descriptionHash := fields.descriptionHash
        payeeNodeKey := fields.payeeNodeKey
        expiry := fields.expiry
        minFinalCltvExpiry := fields.minFinalCltvExpiry
        fallbackAddress := fields.fallbackAddress
        routingHints := if fields.routingHints = [] then none else some fields.routingHints
        blindedPaths := fields.blindedPaths.filter (· ≠ [])
        featureBits := fields.featureBits
        metadata := fields.metadata
        signature := signature
        recoveredPubkey := recoveredPubkey
        unknownTags := if fields.unknownTags = [] then none else some fields.unknownTags }

def recoverInvoiceSigner (recoverSigner : Bool) (hrp : List Char) (dataWords : List Nat) (signature : Bytes) :
    Except String (Option Bytes) :=
  if recoverSigner = false then .ok none
  else
    match library.verifyInvoice hrp dataWords signature with
    | none => .error "Invoice signature is not recoverable"
    | some key => .ok (some key)

def decode (text : library.Text) (recoverSigner : Bool := true) : Except String DecodedInvoice := do
  let (hrp, words) ← library.bech32Decode text
  let (network, amountMsat) ← parseHrp hrp
  let count := words.length
  let needed := timestampWords + signatureWords
  if count < needed then .error s!"Invoice too short: {count} words (need at least {needed})"
  else
    let timestamp := decodeUintFromWords (words.take timestampWords)
    let dataWords := words.take (count - signatureWords)
    let sigBytes ← wordsToBuffer (words.drop (count - signatureWords))
    let signature := sigBytes.take 65
    let recoveredPubkey ← recoverInvoiceSigner library recoverSigner hrp dataWords signature
    let fields ← readFields library {} (dataWords.drop timestampWords)
    finishInvoice network amountMsat timestamp signature recoveredPubkey fields

end Decoding

end Beignet.Invoice
