import Beignet.Invoice.Codec

namespace Beignet.Invoice

open Beignet.Data

variable {library : InvoiceLibrary} {tag : TagType} {piece : List Nat} {options : InvoiceCreationOptions} {now : Nat}
  {text : library.Text}

section Gathering

def Gathers (library : InvoiceLibrary) (piece : List Nat) (update : InvoiceFields → InvoiceFields) : Prop :=
  ∀ fields rest, readFields library fields (piece ++ rest) = readFields library (update fields) rest

theorem readField_number {words : List Nat} (fits : ∀ length ∈ tag.fixedLength, length = words.length)
    (fields : InvoiceFields) : readField library fields tag.number words = storeField library fields words tag := by
  have notSkipped : ¬ (tag.fixedLength.any (· ≠ words.length)) = true := by
    rw [Option.any_eq_true]
    rintro ⟨length, known, differs⟩
    exact of_decide_eq_true differs (fits length known)
  unfold readField
  rw [TagType.ofNumber_number]
  dsimp only
  rw [if_neg notSkipped]

theorem readFields_tagged {dataWords piece : List Nat} (encoded : encodeTaggedField tag.number dataWords = .ok piece)
    (fits : ∀ length ∈ tag.fixedLength, length = dataWords.length) (fields : InvoiceFields) (rest : List Nat) :
    readFields library fields (piece ++ rest) =
      (storeField library fields dataWords tag >>= fun next => readFields library next rest) := by
  have decoded := decodeTaggedField_encodeTaggedField encoded rest
  have nonempty : piece ++ rest ≠ [] := by
    rw [encodeTaggedField_eq_ok encoded]
    exact List.cons_ne_nil _ _
  rw [readFields, if_neg nonempty, ← readField_number fits]
  split
  · rename_i problem failed
    rw [decoded] at failed
    cases failed
  · rename_i field same
    rw [decoded] at same
    cases same
    dsimp only
    split
    · rename_i problem failed
      rw [failed]
      rfl
    · rename_i next read
      rw [read]
      rfl

theorem encodeSized_eq_ok {size : Nat} {problem : String} {data : Bytes} {piece : List Nat}
    (encoded : encodeSized tag size problem data = .ok piece) :
    data.length = size ∧ encodeTaggedField tag.number (bufferToWords data) = .ok piece := by
  unfold encodeSized at encoded
  split at encoded
  · cases encoded
  · rename_i sized
    exact ⟨not_not.mp sized, encoded⟩

namespace Gathers

theorem nil : Gathers library [] id := fun _ _ => rfl

theorem append {first second : List Nat} {update next : InvoiceFields → InvoiceFields}
    (gathers : Gathers library first update) (gathersNext : Gathers library second next) :
    Gathers library (first ++ second) (next ∘ update) := by
  intro fields rest
  rw [List.append_assoc, gathers, gathersNext]
  rfl

theorem tagged {tag : TagType} {dataWords piece : List Nat} {update : InvoiceFields → InvoiceFields}
    (encoded : encodeTaggedField tag.number dataWords = .ok piece)
    (fits : ∀ length ∈ tag.fixedLength, length = dataWords.length)
    (stored : ∀ fields, storeField library fields dataWords tag = .ok (update fields)) :
    Gathers library piece update := by
  intro fields rest
  rw [readFields_tagged encoded fits, stored]
  rfl

variable {α : Type} {given : Option α}

theorem optional {encodeField : α → Except String (List Nat)}
    {piece : List Nat} (put : Option α → InvoiceFields → InvoiceFields) (skip : put none = id)
    (read : ∀ value piece, encodeField value = .ok piece → Gathers library piece (put (some value)))
    (encoded : encodeOptional given encodeField = .ok piece) : Gathers library piece (put given) := by
  cases given with
  | none =>
    cases encoded
    rw [skip]
    exact nil
  | some value => exact read value piece encoded

theorem optionalTagged (library : InvoiceLibrary) {toWords : α → List Nat}
    (put : Option α → InvoiceFields → InvoiceFields) (skip : put none = id) (free : tag.fixedLength = none)
    (encoded : encodeOptional given (fun value => encodeTaggedField tag.number (toWords value)) = .ok piece)
    (stored : ∀ value fields, storeField library fields (toWords value) tag = .ok (put (some value) fields)) :
    Gathers library piece (put given) := by
  refine optional put skip (fun value piece wrote => ?_) encoded
  refine tagged wrote ?_ (stored value)
  rw [free]
  nofun

theorem optionalSized (library : InvoiceLibrary) {given : Option Bytes} {size : Nat} {problem : String}
    (put : Option Bytes → InvoiceFields → InvoiceFields) (skip : put none = id)
    (fixed : tag.fixedLength = some ((8 * size + 4) / 5))
    (encoded : encodeOptional given (encodeSized tag size problem) = .ok piece)
    (stored : ∀ data fields, data.length = size →
      storeField library fields (bufferToWords data) tag = .ok (put (some data) fields)) :
    Gathers library piece (put given) := by
  refine optional put skip (fun data piece wrote => ?_) encoded
  obtain ⟨sized, encoded⟩ := encodeSized_eq_ok wrote
  refine tagged encoded ?_ fun fields => stored data fields sized
  rw [fixed]
  rintro length ⟨⟩
  rw [length_bufferToWords, sized]

end Gathers

end Gathering

open Gathers (tagged optionalTagged optionalSized)

section Fields

variable {data : Bytes}

theorem decodeFixedLengthHash_bufferToWords {size : Nat} (sized : data.length = size) :
    decodeFixedLengthHash (bufferToWords data) size = .ok data := by
  unfold decodeFixedLengthHash
  rw [wordsToBuffer_bufferToWords]
  show (if data.length < size then _ else _) = _
  rw [if_neg (by omega)]
  show Except.ok (data.take size) = _
  rw [List.take_of_length_le (by omega)]

theorem decodePayeeNodeKey_bufferToWords (sized : data.length = 33) :
    decodePayeeNodeKey (bufferToWords data) = .ok data := by
  unfold decodePayeeNodeKey
  rw [wordsToBuffer_bufferToWords]
  show (if data.length < 33 then _ else _) = _
  rw [if_neg (by omega)]
  show Except.ok (data.take 33) = _
  rw [List.take_of_length_le (by omega)]

theorem decodeDescription_utf8 (text : String) : decodeDescription library (bufferToWords (utf8 text)) = .ok text := by
  unfold decodeDescription
  rw [wordsToBuffer_bufferToWords]
  show Except.ok (ofUtf8 library.replaced (utf8 text)) = _
  rw [ofUtf8_utf8]

theorem words_of_hash (sized : data.length = 32) : ∀ length ∈ some 52, length = (bufferToWords data).length := by
  rintro length known
  rw [length_bufferToWords, sized, ← Option.some.inj known]

theorem gathers_encodeRoutes {routes : List (List RoutingHintHop)} (encoded : encodeRoutes routes = .ok piece) :
    Gathers library piece fun fields => { fields with routingHints := fields.routingHints ++ routes } := by
  induction routes generalizing piece with
  | nil =>
    cases encoded
    intro fields rest
    simp
  | cons route others ih =>
    simp only [encodeRoutes, bind_eq_ok_iff] at encoded
    obtain ⟨info, wroteInfo, first, wroteFirst, rest, wroteRest, encoded⟩ := encoded
    cases encoded
    have head : Gathers library first fun fields => { fields with routingHints := fields.routingHints ++ [route] } := by
      apply tagged wroteFirst nofun
      intro fields
      show (decodeRoutingInfo info >>= _) = _
      rw [decodeRoutingInfo_encodeRoutingInfo wroteInfo]
      rfl
    intro fields after
    rw [(head.append (ih wroteRest)) fields after]
    simp

def blindedRead (library : InvoiceLibrary) (given : Option (List BlindedPaymentPath)) :
    Except String (Option (List BlindedPaymentPath)) :=
  match given with
  | none => .ok none
  | some entries =>
    if entries = [] then .ok none
    else do
      let bytes ← encodeInvoiceBlindedPaymentPaths entries
      let read ← decodeInvoiceBlindedPaymentPaths library.isValidPublicKey bytes
      return some read

theorem readFields_encodeBlinded {given : Option (List BlindedPaymentPath)}
    (encoded : encodeOptional given encodeBlinded = .ok piece) (fields : InvoiceFields) (rest : List Nat) :
    readFields library fields (piece ++ rest) = (blindedRead library given >>= fun read =>
        readFields library { fields with blindedPaths := read.or fields.blindedPaths } rest) := by
  cases given with
  | none =>
    cases encoded
    rfl
  | some entries =>
    replace encoded : encodeBlinded entries = .ok piece := encoded
    unfold encodeBlinded at encoded
    show _ = ((if entries = [] then _ else _) >>= _)
    split at encoded
    · rename_i empty
      cases encoded
      rw [if_pos empty]
      rfl
    · rename_i nonempty
      obtain ⟨bytes, wrote, tagged⟩ := bind_eq_ok_iff.mp encoded
      rw [if_neg nonempty, readFields_tagged tagged nofun, wrote]
      show ((wordsToBuffer (bufferToWords bytes) >>= _) >>= _) = _
      rw [wordsToBuffer_bufferToWords]
      show ((decodeInvoiceBlindedPaymentPaths library.isValidPublicKey bytes >>= _) >>= _) =
        ((decodeInvoiceBlindedPaymentPaths library.isValidPublicKey bytes >>= _) >>= _)
      cases decodeInvoiceBlindedPaymentPaths library.isValidPublicKey bytes <;> rfl

def InvoiceCreationOptions.gathered (options : InvoiceCreationOptions) (blinded : Option (List BlindedPaymentPath)) :
    InvoiceFields :=
  { paymentHash := some options.paymentHash
    paymentSecret := options.paymentSecret
    description := options.description
    descriptionHash := options.descriptionHash
    payeeNodeKey := options.payeeNodeKey
    expiry := options.expiry
    minFinalCltvExpiry := options.minFinalCltvExpiry
    fallbackAddress := options.fallbackAddress
    featureBits := options.featureBits
    metadata := options.metadata
    routingHints := options.routingHints.getD []
    blindedPaths := blinded
    unknownTags := [] }

theorem gathers_encodeDescription
    (single : ¬ (options.description.isSome = true ∧ options.descriptionHash.isSome = true))
    (encoded : encodeDescription options = .ok piece) : Gathers library piece fun fields => { fields with
        description := options.description.or fields.description
        descriptionHash := options.descriptionHash.or fields.descriptionHash } := by
  unfold encodeDescription at encoded
  cases described : options.description with
  | some text =>
    rw [described] at encoded single
    have noHash : options.descriptionHash = none := by
      cases hash : options.descriptionHash with
      | none => rfl
      | some value => exact absurd ⟨rfl, by rw [hash]; rfl⟩ single
    rw [noHash]
    apply tagged encoded nofun
    intro fields
    show (decodeDescription library (bufferToWords (utf8 text)) >>= _) = _
    rw [decodeDescription_utf8]
    rfl
  | none =>
    rw [described] at encoded
    refine optionalSized library (fun hash fields =>
      { fields with descriptionHash := hash.or fields.descriptionHash }) rfl rfl encoded ?_
    intro value fields sized
    show (decodeFixedLengthHash (bufferToWords value) 32 >>= _) = _
    rw [decodeFixedLengthHash_bufferToWords sized]
    rfl

theorem readFields_encodeFields {words : List Nat} (hashSized : options.paymentHash.length = 32)
    (single : ¬ (options.description.isSome = true ∧ options.descriptionHash.isSome = true))
    (encoded : encodeFields options = .ok words) : readFields library {} words =
      (blindedRead library options.blindedPaths >>= fun blinded => .ok (options.gathered blinded)) := by
  simp only [encodeFields, bind_eq_ok_iff] at encoded
  obtain ⟨paymentHash, wroteHash, paymentSecret, wroteSecret, description, wroteDescription, payee, wrotePayee,
    expiry, wroteExpiry, cltv, wroteCltv, features, wroteFeatures, fallback, wroteFallback, routes, wroteRoutes,
    blinded, wroteBlinded, metadata, wroteMetadata, encoded⟩ := encoded
  cases encoded
  have readHash : Gathers library paymentHash fun fields =>
      { fields with paymentHash := some options.paymentHash } := by
    apply tagged wroteHash (words_of_hash hashSized)
    intro fields
    show (decodeFixedLengthHash (bufferToWords options.paymentHash) 32 >>= _) = _
    rw [decodeFixedLengthHash_bufferToWords hashSized]
    rfl
  have readSecret := optionalSized library
    (fun given fields => { fields with paymentSecret := given.or fields.paymentSecret }) rfl rfl wroteSecret <| by
      intro value fields sized
      show (decodeFixedLengthHash (bufferToWords value) 32 >>= _) = _
      rw [decodeFixedLengthHash_bufferToWords sized]
      rfl
  have readPayee := optionalSized library
    (fun given fields => { fields with payeeNodeKey := given.or fields.payeeNodeKey }) rfl rfl wrotePayee <| by
      intro value fields sized
      show (decodePayeeNodeKey (bufferToWords value) >>= _) = _
      rw [decodePayeeNodeKey_bufferToWords sized]
      rfl
  have readExpiry := optionalTagged library
    (fun given fields => { fields with expiry := given.or fields.expiry }) rfl rfl wroteExpiry <| by
      intro value fields
      show Except.ok { fields with expiry := some (decodeUintFromWords (encodeVarInt value)) } = _
      rw [decodeUintFromWords_encodeVarInt]
      rfl
  have readCltv := optionalTagged library
    (fun given fields => { fields with minFinalCltvExpiry := given.or fields.minFinalCltvExpiry }) rfl rfl wroteCltv <| by
      intro value fields
      show Except.ok { fields with minFinalCltvExpiry := some (decodeUintFromWords (encodeVarInt value)) } = _
      rw [decodeUintFromWords_encodeVarInt]
      rfl
  have readFeatures := optionalTagged library
    (fun given fields => { fields with featureBits := given.or fields.featureBits }) rfl rfl wroteFeatures <| by
      intro value fields
      show Except.ok { fields with featureBits := some (decodeFeatureBits (encodeFeatureBits value)) } = _
      rw [decodeFeatureBits_encodeFeatureBits]
      rfl
  have readFallback := optionalTagged library
    (fun given fields => { fields with fallbackAddress := given.or fields.fallbackAddress }) rfl rfl wroteFallback <| by
      intro value fields
      show (decodeFallbackAddress (encodeFallbackAddress value) >>= _) = _
      rw [decodeFallbackAddress_encodeFallbackAddress]
      rfl
  have readRoutes : Gathers library routes fun fields =>
      { fields with routingHints := fields.routingHints ++ options.routingHints.getD [] } := by
    refine Gathers.optional (fun given fields =>
      { fields with routingHints := fields.routingHints ++ given.getD [] }) ?_ ?_ wroteRoutes
    · funext fields
      show { fields with routingHints := fields.routingHints ++ [] } = fields
      rw [List.append_nil]
    · intro value piece wrote
      exact gathers_encodeRoutes wrote
  have readMetadata := optionalTagged library
    (fun given fields => { fields with metadata := given.or fields.metadata }) rfl rfl wroteMetadata <| by
      intro value fields
      show (wordsToBuffer (bufferToWords value) >>= _) = _
      rw [wordsToBuffer_bufferToWords]
      rfl
  rw [readHash, readSecret, gathers_encodeDescription single wroteDescription, readPayee, readExpiry, readCltv,
    readFeatures, readFallback, readRoutes, readFields_encodeBlinded wroteBlinded]
  congr 1
  funext read
  rw [← List.append_nil metadata, readMetadata, readFields, if_pos rfl]
  simp only [Option.or_none, List.nil_append]
  rfl

end Fields

section Envelope

theorem verifyInvoice_signInvoice (lawful : library.Lawful) {hrp : List Char} {dataWords : List Nat}
    {privateKey signature : Bytes} (signed : library.signInvoice hrp dataWords privateKey = .ok signature) :
    signature.length = 65 ∧
      library.verifyInvoice hrp dataWords signature = some (library.getPublicKey privateKey) := by
  unfold InvoiceLibrary.signInvoice at signed
  obtain ⟨⟨bytes, recovery⟩, wrote, signed⟩ := bind_eq_ok_iff.mp signed
  cases signed
  obtain ⟨size, small, recovers⟩ := lawful.signed _ _ _ _ wrote
  constructor
  · rw [List.length_append, size]
    rfl
  · unfold InvoiceLibrary.verifyInvoice
    rw [List.drop_left' size, List.take_left' size]
    dsimp only
    rw [if_neg (by omega), recovers]

def InvoiceCreationOptions.invoice (options : InvoiceCreationOptions) (now : Nat) (signature signer : Bytes)
    (blinded : Option (List BlindedPaymentPath)) : DecodedInvoice :=
  { network := options.network
    amountMsat := options.amountMsat.map Int.toNat
    timestamp := options.timestamp.getD now % 32 ^ timestampWords
    paymentHash := options.paymentHash
    paymentSecret := options.paymentSecret
    description := options.description
    descriptionHash := options.descriptionHash
    payeeNodeKey := options.payeeNodeKey
    expiry := options.expiry
    minFinalCltvExpiry := options.minFinalCltvExpiry
    fallbackAddress := options.fallbackAddress
    routingHints := if options.routingHints.getD [] = [] then none else some (options.routingHints.getD [])
    blindedPaths := blinded.filter (· ≠ [])
    featureBits := options.featureBits
    metadata := options.metadata
    signature := signature
    recoveredPubkey := some signer
    unknownTags := none }

theorem finishInvoice_gathered {network : Network} {amountMsat : Option Nat} {timestamp : Nat}
    {signature signer : Bytes} (payee : ∀ key ∈ options.payeeNodeKey, key = signer)
    (single : ¬ (options.description.isSome = true ∧ options.descriptionHash.isSome = true))
    (described : ¬ (options.description.isNone = true ∧ options.descriptionHash.isNone = true))
    (blinded : Option (List BlindedPaymentPath)) :
    finishInvoice network amountMsat timestamp signature (some signer) (options.gathered blinded) =
      .ok { options.invoice 0 signature signer blinded with
            network := network, amountMsat := amountMsat, timestamp := timestamp } := by
  have matched : ¬ ((some signer).any fun key => options.payeeNodeKey.any (· ≠ key)) = true := by
    rw [Option.any_some, Option.any_eq_true]
    rintro ⟨key, given, differs⟩
    exact of_decide_eq_true differs (payee key given)
  unfold finishInvoice InvoiceCreationOptions.gathered
  dsimp only
  rw [if_neg matched, if_neg single, if_neg described]
  rfl

theorem encode_eq_ok (encoded : encode library options now = .ok text) :
    ∃ hrp fields signature, options.paymentHash.length = 32 ∧
      ¬ (options.description.isSome = true ∧ options.descriptionHash.isSome = true) ∧
      ¬ (options.description.isNone = true ∧ options.descriptionHash.isNone = true) ∧
      buildHrp options.network options.amountMsat = .ok hrp ∧ encodeFields options = .ok fields ∧
      library.signInvoice hrp (encodeUintToWords (options.timestamp.getD now) timestampWords ++ fields)
        options.privateKey = .ok signature ∧
      library.bech32Encode hrp (encodeUintToWords (options.timestamp.getD now) timestampWords ++ fields ++
        bufferToWords signature) = .ok text := by
  unfold encode at encoded
  split at encoded
  · cases encoded
  split at encoded
  · cases encoded
  split at encoded
  · cases encoded
  rename_i hashSized single described
  obtain ⟨hrp, built, encoded⟩ := bind_eq_ok_iff.mp encoded
  obtain ⟨fields, wroteFields, encoded⟩ := bind_eq_ok_iff.mp encoded
  obtain ⟨signature, signed, encoded⟩ := bind_eq_ok_iff.mp encoded
  exact ⟨hrp, fields, signature, not_not.mp hashSized, single, described, built, wroteFields, signed, encoded⟩

theorem decode_encode (lawful : library.Lawful) (payee : ∀ key ∈ options.payeeNodeKey,
    key = library.getPublicKey options.privateKey) (encoded : encode library options now = .ok text) :
    ∃ signature, decode library text = (blindedRead library options.blindedPaths >>= fun blinded =>
      .ok (options.invoice now signature (library.getPublicKey options.privateKey) blinded)) := by
  obtain ⟨hrp, fields, signature, hashSized, single, described, built, wroteFields, signed, encoded⟩ :=
    encode_eq_ok encoded
  obtain ⟨size, recovered⟩ := verifyInvoice_signInvoice lawful signed
  have sigLength : (bufferToWords signature).length = signatureWords := by
    rw [length_bufferToWords, size]
    rfl
  have timeLength := length_encodeUintToWords (options.timestamp.getD now) timestampWords
  have time := decodeUintFromWords_encodeUintToWords (options.timestamp.getD now) timestampWords
  have read : readFields library {} fields = _ := readFields_encodeFields hashSized single wroteFields
  generalize encodeUintToWords (options.timestamp.getD now) timestampWords = timeWords at *
  have start : (timeWords ++ fields ++ bufferToWords signature).length - signatureWords =
      (timeWords ++ fields).length := by
    rw [List.length_append, sigLength]
    omega
  have enough : ¬ (timeWords ++ fields ++ bufferToWords signature).length < timestampWords + signatureWords := by
    rw [List.length_append, List.length_append, sigLength, timeLength]
    omega
  refine ⟨signature, ?_⟩
  unfold decode
  rw [lawful.bech32 _ _ _ encoded]
  show (parseHrp hrp >>= _) = _
  rw [parseHrp_buildHrp built]
  show (if _ < timestampWords + signatureWords then _ else _) = _
  rw [if_neg enough, start, List.drop_left, List.take_left, wordsToBuffer_bufferToWords, List.append_assoc,
    List.take_left' timeLength, List.drop_left' timeLength, time]
  show (recoverInvoiceSigner library true hrp (timeWords ++ fields) (signature.take 65) >>= _) = _
  rw [List.take_of_length_le (by omega), recoverInvoiceSigner, recovered]
  show (readFields library {} fields >>= _) = _
  rw [read]
  cases blindedRead library options.blindedPaths with
  | error problem => rfl
  | ok blinded =>
    show finishInvoice _ _ _ _ _ (options.gathered blinded) = _
    rw [finishInvoice_gathered payee single described]
    rfl

end Envelope

section ReadBack

structure ReadBack (library : InvoiceLibrary) (options : InvoiceCreationOptions) (now : Nat) (invoice : DecodedInvoice) :
    Prop where
  network : invoice.network = options.network
  amountMsat : invoice.amountMsat.map Int.ofNat = options.amountMsat
  timestamp : invoice.timestamp = options.timestamp.getD now
  paymentHash : invoice.paymentHash = options.paymentHash
  paymentSecret : invoice.paymentSecret = options.paymentSecret
  description : invoice.description = options.description
  descriptionHash : invoice.descriptionHash = options.descriptionHash
  payeeNodeKey : invoice.payeeNodeKey = options.payeeNodeKey
  expiry : invoice.expiry = options.expiry
  minFinalCltvExpiry : invoice.minFinalCltvExpiry = options.minFinalCltvExpiry
  featureBits : invoice.featureBits = options.featureBits
  fallbackAddress : invoice.fallbackAddress = options.fallbackAddress
  metadata : invoice.metadata = options.metadata
  routingHints : invoice.routingHints = options.routingHints.filter (· ≠ [])
  unknownTags : invoice.unknownTags = none
  recoveredPubkey : invoice.recoveredPubkey = some (library.getPublicKey options.privateKey)

def InvoiceCreationOptions.blindedReadable (library : InvoiceLibrary) (options : InvoiceCreationOptions) : Bool :=
  options.blindedPaths.all fun entries => entries = [] ∨ blindedPathsReadable library.isValidPublicKey entries

theorem blindedRead_isOk : (∃ blinded, blindedRead library options.blindedPaths = .ok blinded) ↔
    options.blindedReadable library = true := by
  unfold InvoiceCreationOptions.blindedReadable
  cases options.blindedPaths with
  | none => exact ⟨fun _ => rfl, fun _ => ⟨none, rfl⟩⟩
  | some entries =>
    rw [Option.all_some, decide_eq_true_eq]
    unfold blindedRead
    dsimp only
    by_cases empty : entries = []
    · rw [if_pos empty]
      exact ⟨fun _ => .inl empty, fun _ => ⟨none, rfl⟩⟩
    · rw [if_neg empty, or_iff_right empty]
      unfold blindedPathsReadable
      cases encodeInvoiceBlindedPaymentPaths entries with
      | error problem =>
        constructor
        · rintro ⟨_, read⟩
          cases read
        · intro read
          cases read
      | ok bytes =>
        show (∃ blinded, (decodeInvoiceBlindedPaymentPaths library.isValidPublicKey bytes >>= _) = _) ↔
          (decodeInvoiceBlindedPaymentPaths library.isValidPublicKey bytes).isOk = true
        cases decodeInvoiceBlindedPaymentPaths library.isValidPublicKey bytes with
        | error problem =>
        constructor
        · rintro ⟨_, read⟩
          cases read
        · intro read
          cases read
        | ok read => exact ⟨fun _ => rfl, fun _ => ⟨some read, rfl⟩⟩

theorem amount_of_encode (encoded : encode library options now = .ok text) :
    (options.amountMsat.map Int.toNat).map Int.ofNat = options.amountMsat := by
  obtain ⟨hrp, _, _, _, _, _, built, _⟩ := encode_eq_ok encoded
  cases given : options.amountMsat with
  | none => rfl
  | some amount =>
    rw [given] at built
    have positive : 0 < amount := by
      by_contra negative
      have refused : msatToHrpAmount amount = .error "Amount must be positive" := if_pos (by omega)
      simp [buildHrp, refused, Except.map] at built
    show some ((amount.toNat : Nat) : Int) = some amount
    rw [Int.toNat_of_nonneg (by omega)]

theorem readBack_invoice (encoded : encode library options now = .ok text) (signature : Bytes)
    (blinded : Option (List BlindedPaymentPath)) :
    ReadBack library options now (options.invoice now signature (library.getPublicKey options.privateKey) blinded) ↔
      options.timestamp.getD now < 2 ^ 35 := by
  constructor
  · intro readBack
    have same : options.timestamp.getD now % 32 ^ timestampWords = options.timestamp.getD now := readBack.timestamp
    rw [← same]
    exact Nat.mod_lt _ (by decide)
  · intro fits
    have hints : (if options.routingHints.getD [] = [] then none else some (options.routingHints.getD [])) =
        options.routingHints.filter (· ≠ []) := by
      cases options.routingHints with
      | none => rfl
      | some routes => cases routes <;> rfl
    exact
      { network := rfl
        amountMsat := amount_of_encode encoded
        timestamp := Nat.mod_eq_of_lt fits
        paymentHash := rfl
        paymentSecret := rfl
        description := rfl
        descriptionHash := rfl
        payeeNodeKey := rfl
        expiry := rfl
        minFinalCltvExpiry := rfl
        featureBits := rfl
        fallbackAddress := rfl
        metadata := rfl
        routingHints := hints
        unknownTags := rfl
        recoveredPubkey := rfl }

end ReadBack

section Samples

def plainLibrary : InvoiceLibrary where
  Text := List Char × List Nat
  bech32Encode hrp words := .ok (hrp, words)
  bech32Decode text := .ok text
  sha256 bytes := bytes
  signSync _ _ := .ok (List.replicate 64 0, 0)
  recoverPublicKey _ _ _ := some (2 :: List.replicate 32 0)
  getPublicKey _ := 2 :: List.replicate 32 0
  isValidPublicKey _ := true
  replaced _ := ""

theorem lawful_plainLibrary : plainLibrary.Lawful where
  bech32 := by
    intro hrp words text encoded
    cases encoded
    rfl
  signed := by
    intro hash key signature recovery signed
    cases signed
    exact ⟨by decide, by decide, rfl⟩

def plainOptions (timestamp : Nat) (blindedPaths : Option (List BlindedPaymentPath)) : InvoiceCreationOptions where
  network := .mainnet
  amountMsat := some 1000
  timestamp := some timestamp
  paymentHash := List.replicate 32 7
  paymentSecret := none
  description := some ""
  descriptionHash := none
  expiry := none
  minFinalCltvExpiry := none
  fallbackAddress := none
  routingHints := none
  blindedPaths := blindedPaths
  featureBits := none
  metadata := none
  payeeNodeKey := none
  privateKey := List.replicate 32 1

def noHops : BlindedPaymentPath where
  path := ⟨2 :: List.replicate 32 0, 2 :: List.replicate 32 0, []⟩
  payInfo := ⟨0, 0, 0, 0, 0, none⟩

theorem payee_plainOptions (timestamp : Nat) (blindedPaths : Option (List BlindedPaymentPath)) :
    ∀ key ∈ (plainOptions timestamp blindedPaths).payeeNodeKey,
      key = plainLibrary.getPublicKey (plainOptions timestamp blindedPaths).privateKey := by
  intro key given
  cases given

theorem encode_plainOptions {timestamp : Nat} {blindedPaths : Option (List BlindedPaymentPath)}
    (encodes : (encodeFields (plainOptions timestamp blindedPaths)).isOk = true) :
    ∃ text, encode plainLibrary (plainOptions timestamp blindedPaths) 0 = .ok text := by
  have hrp : ∃ hrp, buildHrp Network.mainnet (some 1000) = .ok hrp := ⟨_, rfl⟩
  obtain ⟨hrp, built⟩ := hrp
  cases encoded : encodeFields (plainOptions timestamp blindedPaths) with
  | error problem =>
    rw [encoded] at encodes
    cases encodes
  | ok fields =>
    unfold encode
    rw [if_neg (by simp [plainOptions]), if_neg (by simp [plainOptions]), if_neg (by simp [plainOptions]), encoded]
    show ∃ text, (buildHrp Network.mainnet (some 1000) >>= _) = _
    rw [built]
    exact ⟨_, rfl⟩

end Samples

end Beignet.Invoice
