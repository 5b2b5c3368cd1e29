import Envoix.Protocol.ManifestForest

/-! # The Offer wire format

Model of the codec half of `envoix-protocol/src/manifest_v2.rs`.  The wire carries the full
component path of every entry below its root; the struct carries parent ids.  The encoder
rebuilds the paths in one forward pass, the decoder finds each parent again by its path.
-/

namespace Envoix.Protocol

open ByteCodec Fallible

/-! ## Tags -/

inductive ManifestV2FrameType where
  | offer
  | accept
  | entryStart
  | entryContentDigest
  | entryBlock
  | entryComplete
  | entryResult
  | jobComplete
  | deliveryProof
  | resumeRequest
  | resumeStatus
  | cancel
  | error
deriving DecidableEq

/-- The discriminants of `#[repr(u16)]`. -/
def ManifestV2FrameType.code : ManifestV2FrameType → UInt16
  | .offer => 1
  | .accept => 2
  | .entryStart => 3
  | .entryContentDigest => 4
  | .entryBlock => 5
  | .entryComplete => 6
  | .entryResult => 7
  | .jobComplete => 8
  | .deliveryProof => 9
  | .resumeRequest => 10
  | .resumeStatus => 11
  | .cancel => 12
  | .error => 13

inductive ManifestV2CodecError where
  | validation (error : ManifestV2ValidationError)
  | encodedOfferTooLarge
  | truncated
  | badMagic
  | unsupportedVersion (version : UInt16)
  | unexpectedFrameType (frameType : UInt16)
  | lengthMismatch
  | structuralDigestMismatch
  | unknownCompressionPolicy (tag : UInt8)
  | unknownEntryKind (tag : UInt8)
  | unknownCompleteness (tag : UInt8)
  | unknownDigestTag (tag : UInt8)
  | rootCountTooLarge (count : Nat)
  | entryCountTooLarge (count : Nat)
  | componentTooLarge (length : Nat)
  | pathDepthTooLarge (depth : Nat)
  | pathBytesTooLarge (bytes : Nat)
  | unknownRootInWire (rootId : UInt32)
  | missingWireParent (entryId : UInt32)
  | duplicateWirePath (entryId : UInt32)
  | invalidUtf8
  | trailingBytes
deriving DecidableEq

/-- The `Display` text of a codec error. -/
def ManifestV2CodecError.text : ManifestV2CodecError → String
  | .validation error => "manifest validation failed: " ++ error.text
  | .encodedOfferTooLarge => "encoded offer exceeds its fixed budget"
  | .truncated => "encoded offer is truncated"
  | .badMagic => "offer magic is invalid"
  | .unsupportedVersion version => s!"unsupported protocol version {version}"
  | .unexpectedFrameType frameType => s!"unexpected frame type {frameType}"
  | .lengthMismatch => "declared payload length does not match the frame"
  | .structuralDigestMismatch => "structural digest does not match canonical body"
  | .unknownCompressionPolicy tag => s!"unknown compression policy {tag}"
  | .unknownEntryKind tag => s!"unknown entry kind {tag}"
  | .unknownCompleteness tag => s!"unknown source completeness tag {tag}"
  | .unknownDigestTag tag => s!"unknown content digest tag {tag}"
  | .rootCountTooLarge count => s!"root count {count} exceeds the fixed limit"
  | .entryCountTooLarge count => s!"entry count {count} exceeds the fixed limit"
  | .componentTooLarge length => s!"component length {length} exceeds the fixed limit"
  | .pathDepthTooLarge depth => s!"wire path depth {depth} exceeds the fixed limit"
  | .pathBytesTooLarge bytes => s!"wire path length {bytes} exceeds the fixed limit"
  | .unknownRootInWire rootId => s!"wire entry references unknown root {rootId}"
  | .missingWireParent entryId => s!"wire entry {entryId} appears before its parent"
  | .duplicateWirePath entryId => s!"wire entry {entryId} duplicates a canonical path"
  | .invalidUtf8 => "component is not valid UTF-8"
  | .trailingBytes => "offer has trailing bytes"

def CompressionPolicyV2.tag : CompressionPolicyV2 → UInt8
  | .never => 0
  | .always => 1
  | .smart => 2

def CompressionPolicyV2.tryFrom (value : UInt8) : Except ManifestV2CodecError CompressionPolicyV2 :=
  match value with
  | 0 => .ok .never
  | 1 => .ok .always
  | 2 => .ok .smart
  | other => .error (.unknownCompressionPolicy other)

def ManifestEntryKindV2.tag : ManifestEntryKindV2 → UInt8
  | .regularFile => 1
  | .directory => 2

def ManifestEntryKindV2.tryFrom (value : UInt8) : Except ManifestV2CodecError ManifestEntryKindV2 :=
  match value with
  | 1 => .ok .regularFile
  | 2 => .ok .directory
  | other => .error (.unknownEntryKind other)

/-! ## Encoder -/

/-- `b"ENV2"` -/
def offerMagic : Bytes := [0x45, 0x4e, 0x56, 0x32]

def offerHeaderBytes : Nat := 12
def digestBytes : Nat := 32

def pushBytes (bytes : Bytes) : Bytes := u32Be (UInt32.ofNat bytes.length) ++ bytes

def encodeComponent (component : String) : Bytes := pushBytes (asBytes component)

def encodeCompleteness : SourceCompletenessV2 → Bytes
  | .complete => [0]
  | .userApprovedPartial inaccessibleBoundaryCount omittedEntryCount =>
    [1] ++ u64Be inaccessibleBoundaryCount ++
      match omittedEntryCount with
      | some count => [1] ++ u64Be count
      | none => [0]

def encodeRoot (root : ManifestRootV2) : Bytes :=
  u32Be root.rootId ++ u32Be root.rootEntryId ++ encodeComponent root.requestedName ++
    encodeCompleteness root.completeness

def encodeContentDigest : EntryContentDigestV2 → Bytes
  | .deferred => [0]
  | .known digest => [1] ++ digest.bytes.toList

def encodeEntry (path : List String) (entry : ManifestEntryV2) : Bytes :=
  u32Be entry.entryId ++ u32Be entry.rootId ++ u32Be (UInt32.ofNat path.length) ++
    path.flatMap encodeComponent ++ [entry.kind.tag] ++ u64Be entry.plaintextSize ++
    encodeContentDigest entry.contentDigest

/-- The entry loop, with `wire_paths` as its accumulator.  The code indexes `wire_paths` at the
parent, which validation has shown to precede the entry. -/
def encodeEntries : List (List String) → List ManifestEntryV2 → Bytes
  | _, [] => []
  | wirePaths, entry :: entries =>
    let path := wirePath wirePaths entry
    encodeEntry path entry ++ encodeEntries (wirePaths ++ [path]) entries

def encodeManifestBody (manifest : ManifestV2) : Bytes :=
  manifest.jobId.bytes.toList ++ u32Be manifest.generation ++ u64Be manifest.selectionRevision ++
    [manifest.compressionPolicy.tag] ++ u32Be (UInt32.ofNat manifest.roots.length) ++
    manifest.roots.flatMap encodeRoot ++ u32Be (UInt32.ofNat manifest.entries.length) ++
    encodeEntries [] manifest.entries ++ u32Be manifest.totals.fileCount ++
    u32Be manifest.totals.directoryCount ++ u64Be manifest.totals.totalPlaintextBytes

section Codec

variable [Blake3] [UnicodeNormalization]

/-- Validates and seals one structural manifest without performing network I/O. -/
def buildManifestOfferV2 (manifest : ManifestV2) : Except ManifestV2CodecError ManifestOfferV2 := do
  mapErr .validation manifest.validate
  let body := encodeManifestBody manifest
  pure { structuralDigest := ⟨Blake3.hash body⟩, manifest }

def encodeManifestOfferV2 (manifest : ManifestV2) : Except ManifestV2CodecError Bytes := do
  let offer ← buildManifestOfferV2 manifest
  let body := encodeManifestBody offer.manifest
  let payloadLen ← okOr (checkedAddUsize digestBytes body.length) .encodedOfferTooLarge
  let encodedLen ← okOr (checkedAddUsize offerHeaderBytes payloadLen) .encodedOfferTooLarge
  reject (encodedLen > maxManifestV2EncodedBytes) .encodedOfferTooLarge
  reject (¬ payloadLen < 2 ^ 32) .encodedOfferTooLarge
  pure (offerMagic ++ u16Be manifestV2ProtocolVersion ++ u16Be ManifestV2FrameType.offer.code ++
    u32Be (UInt32.ofNat payloadLen) ++ offer.structuralDigest.bytes.toList ++ body)

end Codec

/-! ## Decoder -/

abbrev OfferReader := Reader ManifestV2CodecError

def readComponent : OfferReader String := do
  let length := (← u32 .truncated).toNat
  lift (reject (length > maxManifestV2ComponentBytes) (.componentTooLarge length))
  let bytes ← exact .truncated length
  lift (okOr (fromUtf8 bytes) .invalidUtf8)

def readCompleteness : OfferReader SourceCompletenessV2 := do
  match (← u8 .truncated) with
  | 0 => pure .complete
  | 1 => do
    let inaccessibleBoundaryCount ← u64 .truncated
    match (← u8 .truncated) with
    | 0 => pure (.userApprovedPartial inaccessibleBoundaryCount none)
    | 1 => do
      let count ← u64 .truncated
      pure (.userApprovedPartial inaccessibleBoundaryCount (some count))
    | other => throw (.unknownCompleteness other)
  | other => throw (.unknownCompleteness other)

def readRoot : OfferReader ManifestRootV2 := do
  let rootId ← u32 .truncated
  let rootEntryId ← u32 .truncated
  let requestedName ← readComponent
  let completeness ← readCompleteness
  pure { rootId, rootEntryId, requestedName, completeness }

/-- `for index in 0..path_count`, with the running `path_bytes`. -/
def readPath : Nat → Nat → Nat → OfferReader (List String)
  | _, _, 0 => pure []
  | index, pathBytes, count + 1 => do
    let component ← readComponent
    let pathBytes ← lift (okOr ((checkedAddUsize pathBytes (asBytes component).length).bind
      (fun value => checkedAddUsize value (if index > 0 then 1 else 0)))
        (.pathBytesTooLarge usizeMax))
    lift (reject (pathBytes > maxManifestV2PathBytes) (.pathBytesTooLarge pathBytes))
    let path ← readPath (index + 1) pathBytes count
    pure (component :: path)

/-- `path_to_entry` -/
abbrev PathToEntry := List ((UInt32 × List String) × UInt32)

/-- The parent and the name of a wire entry: its path without the last component is the path of
its parent, and an empty path names the root itself. -/
def resolvePath (pathToEntry : PathToEntry) (root : ManifestRootV2) (entryId rootId : UInt32)
    (path : List String) : Except ManifestV2CodecError (Option UInt32 × String) :=
  match path.getLast? with
  | some component => do
    let parentEntryId ← okOr (pathToEntry.lookup (rootId, path.dropLast))
      (.missingWireParent entryId)
    pure (some parentEntryId, component)
  | none => .ok (none, root.requestedName)

def readContentDigest : OfferReader EntryContentDigestV2 := do
  match (← u8 .truncated) with
  | 0 => pure .deferred
  | 1 => do
    let digest ← array .truncated 32
    pure (.known ⟨digest⟩)
  | other => throw (.unknownDigestTag other)

/-- One iteration of the entry loop, up to the insertion into `path_to_entry`. -/
def readEntry (roots : List ManifestRootV2) (pathToEntry : PathToEntry) :
    OfferReader (List String × ManifestEntryV2) := do
  let entryId ← u32 .truncated
  let rootId ← u32 .truncated
  let pathCount := (← u32 .truncated).toNat
  lift (reject (pathCount > maxManifestV2PathDepth) (.pathDepthTooLarge pathCount))
  let path ← readPath 0 0 pathCount
  let root ← lift (okOr roots[rootId.toNat]? (.unknownRootInWire rootId))
  let (parentEntryId, component) ← lift (resolvePath pathToEntry root entryId rootId path)
  let kind ← lift (ManifestEntryKindV2.tryFrom (← u8 .truncated))
  let plaintextSize ← u64 .truncated
  let contentDigest ← readContentDigest
  pure (path, { entryId, rootId, parentEntryId, component, kind, plaintextSize, contentDigest })

def readEntries (roots : List ManifestRootV2) : Nat → PathToEntry →
    OfferReader (List ManifestEntryV2)
  | 0, _ => pure []
  | count + 1, pathToEntry => do
    let (path, entry) ← readEntry roots pathToEntry
    lift (reject ((pathToEntry.lookup (entry.rootId, path)).isSome)
      (.duplicateWirePath entry.entryId))
    let entries ← readEntries roots count (pathToEntry ++ [((entry.rootId, path), entry.entryId)])
    pure (entry :: entries)

def decodeManifestBody : OfferReader ManifestV2 := do
  let jobId ← array .truncated 16
  let generation ← u32 .truncated
  let selectionRevision ← u64 .truncated
  let compressionPolicy ← lift (CompressionPolicyV2.tryFrom (← u8 .truncated))
  let rootCount := (← u32 .truncated).toNat
  lift (reject (rootCount > maxManifestV2Roots) (.rootCountTooLarge rootCount))
  let roots ← readMany (fun _ => readRoot) 0 rootCount
  let entryCount := (← u32 .truncated).toNat
  lift (reject (entryCount > maxManifestV2Entries) (.entryCountTooLarge entryCount))
  let entries ← readEntries roots entryCount []
  let fileCount ← u32 .truncated
  let directoryCount ← u32 .truncated
  let totalPlaintextBytes ← u64 .truncated
  pure {
    jobId := ⟨jobId⟩, generation, selectionRevision, compressionPolicy, roots, entries,
    totals := { fileCount, directoryCount, totalPlaintextBytes } }

section Codec

variable [Blake3] [UnicodeNormalization]

/-- The part of `decode_manifest_offer_v2` that moves the reader. -/
def readManifestOffer : OfferReader ManifestOfferV2 := do
  let magic ← exact .truncated offerMagic.length
  lift (reject (magic ≠ offerMagic) .badMagic)
  let version ← u16 .truncated
  lift (reject (version ≠ manifestV2ProtocolVersion) (.unsupportedVersion version))
  let frameType ← u16 .truncated
  lift (reject (frameType ≠ ManifestV2FrameType.offer.code) (.unexpectedFrameType frameType))
  let payloadLen := (← u32 .truncated).toNat
  lift (reject (payloadLen ≠ (← remainingSlice).length) .lengthMismatch)
  let claimedDigest ← array .truncated 32
  let body ← remainingSlice
  lift (reject (claimedDigest ≠ Blake3.hash body) .structuralDigestMismatch)
  let manifest ← decodeManifestBody
  lift (reject ((← remainingSlice).length ≠ 0) .trailingBytes)
  lift (mapErr .validation manifest.validate)
  pure { structuralDigest := ⟨claimedDigest⟩, manifest }

def decodeManifestOfferV2 (encoded : Bytes) : Except ManifestV2CodecError ManifestOfferV2 := do
  reject (encoded.length > maxManifestV2EncodedBytes) .encodedOfferTooLarge
  let (offer, _) ← readManifestOffer.run encoded
  pure offer

end Codec

end Envoix.Protocol
