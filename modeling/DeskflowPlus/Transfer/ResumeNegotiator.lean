import DeskflowPlus.Transfer.FileMessageCodec
import DeskflowPlus.Transfer.ResumeStore
import Mathlib.Data.List.Sort

/-!
# Resuming a transfer: the query, the response, and what each side checks

The sender names its manifest; the receiver answers with the durable offset of each file its stored
state mentions, in the order of the file identifiers; the sender checks the answer against its
manifest before it plans from it.
-/

namespace DeskflowPlus.Transfer

def kMaximumResumeResponseFiles : Nat := 100000
def kMaximumResumeMetadataBytes : Nat := 1 * 1024 * 1024

structure ResumeQueryMessage where
  transferId : TransferId
  manifestSha256 : QByteArray

structure ResumeFileOffset where
  fileId : FileId
  durableOffset : Nat := 0

structure ResumeResponseMessage where
  transferId : TransferId
  manifestSha256 : QByteArray
  files : List ResumeFileOffset

inductive ResumeControlMessage where
  | query (message : ResumeQueryMessage)
  | response (message : ResumeResponseMessage)

inductive ResumeNegotiationError where
  | invalidQuery
  | stateNotFound
  | storedStateInvalid
  | directionMismatch
  | manifestMismatch
  | responseMismatch
  | unknownFile
  | duplicateFile
  | offsetOutOfRange
  | responseTooLarge

structure ResumePlan where
  transferId : TransferId
  files : List ResumeFileOffset

abbrev ResumeNegotiation (α : Type) := Except (ResumeNegotiationError × String) α

namespace ResumeMessageCodec

def validQuery (query : ResumeQueryMessage) : Bool :=
  query.manifestSha256.length = kSha256Bytes

def validWireOffset (offset : Nat) : Bool := offset ≤ 2 ^ 63 - 1

/-- Identifiers strictly ascending by their bytes after `previous`, offsets within the wire's
range. -/
def strictlyOrderedAfter (previous : QByteArray) (seen : List QByteArray) :
    List ResumeFileOffset → Except String Unit
  | [] => .ok ()
  | file :: files =>
    let current := file.fileId.toBytes
    if ¬ validWireOffset file.durableOffset then
      .error "resume response offset exceeds the wire integer range"
    else if current ∈ seen then .error "resume response contains a duplicate file ID"
    else if previous ≠ [] ∧ ¬ previous < current then
      .error "resume response file IDs are not strictly ordered"
    else strictlyOrderedAfter current (current :: seen) files

def strictlyOrdered (files : List ResumeFileOffset) : Except String Unit :=
  strictlyOrderedAfter [] [] files

def encodeQuery (query : ResumeQueryMessage) : Except String QByteArray :=
  if ¬ validQuery query then
    .error "resume query requires a transfer ID and SHA-256 manifest hash"
  else
    .ok (QCborMap.toCbor [
      (.integer 1, .bytes query.transferId.toBytes), (.integer 2, .bytes query.manifestSha256)])

def fileFields (file : ResumeFileOffset) : QCborMap :=
  [(.integer 1, .bytes file.fileId.toBytes), (.integer 2, .integer file.durableOffset)]

def encodeResponse (response : ResumeResponseMessage) : Except String QByteArray :=
  if response.manifestSha256.length ≠ kSha256Bytes then
    .error "resume response requires a transfer ID and SHA-256 manifest hash"
  else if response.files.length > kMaximumResumeResponseFiles then
    .error "resume response file count exceeds the limit"
  else
    match strictlyOrdered response.files with
    | .error diagnostic => .error diagnostic
    | .ok () =>
      let encoded := QCborMap.toCbor [
        (.integer 1, .bytes response.transferId.toBytes),
        (.integer 2, .bytes response.manifestSha256),
        (.integer 3, .array (response.files.map fun file => .map (fileFields file)))]
      if encoded.length > kMaximumResumeMetadataBytes then
        .error "resume response metadata exceeds the limit"
      else .ok encoded

def encode : ResumeControlMessage → Except String QByteArray
  | .query message => encodeQuery message
  | .response message => encodeResponse message

end ResumeMessageCodec

namespace ResumeNegotiator

open ResumeMessageCodec

/-- `std::sort` by the identifiers' bytes. -/
def sortByFileId (files : List ResumeFileOffset) : List ResumeFileOffset :=
  files.insertionSort fun left right => ¬ right.fileId.toBytes < left.fileId.toBytes

def reportedFiles (state : ResumeState) : List ResumeFileOffset :=
  sortByFileId
    (state.files.map (fun file => { fileId := file.fileId, durableOffset := file.durableOffset }) ++
      state.resolvedTargets.map fun target =>
        { fileId := target.fileId, durableOffset := target.size })

def buildResponse (store : ResumeStore) (query : ResumeQueryMessage) (fault : StoreFault) :
    ResumeNegotiation ResumeResponseMessage :=
  if ¬ validQuery query then .error (.invalidQuery, "resume query is invalid")
  else
    match store.load query.transferId fault with
    | .error (.notFound, _) => .error (.stateNotFound, "resume state does not exist")
    | .error (_, diagnostic) =>
      .error (.storedStateInvalid, if diagnostic = "" then "resume state is invalid" else diagnostic)
    | .ok state =>
      if state.direction ≠ .receiving then
        .error (.directionMismatch, "resume state is not receiver-owned")
      else if state.manifestSha256 ≠ query.manifestSha256 then
        .error (.manifestMismatch, "resume manifest hash does not match stored state")
      else
        let response : ResumeResponseMessage := {
          transferId := query.transferId, manifestSha256 := query.manifestSha256
          files := reportedFiles state }
        match encode (.response response) with
        | .error diagnostic => .error (.responseTooLarge, diagnostic)
        | .ok _ => .ok response

def manifestSizes (entries : List ManifestEntry) : Option (List (FileId × Nat)) :=
  entries.foldlM
    (fun sizes entry =>
      if entry.type ≠ .file then some sizes
      else if entry.id ∈ sizes.map Prod.fst then none
      else some ((entry.id, entry.size) :: sizes))
    []

def checkFile (sizes : List (FileId × Nat)) (file : ResumeFileOffset) :
    ResumeNegotiation Unit :=
  match sizes.lookup file.fileId with
  | none => .error (.unknownFile, "resume response references an unknown file")
  | some size =>
    if file.durableOffset > size then
      .error (.offsetOutOfRange, "resume offset exceeds the manifest file size")
    else .ok ()

def validateResponse (query : ResumeQueryMessage) (response : ResumeResponseMessage)
    (manifestEntries : List ManifestEntry) : ResumeNegotiation ResumePlan :=
  if ¬ validQuery query ∨ response.transferId ≠ query.transferId ∨
      response.manifestSha256 ≠ query.manifestSha256 then
    .error (.responseMismatch, "resume response is not bound to the query")
  else if response.files.length > kMaximumResumeResponseFiles then
    .error (.duplicateFile, "resume response file list is invalid")
  else
    match strictlyOrdered response.files with
    | .error diagnostic => .error (.duplicateFile, diagnostic)
    | .ok () =>
      match manifestSizes manifestEntries with
      | none => .error (.duplicateFile, "sender manifest contains duplicate file IDs")
      | some sizes => do
        response.files.forM (checkFile sizes)
        pure { transferId := query.transferId, files := response.files }

end ResumeNegotiator

end DeskflowPlus.Transfer
