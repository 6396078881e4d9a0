import Montage.Json.Basic

/-! # Faults

A fault of the service has a code for clients, a status for responses and, for most codes, a hint. Its
kind fixes the code, the status and the message unless they are given. Faults without a code come
from numbers, files and programs outside the service; they have only a class and a message.
-/

namespace Montage

/-- What clients are told about a code beside the message. -/
structure CodeSpec where
  retryable : Bool
  suggestedFix : Option String := none
  deriving DecidableEq, Repr

namespace CodeSpec

/-- The codes and what is told about them. -/
def known : List (String × CodeSpec) := [
  ("VALIDATION_ERROR", ⟨false, some "Fix the reported field and resubmit the request"⟩),
  ("BAD_REQUEST", ⟨false, none⟩),
  ("NOT_FOUND", ⟨false, none⟩),
  ("JOB_NOT_FOUND",
    ⟨false, some "Job ids are only valid for the lifetime of the server process"⟩),
  ("MISSING_ASSET",
    ⟨false,
      some "List available assets via GET /api/assets/stickers or GET /api/assets/fonts"⟩),
  ("INVALID_ASSET_NAME",
    ⟨false, some "Asset names may only contain letters, digits, '_' and '-'"⟩),
  ("DOWNLOAD_FAILED", ⟨true, some "Check that the source URL is reachable and returns media"⟩),
  ("ENGINE_FAILED", ⟨true, none⟩),
  ("ENCODING_EXHAUSTED",
    ⟨true, some "Inspect the raw filter expression and source media for problems"⟩),
  ("INTERNAL_ERROR", ⟨true, none⟩)]

/-- What is told about a code; an unknown one is not worth a retry. -/
def ofCode (code : String) : CodeSpec := (known.lookup code).getD ⟨false, none⟩

end CodeSpec

/-- The kinds of coded faults. -/
inductive FaultKind where
  | unexpected
  | validation
  | unknownJob
  | missingAsset
  | invalidAssetName
  | unsoundGraph
  | download
  | engine
  | encodingExhausted
  deriving DecidableEq, Repr

namespace FaultKind

/-- The code of a kind. -/
def code : FaultKind → String
  | .unexpected | .unsoundGraph => "INTERNAL_ERROR"
  | .validation => "VALIDATION_ERROR"
  | .unknownJob => "JOB_NOT_FOUND"
  | .missingAsset => "MISSING_ASSET"
  | .invalidAssetName => "INVALID_ASSET_NAME"
  | .download => "DOWNLOAD_FAILED"
  | .engine => "ENGINE_FAILED"
  | .encodingExhausted => "ENCODING_EXHAUSTED"

/-- The response status of a kind. -/
def status : FaultKind → Nat
  | .validation => 422
  | .unknownJob | .missingAsset => 404
  | .invalidAssetName => 400
  | .download => 502
  | .unexpected | .unsoundGraph | .engine | .encodingExhausted => 500

/-- The message of a kind when none is given. -/
def message : FaultKind → String
  | .unexpected => "An unexpected error occurred"
  | .validation => "Request validation failed"
  | .unknownJob => "Job not found"
  | .missingAsset => "Asset not found"
  | .invalidAssetName => "Invalid asset name"
  | .unsoundGraph => "Filter graph references an unknown pad"
  | .download => "Media download failed"
  | .engine => "FFmpeg processing failed"
  | .encodingExhausted => "All encoding attempts exhausted"

end FaultKind

/-- A fault that clients can tell by its code. -/
structure ServiceFault where
  kind : FaultKind
  message : String
  code : String
  status : Nat
  suggestedFix : Option String
  deriving DecidableEq, Repr

/-- A text that counts as given: there is one and it is not empty. -/
def given? (text : Option String) : Option String := text.filter fun s => s ≠ ""

namespace ServiceFault

/-- A fault of a kind; what is missing or empty is taken from the kind. -/
def make (kind : FaultKind) (message code suggestedFix : Option String) (status : Option Nat) :
    ServiceFault where
  kind := kind
  message := (given? message).getD kind.message
  code := (given? code).getD kind.code
  status := (status.filter fun n => n ≠ 0).getD kind.status
  suggestedFix := suggestedFix

/-- A fault of a kind with a message. -/
def ofMessage (kind : FaultKind) (message : String) : ServiceFault :=
  make kind (some message) none none none

/-- The fault of asking for a job that is not there. -/
def unknownJob (id : Option String) : ServiceFault :=
  make .unknownJob ((given? id).map fun id => s!"Job with ID {id} not found") none none none

/-- The fault of an asset name that does not pass. -/
def invalidAssetName (name kind : String) : ServiceFault :=
  ofMessage .invalidAssetName s!"Invalid {kind} name: {name}"

/-- The fault of running out of encoding profiles, after the message of the last failure. -/
def encodingExhausted (last : Option String) : ServiceFault :=
  let reason := match last with
    | some message => s!": {message}"
    | none => ""
  ofMessage .encodingExhausted (FaultKind.message .encodingExhausted ++ reason)

end ServiceFault

/-- What clients are told about a fault. -/
structure FaultReport where
  code : String
  message : String
  retryable : Bool
  suggestedFix : Option String
  deriving DecidableEq, Repr

/-- A report on a code and a message. -/
def FaultReport.ofCode (code message : String) : FaultReport :=
  let spec := CodeSpec.ofCode code
  ⟨code, message, spec.retryable, spec.suggestedFix⟩

/-- The report on a fault, whose own hint goes before that of its code. -/
def ServiceFault.report (fault : ServiceFault) : FaultReport :=
  let spec := CodeSpec.ofCode fault.code
  ⟨fault.code, fault.message, spec.retryable,
    match given? fault.suggestedFix with
    | some fix => some fix
    | none => spec.suggestedFix⟩

/-- The classes of faults without a code. -/
inductive PlainKind where
  | value
  | range
  | missingFile
  | existingFile
  | notDirectory
  | isDirectory
  | system
  | depth
  | address
  | coding
  | program
  | other (name : String)
  deriving DecidableEq, Repr

/-- The name of a class, which stands in for an empty message. -/
def PlainKind.name : PlainKind → String
  | .value => "ValueError"
  | .range => "OverflowError"
  | .missingFile => "FileNotFoundError"
  | .existingFile => "FileExistsError"
  | .notDirectory => "NotADirectoryError"
  | .isDirectory => "IsADirectoryError"
  | .system => "OSError"
  | .depth => "RecursionError"
  | .address => "InvalidURL"
  | .coding => "UnicodeEncodeError"
  | .program => "RuntimeError"
  | .other name => name

/-- Anything that can end a job before its result, or keep a service from starting. -/
inductive JobFault where
  | service (fault : ServiceFault)
  | plain (kind : PlainKind) (message : String)
  deriving DecidableEq, Repr

namespace JobFault

/-- The message of a fault. -/
def message : JobFault → String
  | .service fault => fault.message
  | .plain _ message => message

/-- The message of a fault, or the name of its class when the message is empty. -/
def label : JobFault → String
  | .service fault => fault.message
  | .plain kind message => if message = "" then kind.name else message

/-- The code that goes with a fault, if it has one. -/
def data : JobFault → Option Json
  | .service fault => some (.obj [("code", .str fault.code)])
  | .plain .. => none

end JobFault

end Montage
