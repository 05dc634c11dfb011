import NotebookKernel.Text.Utf8
import NotebookKernel.Json.Fault

/-!
# Failures of the messaging layer
-/

namespace NotebookKernel

/-- Why a file could not be read or written, or a program not started. -/
inductive FileFault where
  | notFound
  | isDirectory
  | notDirectory
  | permissionDenied
  | nameTooLong
  | nulInName
  | nulInArgument
  | notUtf8
  deriving DecidableEq, Repr

def FileFault.message : FileFault → String
  | .notFound => "No such file or directory (os error 2)"
  | .isDirectory => "Is a directory (os error 21)"
  | .notDirectory => "Not a directory (os error 20)"
  | .permissionDenied => "Permission denied (os error 13)"
  | .nameTooLong => "File name too long (os error 36)"
  | .nulInName => "file name contained an unexpected NUL byte"
  | .nulInArgument => "nul byte found in provided data"
  | .notUtf8 => "stream did not contain valid UTF-8"

/-- The frames that follow the delimiter, in their order. -/
inductive FrameName where
  | signature
  | header
  | parentHeader
  | metadata
  | content
  deriving DecidableEq, Repr

def FrameName.text : FrameName → String
  | .signature => "signature"
  | .header => "header"
  | .parentHeader => "parent_header"
  | .metadata => "metadata"
  | .content => "content"

inductive ProtocolError where
  | missingDelimiter
  | missingFrame (name : FrameName)
  | badSignature
  | notUtf8 (fault : Utf8.Fault)
  | json (fault : Json.Fault)
  | content (msgType : String) (mismatch : Json.Mismatch)
  | unsupportedScheme (scheme : String)
  | connectionFile (path : String) (fault : FileFault)
  deriving DecidableEq

def ProtocolError.message : ProtocolError → String
  | .missingDelimiter => "missing <IDS|MSG> delimiter"
  | .missingFrame name => "missing " ++ name.text ++ " frame"
  | .badSignature => "signature mismatch"
  | .notUtf8 fault => "frame is not valid utf-8: " ++ fault.message
  | .json fault => "json error: " ++ fault.message
  | .content msgType mismatch => "invalid " ++ msgType ++ " content: " ++ mismatch.message
  | .unsupportedScheme scheme => "unsupported signature scheme '" ++ scheme ++ "'"
  | .connectionFile path fault => "connection file " ++ path ++ ": " ++ fault.message

end NotebookKernel
