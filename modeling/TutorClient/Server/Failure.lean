import TutorClient.Files.Tree
import TutorClient.Server.Status

/-!
# Failures of Background Work

Why a request to the server or the reading of a file came to nothing. An
answer that says that a request did not succeed is no failure.

## Main definitions

* `Failure`: The causes.
* `Failure.message`: How a failure reads.
-/

namespace TutorClient

/-- Why background work came to nothing. -/
inductive Failure where
  /-- No complete answer came back. -/
  | noAnswer (reason : String)
  /-- The answer could not be read, and its status code says that something went wrong. -/
  | badStatus (code : Nat)
  /-- The answer could not be read. -/
  | unreadable
  /-- A file could not be used. -/
  | file (path : String) (cause : FileError)
  deriving DecidableEq, Repr

/-- How a failure reads. -/
def Failure.message : Failure → String
  | .noAnswer reason => "request failed: " ++ reason
  | .badStatus code => "request failed: server returned " ++ Status.describe code
  | .unreadable => "could not decode response"
  | .file path cause => "could not read " ++ path ++ ": " ++ cause.message

end TutorClient
