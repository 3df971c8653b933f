import Gatehouse.Directory.Uuid
import Gatehouse.Envelope
import Gatehouse.Shape
import Gatehouse.Token.Fault

/-!
# Failures

What can stop an operation other than a refusal: a dependency that breaks, a violated constraint, a
value of the wrong form. Each failure is a cause; some have words of their own.
-/

namespace Gatehouse

inductive Breakdown where
  | runtime
  | os
  | connection
  | sessionCache
  | integrity
  deriving DecidableEq, Repr

inductive CacheStep where
  | store
  | fetch
  | delete
  | invalidate
  deriving DecidableEq, Repr

inductive Failure where
  | broken (how : Breakdown)
  /-- A constraint of the relational store. -/
  | violation
  /-- The transaction has failed and was not rolled back. -/
  | staleTransaction
  | cacheStep (step : CacheStep) (user : String)
  | cacheUnreachable
  | cacheMiss (key : String)
  | shape (details : List Shape.Detail)
  | token (fault : Token.Fault)
  | envelope (fault : Envelope.Fault)
  /-- A value that is not acceptable, with the words for it. -/
  | value (message : String)
  | wrongType
  | missingAttribute
  | overflow
  /-- A text that the encoding in which it has to travel does not hold. -/
  | unencodable
  /-- A value that no column can hold. -/
  | unbindable
  /-- A value that its column does not take. -/
  | unfit
  | unknownColumn
  deriving DecidableEq, Repr

namespace Failure

/-- The class of failures that a violated constraint belongs to. -/
def isIntegrity : Failure → Bool
  | broken .integrity | violation => true
  | _ => false

def isSessionCache : Failure → Bool
  | broken .sessionCache | cacheStep _ _ | cacheUnreachable | cacheMiss _ => true
  | _ => false

def isValue : Failure → Bool
  | value _ | shape _ => true
  | _ => false

def ofUuid (fault : Uuid.Fault) : Failure := .value fault.message

def message? : Failure → Option String
  | broken .runtime | broken .os | broken .sessionCache => some "injected"
  | cacheStep .store user => some ("failed to store session for user " ++ user)
  | cacheStep .fetch user => some ("failed to read session for user " ++ user)
  | cacheStep .delete user => some ("failed to delete session for user " ++ user)
  | cacheStep .invalidate user => some ("failed to invalidate sessions for user " ++ user)
  | cacheUnreachable => some "redis is unreachable"
  | cacheMiss key => some ("session cache miss: " ++ key)
  | envelope .notText => none
  | envelope fault => some fault.message
  | value message => some message
  | _ => none

end Failure

end Gatehouse
