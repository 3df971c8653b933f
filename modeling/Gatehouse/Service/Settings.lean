import Gatehouse.Envelope
import Gatehouse.Http.Cookie
import Gatehouse.Http.Cors
import Gatehouse.Refusal
import Gatehouse.Token.Codec

/-!
# Service settings

What an operation needs to know besides the state: how tokens are signed and sealed, how long cached
sessions live, how cookies are set, and which pages may read the responses.
-/

namespace Gatehouse

structure Settings where
  codec : Token.Codec
  sealKey : Envelope.Key
  /-- The lifetime of cached sessions, where it is not given with the session. -/
  sessionTtl : Option Duration.Span
  cookies : Cookie.Settings
  cors : Http.Cors

/-- The answer to a command: a value or a refusal. -/
abbrev Answer (α : Type) := Except Refusal α

end Gatehouse
