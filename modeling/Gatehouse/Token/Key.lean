import Gatehouse.Crypto.Hmac
import Gatehouse.Json.Reader
import Gatehouse.Codec.Base64
import Gatehouse.Text.Utf8
import Gatehouse.Token.Fault

/-!
# Token keys

The keys a secret stands for. Signing takes the bytes of the secret; checking a signature first tries
to read the secret as JSON and may so find other keys, or several.
-/

namespace Gatehouse.Token

/-! ## Algorithms -/

inductive Algorithm where
  | hs256 | hs384 | hs512
  deriving DecidableEq, Repr

namespace Algorithm

def all : List Algorithm := [hs256, hs384, hs512]

def name : Algorithm → String
  | hs256 => "HS256"
  | hs384 => "HS384"
  | hs512 => "HS512"

def ofName? (s : String) : Option Algorithm := all.find? (·.name == s)

def variant : Algorithm → Sha2.Variant
  | hs256 => Sha2.sha256
  | hs384 => Sha2.sha384
  | hs512 => Sha2.sha512

end Algorithm

/-! ## Keys of other kinds -/

def armourTitles : List String :=
  ["CERTIFICATE", "TRUSTED CERTIFICATE", "PRIVATE KEY", "PUBLIC KEY", "ENCRYPTED PRIVATE KEY",
    "OPENSSH PRIVATE KEY", "DSA PRIVATE KEY", "RSA PRIVATE KEY", "RSA PUBLIC KEY", "EC PRIVATE KEY",
    "DH PARAMETERS", "NEW CERTIFICATE REQUEST", "CERTIFICATE REQUEST", "SSH2 PUBLIC KEY",
    "SSH2 ENCRYPTED PRIVATE KEY", "X509 CRL"]

def shellKeyNames : List String :=
  ["ssh-ed25519", "ssh-rsa", "ssh-dss", "ecdsa-sha2-nistp256", "ecdsa-sha2-nistp384",
    "ecdsa-sha2-nistp521"]

def startsWith (cs : List Char) (s : String) : Bool := s.toList.isPrefixOf cs

/-- Whether an armour line begins here: dashes, the title of a key or certificate, dashes. -/
def armourHere (cs : List Char) : Bool :=
  ["-----BEGIN ", "---- BEGIN "].any fun opening =>
    startsWith cs opening &&
      armourTitles.any fun title =>
        ["-----", " ----"].any fun closing => startsWith cs (opening ++ title ++ closing)

/-- Whether a property holds at some place of a text. -/
def anywhere (p : List Char → Bool) : List Char → Bool
  | [] => p []
  | c :: rest => p (c :: rest) || anywhere p rest

def isSpace (c : Char) : Bool := c == ' ' || (9 ≤ c.toNat && c.toNat ≤ 13)

/-- Whether the first word is a certificate type and another word follows it on the line. -/
def certificateLine (cs : List Char) : Bool :=
  let word := cs.takeWhile (!isSpace ·)
  let rest := cs.drop word.length
  let gap := rest.takeWhile fun c => c == ' ' || c == '\t'
  let next := (rest.drop gap.length).head?
  "-cert-v01@openssh.com".toList.isSuffixOf word && !gap.isEmpty &&
    (match next with | some c => !isSpace c | none => false)

/-- Whether a text is a key for something other than keyed hashes. -/
def isForeignKey (s : String) : Bool :=
  let cs := s.toList
  anywhere armourHere cs || shellKeyNames.any (fun name => anywhere (startsWith · name) cs) ||
    certificateLine cs

/-! ## Keys of a secret -/

/-- Numbers in a secret stay the texts they are. -/
def secretDialect : Json.Dialect := ⟨980, true, 4300, false, true, true⟩

def secretValue (secret : String) : Json :=
  match Json.read secretDialect secret with
  | .ok v => v
  | .error _ => .text secret

/-- The keys that a key set holds: its items, its names, or its characters. -/
def setItems : Json → Except Fault (List Json)
  | .array items => .ok items
  | .text s => .ok (s.toList.map fun c => .text c.toString)
  | .torn codes => .ok (codes.map fun n => .ofRaw (.ofCodes [n]))
  | .object fields => .ok (fields.map fun (name, _) => .text name)
  | .tornObject fields => .ok (fields.map fun (name, _) => .ofRaw name)
  | _ => .error .keySetShape

def valuesOf : Json → List Json
  | .object fields => fields.map (·.2)
  | .tornObject fields => fields.map (·.2)
  | _ => []

/-- The keys to try, each still a value. -/
def keyValues (secret : String) : Except Fault (List Json) :=
  let v := secretValue secret
  match v with
  | .array items => .ok items
  | v =>
    match v.field? "keys" with
    | some set => setItems set
    | none =>
      if (v.field? "kty").isSome || (valuesOf v).isEmpty then .ok [v] else .ok (valuesOf v)

def keyBytes (key : Json) : Except Fault (List UInt8) :=
  match key with
  | .text s => if isForeignKey s then .error .keyRefused else .ok (Utf8.encode s)
  | .torn _ => .error .keyText
  | key =>
    match key.field? "kty", key.field? "k" with
    | some (.text "oct"), some (.text k) =>
      match Base64.decodeBare (Utf8.encode k) with
      | some bytes => .ok bytes
      | none => .error .keyEncoding
    | some (.text "oct"), some (.torn _) => .error .keyText
    | some (.text "oct"), _ => .error .keyField
    | _, _ => .error .keyRefused

/-- Tries the keys in order; an unusable key ends the search with a fault. -/
def matchesKey (algorithm : Algorithm) (signed signature : List UInt8) :
    List Json → Except Fault Bool
  | [] => .ok false
  | key :: rest => do
    let bytes ← keyBytes key
    if Hmac.mac algorithm.variant bytes signed = signature then .ok true
    else matchesKey algorithm signed signature rest

end Gatehouse.Token
