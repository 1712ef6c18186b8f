import PamOlive.Api.Gateway
import PamOlive.Foundations.Lines
import PamOlive.Rbac.Services

/-
  The host keys of targets.

  A key is parsed whenever its row is saved. The gateway registers the key it has seen first; the
  console approves keys and revokes them. A revoked key keeps its row, and the fingerprints of a
  target are unique.
-/

---- Public Keys

namespace PamOlive.Targets

open Foundations
open Foundations.CodePoint (isSpace)
open Api Rbac

/- `base64.b64decode` with validation, and the unpadded base64 text of a SHA-256 hash. -/
structure KeyLibrary where
  b64decode : Text → Option (List UInt8)
  digest : List UInt8 → Text

def allowedSshHostKeyTypes : List Text :=
  ["ecdsa-sha2-nistp256", "ecdsa-sha2-nistp384", "ecdsa-sha2-nistp521", "ssh-ed25519", "ssh-rsa"]

/- `int.from_bytes(bytes, "big")`. -/
def bigEndian (bytes : List UInt8) : Nat :=
  bytes.foldl (fun value byte => 256 * value + byte.toNat) 0

def ofByte (byte : UInt8) : CodePoint := ⟨byte.toNat, Nat.lt_trans byte.toNat_lt (by decide)⟩

/- `bytes.decode("ascii")`. -/
def decodeAscii (bytes : List UInt8) : Option Text :=
  if bytes.all (fun byte => decide (byte.toNat < 128)) then some (bytes.map ofByte)
  else none

structure ParsedKey where
  keyType : Text
  publicKey : Text
  fingerprint : Text
deriving DecidableEq

def embeddedType (blob : List UInt8) : Option Text :=
  decodeAscii ((blob.drop 4).take (bigEndian (blob.take 4)))

def parseWords (library : KeyLibrary) (keyType encoded : Text) : Except Failure ParsedKey := do
  require (allowedSshHostKeyTypes.contains keyType = true)
    (.validationError "Ce type de clé d’hôte SSH n’est pas autorisé.")
  let blob ← found (library.b64decode encoded)
    (.validationError "La clé publique SSH n’est pas encodée correctement.")
  require (5 ≤ blob.length) (.validationError "La clé publique SSH est incomplète.")
  let embedded ← found (embeddedType blob)
    (.validationError "Le format interne de la clé SSH est invalide.")
  require (embedded = keyType)
    (.validationError "Le type déclaré ne correspond pas au contenu de la clé SSH.")
  return ⟨keyType, keyType ++ 32 :: encoded, "SHA256:" ++ library.digest blob⟩

def parseSshPublicKey (library : KeyLibrary) (value : Text) : Except Failure ParsedKey :=
  match Lines.words isSpace (Text.strip value) with
  | keyType :: encoded :: _ => parseWords library keyType encoded
  | _ => .error (.validationError "Une clé publique OpenSSH complète est requise.")

variable {library : KeyLibrary} {parsed : ParsedKey}

theorem publicKey_of_parseWords {keyType encoded : Text}
    (hParse : parseWords library keyType encoded = .ok parsed) :
    parsed.publicKey = keyType ++ 32 :: encoded := by
  unfold parseWords at hParse
  simp only [require_bind_eq_ok_iff, found_bind_eq_ok_iff, pure_eq_ok_iff] at hParse
  rcases hParse with ⟨_, _, _, _, _, _, _, rfl⟩
  rfl

theorem strip_pair {first second : Text} (hFirst :
    first ≠ [] ∧ ∀ point ∈ first, isSpace point = false)
    (hSecond : second ≠ [] ∧ ∀ point ∈ second, isSpace point = false) :
    Text.strip (first ++ 32 :: second) = first ++ 32 :: second := by
  have hHead := hFirst.2 _ (List.head_mem hFirst.1)
  have hLast := hSecond.2 _ (List.getLast_mem hSecond.1)
  rw [Text.strip_eq_self_iff (by simp)]
  simp [hFirst.1, hHead, hSecond.1, hLast]

theorem parseSshPublicKey_normalized {value : Text}
    (hParse : parseSshPublicKey library value = .ok parsed) :
    parseSshPublicKey library parsed.publicKey = .ok parsed := by
  unfold parseSshPublicKey at hParse
  split at hParse
  · rename_i keyType encoded rest hWords
    have hWord :
      ∀ word ∈ keyType :: encoded :: rest, word ≠ [] ∧ ∀ point ∈ word, isSpace point = false := by
      intro word hMem
      rw [← hWords] at hMem
      exact Lines.mem_words isSpace hMem
    have hType := hWord keyType (by simp)
    have hEncoded := hWord encoded (by simp)
    unfold parseSshPublicKey
    rw [publicKey_of_parseWords hParse, strip_pair hType hEncoded,
      Lines.words_append isSpace hType CodePoint.isSpace_space,
      Lines.words_singleton isSpace hEncoded]
    exact hParse
  · exact nomatch hParse

/- A row as `TargetHostKey.save` completes it. -/
def newHostKey (library : KeyLibrary) (keyId targetId : Uuid) (publicKey comment : Text)
    (trustedBy : Option UserId) :
    Except Failure TargetHostKey := do
  let parsed ← parseSshPublicKey library publicKey
  return {
    id := keyId
    targetId := targetId
    publicKey := parsed.publicKey
    keyType := parsed.keyType
    fingerprintSha256 := parsed.fingerprint
    comment := comment
    trustedBy := trustedBy
    revokedAt := none }

/- The two keys of a row that must be new. -/
def clashes (first second : TargetHostKey) : Bool :=
  decide (first.id = second.id ∨ first.targetId = second.targetId ∧
      first.fingerprintSha256 = second.fingerprintSha256)

/- The fingerprint must be new, also among revoked keys. -/
def insertHostKey (row : TargetHostKey) (db : Database) : Except Failure Database := do
  require (db.hostKeys.any (clashes row) = false) .integrityError
  return { db with hostKeys := db.hostKeys ++ [row] }

/- `target.host_keys.filter(revoked_at__isnull=True)`. -/
def activeKeys (targetId : Uuid) (db : Database) : List TargetHostKey :=
  db.hostKeys.filter
    (fun hostKey => decide (hostKey.targetId = targetId ∧ hostKey.revokedAt = none))

def hostKeyResourceType : Text := "targets.targethostkey"

def hostKeyMetadata (targetId : Uuid) (fingerprint : Text) : Json :=
  .obj [("target_id", .str (Uuid.str targetId)), ("fingerprint", .str fingerprint)]

---- Trust On First Use

structure TrustPayload where
  sessionId : Option Text
  publicKey : Text

structure TrustRequest where
  payload : Except Failure TrustPayload
  keyId : Uuid

inductive TrustStatus where
  | known | trusted
deriving DecidableEq

/- The session of a request; a missing id is not found. -/
def trustedSession
    (sessionId : Option Text) (db : Database) : Except Failure PrivilegedSession := do
  let text ← found sessionId .doesNotExist
  let id ← found (Uuid.parse text) (.validationError ("“" ++ text ++ "” is not a valid UUID."))
  found (db.sessions.get id) .doesNotExist

def checkTrust (library : KeyLibrary) (payload : TrustPayload) (db : Database) :
    Except Failure (PrivilegedSession × Target × ParsedKey) := do
  let session ← trustedSession payload.sessionId db
  let target ← found (db.targets.get session.targetId) .doesNotExist
  require (target.protocol = .ssh ∧ target.sshHostKeyPolicy = .trustOnFirstUse)
    (.permissionDenied "L’enregistrement automatique n’est pas autorisé.")
  let parsed ← parseSshPublicKey library payload.publicKey
  return (session, target, parsed)

section

variable (site : Site) (moment : Moment) (library : KeyLibrary)

/- The transaction, in which the target is locked. -/
def registerHostKey (keyId : Uuid)
    (session : PrivilegedSession) (target : Target) (parsed : ParsedKey) (db : Database) :
    Except Failure (TrustStatus × Database) := do
  let locked ← found (db.targets.get target.id) .doesNotExist
  if (activeKeys locked.id db).any
    (fun hostKey => decide (hostKey.fingerprintSha256 = parsed.fingerprint)) then
    return (.known, db)
  else do
    require (activeKeys locked.id db = [])
      (.permissionDenied "La clé d’hôte observée diffère de la clé enregistrée.")
    let hostKey ← newHostKey library keyId locked.id parsed.publicKey
      "Automatically recorded on first successful connection"
      none
    let added ← insertHostKey hostKey db
    let after ← added.recordEvent site moment (some session.userId)
      "target.host_key_trusted_on_first_use"
      hostKeyResourceType (Uuid.str hostKey.id)
      (hostKeyMetadata target.id parsed.fingerprint)
      session.clientIp
    return (.trusted, after)

/- The request once its payload is authenticated. -/
def trustHostKey (keyId : Uuid)
    (payload : TrustPayload) : Database → Except Failure (TrustStatus × Text) × Database :=
  andThen (reading (checkTrust library payload)) fun checked =>
  andThen (commit (registerHostKey site moment library keyId checked.1 checked.2.1 checked.2.2))
    fun status =>
  reading (fun _ => .ok (status, checked.2.2.fingerprint))

def gatewayTrustHostKey (request : TrustRequest)
    (db : Database) : Response (TrustStatus × Text) × Database :=
  match request.payload with
  | .error failure => (refuse failure, db)
  | .ok payload =>
    match trustHostKey site moment library request.keyId payload db with
    | (.ok answer, after) => (.success answer, after)
    | (.error failure, after) => (refuse failure, after)

end

---- The Console

structure HostKeyForm where
  targetId : Uuid
  publicKey : Text
  comment : Text
  keyId : Uuid
  sourceIp : Option IpText

/- `TargetHostKeyForm`, if it is valid. -/
def cleanHostKey (library : KeyLibrary) (form : HostKeyForm)
    (db : Database) : Option (Target × Text × Text) := do
  let target ← db.targets.get form.targetId
  guard (target.protocol = .ssh)
  let publicKey := Text.strip form.publicKey
  guard (publicKey ≠ [] ∧ publicKey.contains 0 = false)
  let parsed ← (parseSshPublicKey library publicKey).toOption
  let comment := Text.strip form.comment
  guard (comment.length ≤ 255 ∧ comment.contains 0 = false)
  return (target, parsed.publicKey, comment)

/- The row the console saves, outside of any transaction. -/
def approveHostKey (library : KeyLibrary) (actor : UserId) (form : HostKeyForm) (target : Target)
    (publicKey comment : Text) (db : Database) :
    Except Failure (TargetHostKey × Database) := do
  let hostKey ← newHostKey library form.keyId target.id publicKey comment (some actor)
  let after ← insertHostKey hostKey db
  return (hostKey, after)

def reportHostKey (site : Site) (moment : Moment) (actor : UserId) (action : Text)
    (hostKey : TargetHostKey) (sourceIp : Option IpText)
    (db : Database) : Except Failure (Unit × Database) := do
  let after ←
    db.recordEvent site moment (some actor) action hostKeyResourceType (Uuid.str hostKey.id)
      (hostKeyMetadata hostKey.targetId hostKey.fingerprintSha256) sourceIp
  return ((), after)

/- The `POST` of `host_keys`. The row stays when the event cannot be recorded. -/
def hostKeys (site : Site) (moment : Moment) (library : KeyLibrary) (actor : Actor)
    (form : HostKeyForm) (db : Database) : Except Failure Bool × Database :=
  if userHasCapability moment.now actor .targetsManage db = false then
    (.error (.permissionDenied []), db)
  else
    match cleanHostKey library form db with
    | none => (.ok false, db)
    | some (target, publicKey, comment) =>
      andThen (commit (approveHostKey library actor.id form target publicKey comment))
        (fun hostKey =>
          andThen (commit (reportHostKey site moment actor.id "target.host_key_trusted"
            hostKey form.sourceIp)) (fun _ => reading (fun _ => .ok true)))
        db

def revokedHostKey (now : Int) (actor : UserId) (hostKey : TargetHostKey) : TargetHostKey :=
  { hostKey with revokedAt := some now, revokedBy := some actor }

/- The update of `revoke_host_key`: only the columns of the revocation are written. -/
def saveRevokedKey
    (library : KeyLibrary) (now : Int) (actor : UserId) (keyId : Uuid) (db : Database) :
    Except Failure (TargetHostKey × Database) := do
  let hostKey ← found (db.hostKeys.find?
    (fun hostKey => decide (hostKey.id = keyId ∧ hostKey.revokedAt = none)))
    .doesNotExist
  let parsed ← parseSshPublicKey library hostKey.publicKey
  return ({ hostKey with
    fingerprintSha256 := parsed.fingerprint }, { db with
      hostKeys := db.hostKeys.map (fun row =>
          if row.id = keyId then revokedHostKey now actor row
          else row) })

def revokeHostKey
    (site : Site) (moment : Moment) (library : KeyLibrary) (actor : Actor) (keyId : Uuid)
    (sourceIp : Option IpText) (db : Database) : Except Failure Unit × Database :=
  if userHasCapability moment.now actor .targetsManage db = false then
    (.error (.permissionDenied []), db)
  else
    andThen (commit (saveRevokedKey library moment.now actor.id keyId)) (fun hostKey =>
        commit (reportHostKey site moment actor.id "target.host_key_revoked" hostKey sourceIp))
      db

end PamOlive.Targets
