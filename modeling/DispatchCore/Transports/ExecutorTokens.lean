import DispatchCore.Infrastructure.AsyncMemory
import DispatchCore.Library.Fields

/-! The bearer tokens of executors: an organization, an actor and a time, signed. -/
namespace DispatchCore.Transports

open DispatchCore.Library DispatchCore.Domain DispatchCore.Infrastructure

/-- The hexadecimal digest of an HMAC with SHA-256. -/
def HexDigest : Type :=
  { text : String // text.toList.length = 64 ∧ ∀ letter ∈ text.toList, letter.toNat < 128 }

/-- The settings accept no shorter secret. -/
def SigningSecret : Type := { text : String // 24 ≤ text.toList.length }

structure ExecutorToken where
  text : String
  expiresAt : Int
deriving DecidableEq

section tokens

-- the digest of a payload under a secret
variable (hmacHex : String → String → HexDigest)

def tokenPayload (organizationId actorId : String) (expiresAt : Int) : String :=
  s!"{organizationId}:{actorId}:{expiresAt}"

def encodeExecutorToken (now : Instant) (organizationId actorId signingSecret : String)
    (ttlSeconds : Int) : Except Failure ExecutorToken :=
  if organizationId = "" ∨ actorId = "" then
    .error (.valueError "organization_id and actor_id are required")
  else if ':' ∈ organizationId.toList ∨ ':' ∈ actorId.toList then
    .error (.valueError "organization_id and actor_id must not contain ':'")
  else
    let expiresAt := now.microseconds.tdiv 1000000 + ttlSeconds
    let payload := tokenPayload organizationId actorId expiresAt
    .ok ⟨s!"dt1:{payload}:{(hmacHex payload signingSecret).val}", expiresAt⟩

/-- `time.time() > expires_at` -/
def expired (now : Instant) (expiresAt : Int) : Prop := expiresAt * 1000000 < now.microseconds

instance (now : Instant) (expiresAt : Int) : Decidable (expired now expiresAt) :=
  inferInstanceAs (Decidable (_ < _))

/-- `hmac.compare_digest` of texts, which takes no other letters than those of ASCII. -/
def compareDigest (signature : String) (expected : HexDigest) : Except Failure Bool :=
  if signature.toList.all fun letter => letter.toNat < 128 then
    .ok (decide (signature = expected.val))
  else .error (.typeError "comparing strings with non-ASCII characters is not supported")

def decodeExecutorToken (now : Instant) (value signingSecret : String) :
    Except Failure (Option Key) :=
  if ¬"dt1:".toList.isPrefixOf value.toList then .ok none
  else
    match Text.fields ':' 4 value.toList with
    | [_, organizationId, actorId, expires, signature] =>
        if organizationId = [] ∨ actorId = [] then .ok none
        else if signature.length ≠ 64 then .ok none
        else
          match Text.int? (String.ofList expires) with
          | none => .ok none
          | some expiresAt =>
              if expired now expiresAt then .ok none
              else if signingSecret = "" then .ok none
              else
                let actor : Key := (String.ofList organizationId, String.ofList actorId)
                let payload := tokenPayload actor.1 actor.2 expiresAt
                (compareDigest (String.ofList signature) (hmacHex payload signingSecret)).map
                  fun same => if same then some actor else none
    | _ => .ok none

variable {hmacHex}

/-- The fields of a token, as they are written. -/
theorem fields_token {organizationId actorId signature : String} (expiresAt : Int)
    (plain : ':' ∉ organizationId.toList ∧ ':' ∉ actorId.toList) :
    Text.fields ':' 4 s!"dt1:{tokenPayload organizationId actorId expiresAt}:{signature}".toList =
      ["dt1".toList, organizationId.toList, actorId.toList, (toString expiresAt).toList,
        signature.toList] := by
  have hwritten : s!"dt1:{tokenPayload organizationId actorId expiresAt}:{signature}".toList =
      "dt1".toList ++ ':' :: (organizationId.toList ++ ':' :: (actorId.toList ++
        ':' :: ((toString expiresAt).toList ++ ':' :: signature.toList))) := by
    simp [tokenPayload, toString]
  rw [hwritten, Text.fields_append (by decide), Text.fields_append plain.1,
    Text.fields_append plain.2, Text.fields_append (Text.colon_notMem_int expiresAt)]
  rfl

theorem compareDigest_self (digest : HexDigest) : compareDigest digest.val digest = .ok true := by
  unfold compareDigest
  rw [if_pos]
  · rw [decide_eq_true rfl]
  · rw [List.all_eq_true]
    intro letter hmem
    exact decide_eq_true (digest.property.2 letter hmem)

theorem SigningSecret.ne_empty (secret : SigningSecret) : secret.val ≠ "" := by
  intro heq
  have hlength := secret.property
  rw [heq] at hlength
  exact absurd hlength (by decide)

/-- A token is for the actor it was made for, until it expires. -/
theorem decode_encode {made : Instant} {organizationId actorId : String}
    {secret : SigningSecret} {ttlSeconds : Int} {token : ExecutorToken}
    (encoded : encodeExecutorToken hmacHex made organizationId actorId secret.val ttlSeconds =
      .ok token) (now : Instant) :
    decodeExecutorToken hmacHex now token.text secret.val =
      .ok (if expired now token.expiresAt then none else some (organizationId, actorId)) := by
  unfold encodeExecutorToken at encoded
  split at encoded
  · contradiction
  · rename_i hpresent
    split at encoded
    · contradiction
    · rename_i hplain
      rw [not_or] at hpresent hplain
      cases encoded
      unfold decodeExecutorToken
      rw [fields_token _ hplain]
      simp only
      rw [if_neg (by simp [toString]), if_neg (by simpa using hpresent),
        if_neg (by simpa using (hmacHex _ _).property.1)]
      simp only [String.ofList_toList, Text.int?_toString]
      split
      · rfl
      · rw [if_neg secret.ne_empty, compareDigest_self]
        rfl

end tokens

end DispatchCore.Transports
