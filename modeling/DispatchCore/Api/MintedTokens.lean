import DispatchCore.Api.ExecutorAuth

/-! For whom a token works.  Ids of actors are minted in three places, each in its own form, and
a token has no room for an id with a colon. -/
namespace DispatchCore.Api

open DispatchCore.Library DispatchCore.Domain DispatchCore.Infrastructure
  DispatchCore.Messaging DispatchCore.Transports

/-- `Settings.validate_non_blank` -/
def validateNonBlank (value : String) : Except Failure String :=
  if Text.strip value = "" then .error (.valueError "organization fields cannot be blank")
  else .ok (Text.strip value)

/-- Where the id of an actor comes from: the staff that is created, the requesters that
register with an account, and whoever is put into the table by name. -/
inductive ActorOrigin
  | staff (role : Role) (tokenHex : String)
  | requester (provider : Provider) (externalUserId : String)
  | upserted (actorId : String)

def ActorOrigin.actorId : ActorOrigin → String
  | staff role tokenHex => s!"{role.value}:{tokenHex}"
  | requester provider externalUserId => s!"{provider.value}:{externalUserId}"
  | upserted actorId => actorId

/-- `_maybe_register_requester`, for an account that nobody has -/
def registerRequester (identities : Identities) (organizationId : String) (provider : Provider)
    (externalUserId : String) : Except IdentityFailure Identities :=
  identities.upsertActor organizationId (ActorOrigin.requester provider externalUserId).actorId
    .client externalUserId (some (provider, externalUserId))

section minted

variable (hmacHex : String → String → HexDigest) (settings : ExecutorSettings)

/-- An actor gets a token, and until it expires it is read as the actor's. -/
def TokenWorks (secret : SigningSecret) (now : Instant) (identities : Identities)
    (actorId : String) : Prop :=
  ∃ token, createExecutorToken hmacHex settings now (some identities) actorId = .ok token ∧
    ∀ instant, ¬expired instant token.expiresAt →
      decodeExecutorToken hmacHex instant token.text secret.val =
        .ok (some (settings.organizationId, actorId))

variable {hmacHex settings} {secret : SigningSecret} {identities : Identities}

theorem createStaffActor_actorId {draw : StaffDraw} {organizationId name : String} {role : Role}
    {phone requestKey : Option String} {card : StaffCard} {after : Identities}
    (created : identities.createStaffActor draw organizationId role name phone requestKey =
      .ok (card, after))
    (fresh : requestKey.bind (identities.findRequest organizationId) = none) :
    card.actorId = (ActorOrigin.staff role draw.tokenHex).actorId := by
  obtain ⟨-, -, ⟨found, hfound, -⟩ | ⟨bindCode, -, -, -, rfl, -⟩⟩ :=
    Identities.createStaffActor_ok created
  · rw [fresh] at hfound
    contradiction
  · rfl

theorem colon_mem (front back : String) : ':' ∈ s!"{front}:{back}".toList := by
  simp [toString]

theorem organization_ne {raw : String} (accepted : validateNonBlank raw = .ok settings.organizationId) :
    settings.organizationId ≠ "" := by
  unfold validateNonBlank at accepted
  split at accepted
  · contradiction
  · rename_i hworded
    rw [← Except.ok.inj accepted]
    exact hworded

/-- A token is made for an active master exactly when both ids can be written in it. -/
theorem tokenWorks_iff_plain (configured : settings.secret = some secret) (now : Instant)
    {actorId : String} {identity : ExecutorIdentity}
    (active : resolveActorId identities settings.organizationId actorId .master =
      .ok (some identity)) :
    TokenWorks hmacHex settings secret now identities actorId ↔
      (settings.organizationId ≠ "" ∧ actorId ≠ "") ∧
        ':' ∉ settings.organizationId.toList ∧ ':' ∉ actorId.toList := by
  have hcreated : createExecutorToken hmacHex settings now (some identities) actorId =
      (encodeExecutorToken hmacHex now settings.organizationId actorId secret.val
        settings.ttlSeconds).mapError .unhandled := by
    unfold createExecutorToken
    rw [configured]
    simp only [active]
  unfold TokenWorks
  rw [hcreated]
  constructor
  · rintro ⟨token, htoken, -⟩
    unfold encodeExecutorToken at htoken
    by_cases hpresent : settings.organizationId = "" ∨ actorId = ""
    · rw [if_pos hpresent] at htoken
      cases htoken
    · by_cases hcolon : ':' ∈ settings.organizationId.toList ∨ ':' ∈ actorId.toList
      · rw [if_neg hpresent, if_pos hcolon] at htoken
        cases htoken
      · exact ⟨not_or.mp hpresent, not_or.mp hcolon⟩
  · rintro ⟨hpresent, hplain⟩
    have hencoded : ∃ token, encodeExecutorToken hmacHex now settings.organizationId actorId
        secret.val settings.ttlSeconds = .ok token := by
      unfold encodeExecutorToken
      rw [if_neg (not_or.mpr hpresent), if_neg (not_or.mpr hplain)]
      exact ⟨_, rfl⟩
    obtain ⟨token, htoken⟩ := hencoded
    refine ⟨token, by rw [htoken]; rfl, fun instant live => ?_⟩
    rw [decode_encode htoken, if_neg live]

/-- A token works for an active master exactly when the master was put into the table under an
id without a colon, and the organization has none in its id either: for nobody who was created
as staff or has registered. -/
theorem minted_tokens_iff (hmacHex : String → String → HexDigest) {raw : String}
    (accepted : validateNonBlank raw = .ok settings.organizationId)
    (configured : settings.secret = some secret) (now : Instant) (origin : ActorOrigin)
    {identity : ExecutorIdentity}
    (active : resolveActorId identities settings.organizationId origin.actorId .master =
      .ok (some identity)) :
    TokenWorks hmacHex settings secret now identities origin.actorId ↔
      ':' ∉ settings.organizationId.toList ∧
        ∃ actorId, origin = .upserted actorId ∧ actorId ≠ "" ∧ ':' ∉ actorId.toList := by
  rw [tokenWorks_iff_plain configured now active]
  have horganization := organization_ne accepted
  cases origin with
  | staff role tokenHex =>
      constructor
      · rintro ⟨-, -, hplain⟩
        exact absurd (colon_mem role.value tokenHex) hplain
      · rintro ⟨-, actorId, horigin, -⟩
        cases horigin
  | requester provider externalUserId =>
      constructor
      · rintro ⟨-, -, hplain⟩
        exact absurd (colon_mem provider.value externalUserId) hplain
      · rintro ⟨-, actorId, horigin, -⟩
        cases horigin
  | upserted actorId =>
      constructor
      · rintro ⟨⟨-, hpresent⟩, hplain, hcolon⟩
        exact ⟨hplain, actorId, rfl, hpresent, hcolon⟩
      · rintro ⟨hplain, _, ⟨⟩, hpresent, hcolon⟩
        exact ⟨⟨horganization, hpresent⟩, hplain, hcolon⟩

end minted

/-- A master whom an operator has created, and one who was put into the table. -/
def mintedStaff : Identities :=
  (do let (_, created) ← Identities.empty.createStaffActor ⟨"00112233aabbccdd", ⟨0⟩, [7]⟩ "acme"
        .master "Иван" none none
      created.upsertActor "acme" "ann" .master "Ann" none
    : Except IdentityFailure Identities).toOption.getD .empty

theorem plain_token_works :
    TokenWorks (fun _ _ => sampleDigest) sampleSettings sampleSecret ⟨0⟩ mintedStaff "ann" := by
  have hactive : resolveActorId mintedStaff "acme" (ActorOrigin.upserted "ann").actorId .master =
      .ok (some ⟨"acme", "ann", .master, "Ann", .telegram, "ann", [.master]⟩) := rfl
  have haccepted : validateNonBlank " acme" = .ok sampleSettings.organizationId := rfl
  refine (minted_tokens_iff (fun _ _ => sampleDigest) haccepted rfl ⟨0⟩ (.upserted "ann")
    hactive).mpr ?_
  exact ⟨by decide, "ann", rfl, by decide, by decide⟩

theorem staff_token_refused :
    (∃ identity, resolveActorId mintedStaff sampleSettings.organizationId
      (ActorOrigin.staff .master "00112233aabbccdd").actorId .master = .ok (some identity)) ∧
    ¬TokenWorks (fun _ _ => sampleDigest) sampleSettings sampleSecret ⟨0⟩ mintedStaff
      (ActorOrigin.staff .master "00112233aabbccdd").actorId := by
  have hactive : resolveActorId mintedStaff "acme"
      (ActorOrigin.staff .master "00112233aabbccdd").actorId .master =
        .ok (some ⟨"acme", "master:00112233aabbccdd", .master, "Иван", .telegram,
          "master:00112233aabbccdd", [.master]⟩) := rfl
  refine ⟨⟨_, hactive⟩, fun works => ?_⟩
  obtain ⟨-, -, hplain⟩ := (tokenWorks_iff_plain rfl ⟨0⟩ hactive).mp works
  exact absurd (colon_mem "master" "00112233aabbccdd") hplain

end DispatchCore.Api
