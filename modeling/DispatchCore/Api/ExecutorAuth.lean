import Mathlib.Data.Fintype.EquivFin
import DispatchCore.Messaging.Staffing
import DispatchCore.Transports.ExecutorTokens

/-! Requests of executors: who gets a token, whom a token is taken for, and what has become of
the people in between. -/
namespace DispatchCore.Api

open DispatchCore.Library DispatchCore.Domain DispatchCore.Infrastructure
  DispatchCore.Messaging DispatchCore.Transports

inductive ApiFailure
  | http (statusCode : Nat) (detail : String)
  | unhandled (failure : Failure)

/-! ### Attempts -/

/-- The instants at which a client failed to authenticate. -/
abbrev Attempts := Dict String (List Instant)

def authWindowSeconds : Int := 60

def authMaxAttempts : Nat := 10

def rateLimitBucketCap : Nat := 10000

/-- The oldest entries go until no more than so many are left. -/
def Attempts.capped (buckets : Attempts) (cap : Nat) : Attempts :=
  ⟨buckets.entries.drop (buckets.entries.length - cap),
    buckets.distinct.sublist ((List.drop_sublist _ _).map _)⟩

def recentAttempts (buckets : Attempts) (key : String) (now : Instant) :
    List Instant × Attempts :=
  let within (instant : Instant) : Bool := now < instant.addSeconds authWindowSeconds
  let recent := ((buckets.get? key).getD []).filter within
  let buckets := if recent = [] then buckets.erase key else buckets.set key recent
  (recent,
    if rateLimitBucketCap < buckets.entries.length then
      Attempts.capped (buckets.restrict fun _ timestamps => timestamps.getLast?.any within)
        rateLimitBucketCap
    else buckets)

def Attempts.failed (buckets : Attempts) (key : String) (now : Instant) : Attempts :=
  buckets.set key ((buckets.get? key).getD [] ++ [now])

/-! ### Whom a token is taken for -/

structure ExecutorIdentity where
  organizationId : String
  actorId : String
  role : Role
  displayName : String
  provider : Provider
  externalUserId : String
  roles : List Role

/-- The account that stands for an actor: of Telegram first, then by provider and name. -/
def firstAccount (identities : Identities) (actor : Key) : Option (IdentityProvider × String) :=
  ((identities.externalIdentities.entries.filter fun entry =>
    (entry.1.1, entry.2) = actor).map fun entry => entry.1.2).insertionSort
      (fun left right =>
        left.1 = .messenger .telegram ∧ right.1 ≠ .messenger .telegram ∨
          (left.1 = .messenger .telegram ↔ right.1 = .messenger .telegram) ∧
            (OperatorCoordinator.IdentityProvider.value left.1 <
                OperatorCoordinator.IdentityProvider.value right.1 ∨
              left.1 = right.1 ∧ left.2 ≤ right.2)) |>.head?

def resolveActorId (identities : Identities) (organizationId actorId : String)
    (requiredRole : Role) : Except Failure (Option ExecutorIdentity) :=
  let actor : Key := (organizationId, actorId)
  match identities.actors.get? actor with
  | none => .ok none
  | some row =>
      if row.active && identities.hasRole actor requiredRole then
        let identity (provider : Provider) (externalUserId : String) : ExecutorIdentity :=
          ⟨organizationId, actorId, requiredRole, row.displayName, provider,
            if externalUserId = "" then actorId else externalUserId, identities.roleSet actor⟩
        match firstAccount identities actor with
        | none => .ok (some (identity .telegram ""))
        | some (.messenger provider, externalUserId) => .ok (some (identity provider externalUserId))
        | some (other, _) => .error (.valueError
            (Text.repr (OperatorCoordinator.IdentityProvider.value other) ++
              " is not a valid Provider"))
      else .ok none

structure ExecutorSettings where
  organizationId : String
  secret : Option SigningSecret
  ttlSeconds : Int
  bounded : 60 ≤ ttlSeconds ∧ ttlSeconds ≤ 86400

section requests

variable (hmacHex : String → String → HexDigest) (settings : ExecutorSettings)

/-- A request of the actor whom a token is for. -/
def tokenActor (identities : Option Identities) (actor : Key) :
    Except Failure ExecutorIdentity := do
  let resolved ← match identities with
    | some identities => resolveActorId identities actor.1 actor.2 .master
    | none => .ok none
  return resolved.getD ⟨actor.1, actor.2, .master, actor.2, .telegram, actor.2, []⟩

def authenticateExecutor (monotonic now : Instant) (identities : Option Identities)
    (client : String) (authorization : Option String) (buckets : Attempts) :
    Except ApiFailure ExecutorIdentity × Attempts :=
  let (attempts, buckets) := recentAttempts buckets client monotonic
  if authMaxAttempts ≤ attempts.length then
    (.error (.http 429 "Too many authentication attempts"), buckets)
  else
    match settings.secret with
    | none => (.error (.http 503 "Executor auth not configured"), buckets)
    | some signing =>
        match authorization.filter fun header => "Bearer ".toList.isPrefixOf header.toList with
        | none => (.error (.http 401 "Bearer authentication required"),
            Attempts.failed buckets client monotonic)
        | some header =>
            let token := String.ofList (header.toList.drop "Bearer ".toList.length)
            match decodeExecutorToken hmacHex now token signing.val with
            | .error failure => (.error (.unhandled failure), buckets)
            | .ok none => (.error (.http 401 "Invalid or expired executor token"),
                Attempts.failed buckets client monotonic)
            | .ok (some actor) =>
                match tokenActor identities actor with
                | .error failure => (.error (.unhandled failure), buckets)
                | .ok identity => (.ok identity, buckets.erase client)

def createExecutorToken (now : Instant) (identities : Option Identities) (actorId : String) :
    Except ApiFailure ExecutorToken := do
  match settings.secret with
  | none => throw (.http 503 "executor_token_secret is not configured")
  | some signing =>
      match identities with
      | some identities =>
          match resolveActorId identities settings.organizationId actorId .master with
          | .error failure => throw (.unhandled failure)
          | .ok none => throw (.http 404 "Active master was not found")
          | .ok (some _) => pure ()
      | none => pure ()
      (encodeExecutorToken hmacHex now settings.organizationId actorId signing.val
        settings.ttlSeconds).mapError .unhandled

end requests

/-! ### What becomes of the people and of the tokens -/

structure IssuedToken where
  token : ExecutorToken
  actor : Key

/-- The people, the failed attempts, the two clocks, and the tokens issued so far. -/
structure TokenDesk where
  premises : Premises
  attempts : Attempts
  now : Instant
  monotonic : Instant
  issued : List IssuedToken

inductive TokenTurn
  | clock (microseconds : Nat)
  | people (op : StaffOp)
  | createToken (actorId : String)
  | request (client : String) (authorization : Option String)

def later (instant : Instant) (microseconds : Nat) : Instant :=
  ⟨instant.microseconds + microseconds⟩

namespace TokenDesk

variable (hmacHex : String → String → HexDigest) (settings : ExecutorSettings)

def authenticated (desk : TokenDesk) (client : String) (authorization : Option String) :
    Except ApiFailure ExecutorIdentity × Attempts :=
  authenticateExecutor hmacHex settings desk.monotonic desk.now (some desk.premises.identities)
    client authorization desk.attempts

def turn (desk : TokenDesk) : TokenTurn → TokenDesk
  | .clock microseconds => { desk with
      now := later desk.now microseconds
      monotonic := later desk.monotonic microseconds }
  | .people op => { desk with premises := (Premises.perform op desk.premises).2 }
  | .createToken actorId =>
      match createExecutorToken hmacHex settings desk.now (some desk.premises.identities)
          actorId with
      | .ok token =>
          { desk with issued := desk.issued ++ [⟨token, (settings.organizationId, actorId)⟩] }
      | .error _ => desk
  | .request client authorization =>
      { desk with attempts := (desk.authenticated hmacHex settings client authorization).2 }

/-- A request with a token that was issued is accepted only while its actor is an active
master. -/
def AcceptsOnlyMasters (desk : TokenDesk) : Prop :=
  ∀ issued ∈ desk.issued, ∀ client identity,
    (desk.authenticated hmacHex settings client (some ("Bearer " ++ issued.token.text))).1 =
      .ok identity → desk.premises.identities.works issued.actor = true

/-- Nobody ceases to be an active master while a token of theirs has not expired. -/
def Careful (desk : TokenDesk) : TokenTurn → Prop
  | .people op => ∀ actor ∈ op.leaves desk.premises, ∀ issued ∈ desk.issued,
      issued.actor = actor → expired desk.now issued.token.expiresAt
  | _ => True

/-- Every token was made for its actor, and signed. -/
def Signed (desk : TokenDesk) : Prop :=
  ∀ issued ∈ desk.issued, ∃ made secret, settings.secret = some secret ∧
    encodeExecutorToken hmacHex made issued.actor.1 issued.actor.2 secret.val
      settings.ttlSeconds = .ok issued.token

end TokenDesk

section proofs

variable {hmacHex : String → String → HexDigest} {settings : ExecutorSettings}
  {desk : TokenDesk} {issued : IssuedToken}

theorem recentAttempts_fresh {buckets : Attempts} {client : String}
    (fresh : buckets.get? client = none) (now : Instant) :
    (recentAttempts buckets client now).1 = [] := by
  unfold recentAttempts
  rw [fresh]
  rfl

theorem exists_fresh (buckets : Attempts) : ∃ client, buckets.get? client = none := by
  obtain ⟨client, hclient⟩ := Infinite.exists_notMem_finset buckets.keys.toFinset
  refine ⟨client, ?_⟩
  rw [Dict.get?_eq_none]
  simpa [Dict.keys] using hclient

theorem resolveActorId_idle {identities : Identities} {actor : Key}
    (idle : identities.works actor = false) :
    resolveActorId identities actor.1 actor.2 .master = .ok none := by
  unfold resolveActorId
  unfold Identities.works Identities.activeActor at idle
  simp only
  cases hrow : identities.actors.get? (actor.1, actor.2) with
  | none => rfl
  | some row =>
      rw [show identities.actors.get? actor = some row from hrow, Option.any_some] at idle
      simp only
      rw [if_neg]
      rw [show (actor.1, actor.2) = actor from rfl, idle]
      exact Bool.false_ne_true

theorem works_of_resolveActorId {identities : Identities} {organizationId actorId : String}
    {identity : ExecutorIdentity}
    (found : resolveActorId identities organizationId actorId .master = .ok (some identity)) :
    identities.works (organizationId, actorId) = true := by
  by_contra h
  rw [Bool.not_eq_true] at h
  have hidle := resolveActorId_idle h
  rw [found] at hidle
  cases hidle

/-- Whether a token of an actor who is no active master is taken does not depend on the people
any more. -/
theorem authenticated_idle (signed : desk.Signed hmacHex settings) (mem : issued ∈ desk.issued)
    (live : ¬expired desk.now issued.token.expiresAt)
    (idle : desk.premises.identities.works issued.actor = false) :
    ∃ client identity, (desk.authenticated hmacHex settings client
      (some ("Bearer " ++ issued.token.text))).1 = .ok identity := by
  obtain ⟨made, secret, hsecret, hencoded⟩ := signed issued mem
  obtain ⟨client, hclient⟩ := exists_fresh desk.attempts
  refine ⟨client, ⟨issued.actor.1, issued.actor.2, .master, issued.actor.2, .telegram,
    issued.actor.2, []⟩, ?_⟩
  unfold TokenDesk.authenticated authenticateExecutor
  have hrecent := recentAttempts_fresh hclient desk.monotonic
  cases hbuckets : recentAttempts desk.attempts client desk.monotonic with
  | mk attempts buckets =>
      rw [hbuckets] at hrecent
      subst hrecent
      simp only [hsecret]
      rw [if_neg (by decide)]
      rw [Option.filter_some, if_pos (by simp)]
      have htoken : String.ofList (("Bearer " ++ issued.token.text).toList.drop
          "Bearer ".toList.length) = issued.token.text := by
        rw [String.toList_append, List.drop_left, String.ofList_toList]
      simp only [htoken]
      rw [decode_encode hencoded, if_neg live]
      simp only [tokenActor]
      rw [resolveActorId_idle idle]
      rfl

/-- A request that is accepted carries a token that has not expired. -/
theorem live_of_authenticated (signed : desk.Signed hmacHex settings) (mem : issued ∈ desk.issued)
    {client : String} {identity : ExecutorIdentity}
    (accepted : (desk.authenticated hmacHex settings client
      (some ("Bearer " ++ issued.token.text))).1 = .ok identity) :
    ¬expired desk.now issued.token.expiresAt := by
  intro hexpired
  obtain ⟨made, secret, hsecret, hencoded⟩ := signed issued mem
  unfold TokenDesk.authenticated authenticateExecutor at accepted
  have htoken : String.ofList (("Bearer " ++ issued.token.text).toList.drop
      "Bearer ".toList.length) = issued.token.text := by
    rw [String.toList_append, List.drop_left, String.ofList_toList]
  simp only [hsecret, Option.filter_some] at accepted
  rw [if_pos (show "Bearer ".toList.isPrefixOf ("Bearer " ++ issued.token.text).toList = true by
    simp)] at accepted
  simp only [htoken] at accepted
  rw [decode_encode hencoded, if_pos hexpired] at accepted
  split at accepted <;> contradiction

theorem acceptsOnlyMasters_iff (signed : desk.Signed hmacHex settings) :
    desk.AcceptsOnlyMasters hmacHex settings ↔
      ∀ issued ∈ desk.issued, ¬expired desk.now issued.token.expiresAt →
        desk.premises.identities.works issued.actor = true := by
  constructor
  · intro accepts issued mem live
    by_contra idle
    rw [Bool.not_eq_true] at idle
    obtain ⟨client, identity, haccepted⟩ := authenticated_idle signed mem live idle
    rw [accepts issued mem client identity haccepted] at idle
    contradiction
  · intro working issued mem client identity accepted
    exact working issued mem (live_of_authenticated signed mem accepted)

theorem createExecutorToken_ok {now : Instant} {identities : Identities} {actorId : String}
    {token : ExecutorToken}
    (created : createExecutorToken hmacHex settings now (some identities) actorId = .ok token) :
    identities.works (settings.organizationId, actorId) = true ∧
      ∃ secret, settings.secret = some secret ∧
        encodeExecutorToken hmacHex now settings.organizationId actorId secret.val
          settings.ttlSeconds = .ok token := by
  unfold createExecutorToken at created
  cases hsecret : settings.secret with
  | none =>
      rw [hsecret] at created
      contradiction
  | some secret =>
      rw [hsecret] at created
      cases hresolved : resolveActorId identities settings.organizationId actorId .master with
      | error failure =>
          simp only [hresolved] at created
          contradiction
      | ok found =>
          cases found with
          | none =>
              simp only [hresolved] at created
              contradiction
          | some identity =>
              simp only [hresolved] at created
              refine ⟨works_of_resolveActorId hresolved, secret, rfl, ?_⟩
              cases hencoded : encodeExecutorToken hmacHex now settings.organizationId actorId
                  secret.val settings.ttlSeconds with
              | error failure =>
                  rw [hencoded] at created
                  contradiction
              | ok made =>
                  rw [hencoded] at created
                  cases created
                  rfl

theorem signed_turn (signed : desk.Signed hmacHex settings) (next : TokenTurn) :
    (desk.turn hmacHex settings next).Signed hmacHex settings := by
  cases next with
  | createToken actorId =>
      simp only [TokenDesk.turn]
      cases hcreated : createExecutorToken hmacHex settings desk.now
          (some desk.premises.identities) actorId with
      | error failure => exact signed
      | ok token =>
          intro issued mem
          rcases List.mem_append.mp mem with hmem | hmem
          · exact signed issued hmem
          · obtain rfl := List.mem_singleton.mp hmem
            exact ⟨desk.now, (createExecutorToken_ok hcreated).2⟩
  | _ => exact signed

theorem expired_later {now : Instant} {expiresAt : Int} (h : expired now expiresAt)
    (microseconds : Nat) : expired (later now microseconds) expiresAt := by
  unfold expired later at *
  simp only
  omega

/-- A turn after which every request is answered as it should keeps that exactly when nobody
with a token leaves. -/
theorem accepts_turn (signed : desk.Signed hmacHex settings)
    (accepts : desk.AcceptsOnlyMasters hmacHex settings) (next : TokenTurn) :
    (desk.turn hmacHex settings next).AcceptsOnlyMasters hmacHex settings ↔ desk.Careful next := by
  rw [acceptsOnlyMasters_iff (signed_turn signed next)]
  rw [acceptsOnlyMasters_iff signed] at accepts
  cases next with
  | clock microseconds =>
      refine ⟨fun _ => trivial, fun _ issued mem live => ?_⟩
      exact accepts issued mem fun hexpired => live (expired_later hexpired microseconds)
  | request client authorization => exact ⟨fun _ => trivial, fun _ => accepts⟩
  | createToken actorId =>
      refine ⟨fun _ => trivial, fun _ => ?_⟩
      simp only [TokenDesk.turn]
      cases hcreated : createExecutorToken hmacHex settings desk.now
          (some desk.premises.identities) actorId with
      | error failure => exact accepts
      | ok token =>
          intro issued mem live
          rcases List.mem_append.mp mem with hmem | hmem
          · exact accepts issued hmem live
          · obtain rfl := List.mem_singleton.mp hmem
            exact (createExecutorToken_ok hcreated).1
  | people op =>
      constructor
      · intro working actor leaving issued mem hactor
        by_contra live
        have hworks := working issued mem live
        have hgone := StaffOp.gone leaving
        rw [hactor] at hworks
        exact Bool.false_ne_true (hgone.symm.trans hworks)
      · intro careful issued mem live
        refine StaffOp.retains op desk.premises issued.actor ?_ (accepts issued mem live)
        intro leaving
        exact live (careful issued.actor leaving issued mem rfl)

/-- Any history of token requests, of the people and of requests of executors, from any people:
in every state on the way a token that was issued is accepted only while its actor is an active
master, exactly when nobody ceases to be one while a token of theirs has not expired. -/
theorem tokens_follow_roles_iff (hmacHex : String → String → HexDigest)
    (settings : ExecutorSettings) (premises : Premises) (attempts : Attempts)
    (now monotonic : Instant) (turns : List TokenTurn) :
    (∀ before, before <+: turns →
        (before.foldl (TokenDesk.turn hmacHex settings)
          ⟨premises, attempts, now, monotonic, []⟩).AcceptsOnlyMasters hmacHex settings) ↔
      Throughout (TokenDesk.turn hmacHex settings) TokenDesk.Careful
        ⟨premises, attempts, now, monotonic, []⟩ turns := by
  refine @Throughout.iff_good _ _ _ _ _ turns (TokenDesk.Signed hmacHex settings)
    (TokenDesk.AcceptsOnlyMasters hmacHex settings)
    (fun desk next signed => signed_turn signed next)
    (fun desk next signed accepts => accepts_turn signed accepts next) ?_ ?_
  · exact fun issued mem => absurd mem List.not_mem_nil
  · exact fun issued mem => absurd mem List.not_mem_nil

end proofs

def sampleSecret : SigningSecret := ⟨"0123456789abcdef01234567", by decide⟩

/-- What the payload of the sample is signed with. -/
def sampleDigest : HexDigest :=
  ⟨"27251347c12abea42e68642feb7324ed5dafc70c827d597feadc44104b3df4e9", by
    decide +kernel, by simp⟩

def sampleSettings : ExecutorSettings := ⟨"acme", some sampleSecret, 3600, by decide⟩

/-- A master gets a token, and ceases to be a master. -/
def sampleRevocation : List TokenTurn :=
  [.people (.upsertActor "acme" "ann" .master "Ann" none), .createToken "ann",
    .people (.revokeRole ("acme", "ann") .master)]

def sampleDesk : TokenDesk := ⟨.empty, .empty, ⟨0⟩, ⟨0⟩, []⟩

theorem revoked_master_accepted :
    ¬∀ (hmacHex : String → String → HexDigest) (settings : ExecutorSettings)
      (premises : Premises) (attempts : Attempts) (now monotonic : Instant)
      (turns : List TokenTurn),
      (turns.foldl (TokenDesk.turn hmacHex settings)
        ⟨premises, attempts, now, monotonic, []⟩).AcceptsOnlyMasters hmacHex settings := by
  intro claim
  have haccepts := claim (fun _ _ => sampleDigest) sampleSettings .empty .empty ⟨0⟩ ⟨0⟩
    sampleRevocation
  have hsigned : (sampleRevocation.foldl (TokenDesk.turn (fun _ _ => sampleDigest)
      sampleSettings) sampleDesk).Signed (fun _ _ => sampleDigest) sampleSettings := by
    simp only [sampleRevocation, List.foldl_cons, List.foldl_nil]
    exact signed_turn (signed_turn (signed_turn (fun _ mem => absurd mem List.not_mem_nil) _) _) _
  have hrevoked : (sampleRevocation.foldl (TokenDesk.turn (fun _ _ => sampleDigest)
      sampleSettings) sampleDesk).issued.any (fun issued =>
        !decide (expired ⟨0⟩ issued.token.expiresAt) &&
          !(sampleRevocation.foldl (TokenDesk.turn (fun _ _ => sampleDigest)
            sampleSettings) sampleDesk).premises.identities.works issued.actor) = true := by
    decide +kernel
  obtain ⟨issued, mem, hissued⟩ := List.any_eq_true.mp hrevoked
  simp only [Bool.and_eq_true, Bool.not_eq_true', decide_eq_false_iff_not] at hissued
  rw [(acceptsOnlyMasters_iff hsigned).mp haccepts issued mem hissued.1] at hissued
  exact Bool.false_ne_true hissued.2.symm

end DispatchCore.Api
