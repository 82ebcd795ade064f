import DispatchCore.Api.ExecutorAuth
import DispatchCore.Infrastructure.ReadModels
import DispatchCore.Library.Windows

/-! The failed attempts of the clients that ask for the administration or for an executor: one
table of them for both, in which nobody has ten of the last minute and another. -/
namespace DispatchCore.Api

open DispatchCore.Library DispatchCore.Domain DispatchCore.Infrastructure
  DispatchCore.Messaging DispatchCore.Transports

/-! ### The two ways to authenticate -/

/-- The settings accept no shorter key. -/
def AdminKey : Type := { text : String // 32 ≤ text.toList.length }

def bearer (authorization : Option String) : Option String :=
  (authorization.filter fun header => "Bearer ".toList.isPrefixOf header.toList).map
    fun header => String.ofList (header.toList.drop "Bearer ".toList.length)

def authenticate (adminApiKey : AdminKey) (monotonic : Instant) (client : String)
    (authorization : Option String) (buckets : Attempts) : Except ApiFailure Unit × Attempts :=
  let (attempts, buckets) := recentAttempts buckets client monotonic
  if authMaxAttempts ≤ attempts.length then
    (.error (.http 429 "Too many authentication attempts"), buckets)
  else
    match bearer authorization with
    | none => (.error (.http 401 "Bearer authentication required"),
        Attempts.failed buckets client monotonic)
    | some key =>
        match Infrastructure.compareDigest key adminApiKey.val with
        | .error failure => (.error (.unhandled failure), buckets)
        | .ok false => (.error (.http 401 "Invalid API key"),
            Attempts.failed buckets client monotonic)
        | .ok true => (.ok (), buckets.erase client)

section executors

variable (hmacHex : String → String → HexDigest) (settings : ExecutorSettings)

/-- `authenticate_executor` up to where it waits for the identities. -/
def checkExecutor (monotonic now : Instant) (client : String) (authorization : Option String)
    (buckets : Attempts) : Except ApiFailure Key × Attempts :=
  let (attempts, buckets) := recentAttempts buckets client monotonic
  if authMaxAttempts ≤ attempts.length then
    (.error (.http 429 "Too many authentication attempts"), buckets)
  else
    match settings.secret with
    | none => (.error (.http 503 "Executor auth not configured"), buckets)
    | some signing =>
        match bearer authorization with
        | none => (.error (.http 401 "Bearer authentication required"),
            Attempts.failed buckets client monotonic)
        | some token =>
            match decodeExecutorToken hmacHex now token signing.val with
            | .error failure => (.error (.unhandled failure), buckets)
            | .ok none => (.error (.http 401 "Invalid or expired executor token"),
                Attempts.failed buckets client monotonic)
            | .ok (some actor) => (.ok actor, buckets)

/-- And from there on. -/
def admitExecutor (identities : Option Identities) (client : String) (actor : Key)
    (buckets : Attempts) : Except ApiFailure ExecutorIdentity × Attempts :=
  match tokenActor identities actor with
  | .error failure => (.error (.unhandled failure), buckets)
  | .ok identity => (.ok identity, buckets.erase client)

/-- Where nothing happens in between, the two make one request. -/
theorem authenticateExecutor_eq (monotonic now : Instant) (identities : Option Identities)
    (client : String) (authorization : Option String) (buckets : Attempts) :
    authenticateExecutor hmacHex settings monotonic now identities client authorization buckets =
      match checkExecutor hmacHex settings monotonic now client authorization buckets with
      | (.error failure, after) => (.error failure, after)
      | (.ok actor, after) => admitExecutor identities client actor after := by
  unfold authenticateExecutor checkExecutor admitExecutor bearer
  cases recentAttempts buckets client monotonic with
  | mk attempts after =>
      simp only
      by_cases hfull : authMaxAttempts ≤ attempts.length
      · rw [if_pos hfull, if_pos hfull]
      · rw [if_neg hfull, if_neg hfull]
        cases settings.secret with
        | none => rfl
        | some signing =>
            cases authorization.filter fun header =>
                "Bearer ".toList.isPrefixOf header.toList with
            | none => rfl
            | some header =>
                simp only [Option.map_some]
                cases decodeExecutorToken hmacHex now (String.ofList (header.toList.drop
                    "Bearer ".toList.length)) signing.val with
                | error failure => rfl
                | ok decoded =>
                    cases decoded with
                    | none => rfl
                    | some actor => rfl

end executors

/-! ### Calls of any clients -/

/-- The table, the two clocks, and the executors whose identities are being looked up. -/
structure Guard where
  attempts : Attempts
  monotonic : Instant
  now : Instant
  lookups : List (String × Key)

inductive GuardEvent
  | clock (microseconds : Nat) (now : Instant)
  | authenticate (client : String) (authorization : Option String)
  | authenticateExecutor (client : String) (authorization : Option String)
  | lookedUp (index : Nat) (identities : Option Identities)

/-- What a client is told. -/
abbrev Answer := String × Except ApiFailure Unit

def unauthorized (client : String) : Option Answer → Bool
  | some (other, .error (.http 401 _)) => other = client
  | _ => false

def admitted (client : String) : Option Answer → Bool
  | some (other, .ok ()) => other = client
  | _ => false

namespace Guard

/-- Before anybody has failed. -/
def start (monotonic now : Instant) : Guard := ⟨.empty, monotonic, now, []⟩

section steps

variable (hmacHex : String → String → HexDigest) (adminApiKey : AdminKey)
  (settings : ExecutorSettings)

def answer (guard : Guard) : GuardEvent → Option Answer × Guard
  | .clock microseconds now =>
      (none, { guard with monotonic := later guard.monotonic microseconds, now })
  | .authenticate client authorization =>
      let (result, attempts) := Api.authenticate adminApiKey guard.monotonic client authorization
        guard.attempts
      (some (client, result), { guard with attempts })
  | .authenticateExecutor client authorization =>
      match checkExecutor hmacHex settings guard.monotonic guard.now client authorization
          guard.attempts with
      | (.error failure, attempts) => (some (client, .error failure), { guard with attempts })
      | (.ok actor, attempts) =>
          (none, { guard with attempts, lookups := guard.lookups ++ [(client, actor)] })
  | .lookedUp index identities =>
      match guard.lookups[index]? with
      | none => (none, guard)
      | some (client, actor) =>
          let (result, attempts) := admitExecutor identities client actor guard.attempts
          (some (client, result.map fun _ => ()),
            { guard with attempts, lookups := guard.lookups.eraseIdx index })

def turn (guard : Guard) (event : GuardEvent) : Guard :=
  (guard.answer hmacHex adminApiKey settings event).2

/-- When the client was told that it failed, in a run. -/
def failures (client : String) : Guard → List GuardEvent → List Int
  | _, [] => []
  | guard, event :: rest =>
      (if unauthorized client (guard.answer hmacHex adminApiKey settings event).1 then
          [guard.monotonic.microseconds] else []) ++
        failures client (guard.turn hmacHex adminApiKey settings event) rest

def admits (guard : Guard) (event : GuardEvent) (client : String) : Prop :=
  admitted client (guard.answer hmacHex adminApiKey settings event).1 = true

end steps

/-- The table once the call has looked at the attempts of its client. -/
def looked (guard : Guard) : GuardEvent → Attempts
  | .authenticate client _ | .authenticateExecutor client _ =>
      (recentAttempts guard.attempts client guard.monotonic).2
  | _ => guard.attempts

end Guard

/-! ### What looking at the attempts leaves of the table -/

/-- An attempt is one of the last minute. -/
def isRecent (now instant : Instant) : Bool := now < instant.addSeconds authWindowSeconds

/-- The window in the unit of the clock. -/
def authWindow : Int := authWindowSeconds * 1000000

def readings (times : List Instant) : List Int := times.map Instant.microseconds

namespace Attempts

/-- What the table has of a client. -/
def of (buckets : Attempts) (client : String) : List Instant := (buckets.get? client).getD []

/-- The table with what is no longer recent of a client taken off. -/
def refreshed (buckets : Attempts) (key : String) (now : Instant) : Attempts :=
  let recent := (buckets.of key).filter (isRecent now)
  if recent = [] then buckets.erase key else buckets.set key recent

/-- The entries whose last attempt is recent. -/
def live (buckets : Attempts) (now : Instant) : Attempts :=
  buckets.restrict fun _ timestamps => timestamps.getLast?.any (isRecent now)

variable {buckets : Attempts} {client key : String} {now : Instant}

theorem of_set (times : List Instant) :
    Attempts.of (buckets.set key times) client = if client = key then times else buckets.of client := by
  unfold of
  rw [Dict.get?_set]
  split <;> rfl

theorem of_erase :
    Attempts.of (buckets.erase key) client = if client = key then [] else buckets.of client := by
  unfold of
  rw [Dict.get?_erase]
  split <;> rfl

theorem of_failed : Attempts.of (buckets.failed key now) client =
    if client = key then buckets.of client ++ [now] else buckets.of client := by
  unfold failed
  rw [of_set]
  by_cases h : client = key
  · rw [if_pos h, if_pos h, h]
    rfl
  · rw [if_neg h, if_neg h]

theorem of_refreshed : (buckets.refreshed key now).of client =
    if client = key then (buckets.of client).filter (isRecent now) else buckets.of client := by
  unfold refreshed
  by_cases hrecent : (buckets.of key).filter (isRecent now) = []
  · rw [if_pos hrecent, of_erase]
    by_cases h : client = key
    · rw [if_pos h, if_pos h, h, hrecent]
    · rw [if_neg h, if_neg h]
  · rw [if_neg hrecent, of_set]
    by_cases h : client = key
    · rw [if_pos h, if_pos h, h]
    · rw [if_neg h, if_neg h]

theorem recentAttempts_eq (buckets : Attempts) (key : String) (now : Instant) :
    recentAttempts buckets key now = ((buckets.of key).filter (isRecent now),
      if rateLimitBucketCap < (buckets.refreshed key now).entries.length then
        ((buckets.refreshed key now).live now).capped rateLimitBucketCap
      else buckets.refreshed key now) := rfl

/-- An entry of a part of the entries is an entry. -/
theorem get?_capped (buckets : Attempts) (cap : Nat) (client : String) :
    (buckets.capped cap).get? client = none ∨
      (buckets.capped cap).get? client = buckets.get? client := by
  cases h : (buckets.capped cap).get? client with
  | none => exact .inl rfl
  | some times =>
      right
      rw [Dict.get?_eq_some] at h
      exact ((Dict.get?_eq_some ..).mpr (List.mem_of_mem_drop h)).symm

theorem get?_live (buckets : Attempts) (now : Instant) (client : String) :
    (buckets.live now).get? client = none ∨
      (buckets.live now).get? client = buckets.get? client := by
  unfold live
  rw [Dict.get?_restrict]
  cases buckets.get? client with
  | none => exact .inl rfl
  | some times =>
      rw [Option.filter_some]
      split
      · exact .inr rfl
      · exact .inl rfl

/-- Of another client, and of the recent attempts of this one, nothing changes where the entry
stays. -/
theorem of_recentAttempts (buckets : Attempts) (key client : String) (now : Instant) :
    (recentAttempts buckets key now).2.get? client = none ∨
      Attempts.of (recentAttempts buckets key now).2 client =
        (buckets.refreshed key now).of client := by
  rw [recentAttempts_eq]
  simp only
  by_cases hcap : rateLimitBucketCap < (buckets.refreshed key now).entries.length
  · rw [if_pos hcap]
    rcases get?_capped ((buckets.refreshed key now).live now) rateLimitBucketCap client with
      hnone | hcapped
    · exact .inl hnone
    · rcases get?_live (buckets.refreshed key now) now client with hnone | hlive
      · exact .inl (hcapped.trans hnone)
      · right
        unfold of
        rw [hcapped, hlive]
  · rw [if_neg hcap]
    exact .inr rfl

theorem isRecent_iff {now instant : Instant} :
    isRecent now instant = true ↔ now.microseconds - authWindow < instant.microseconds := by
  unfold isRecent authWindow Instant.addSeconds
  rw [decide_eq_true_eq, Instant.lt_def]
  simp only
  omega

theorem readings_recent (now : Instant) (times : List Instant) :
    readings (times.filter (isRecent now)) =
      laterThan (now.microseconds - authWindow) (readings times) := by
  unfold readings laterThan
  rw [List.filter_map]
  congr 1
  apply List.filter_congr
  intro instant _
  rw [Bool.eq_iff_iff, isRecent_iff, Function.comp_apply, decide_eq_true_eq]

/-- What is recent stays, unless it is dropped with its entry. -/
theorem laterThan_recentAttempts {early : Int} (hearly : now.microseconds - authWindow ≤ early)
    (kept : (recentAttempts buckets key now).2.get? client = none →
      (buckets.of client).any (isRecent now) = false) :
    laterThan early (readings (Attempts.of (recentAttempts buckets key now).2 client)) =
      laterThan early (readings (buckets.of client)) := by
  rcases of_recentAttempts buckets key client now with hnone | hsame
  · have hstale : (buckets.of client).filter (isRecent now) = [] := by
      have hany := kept hnone
      rw [List.any_eq_false] at hany
      exact List.filter_eq_nil_iff.mpr hany
    have hgone : Attempts.of (recentAttempts buckets key now).2 client = [] := by
      rw [of, hnone]
      rfl
    have hcut : laterThan early (laterThan (now.microseconds - authWindow)
        (readings (buckets.of client))) = laterThan early (readings (buckets.of client)) :=
      laterThan_laterThan hearly
    rw [hgone, ← hcut, ← readings_recent, hstale]
  · rw [hsame, of_refreshed]
    by_cases h : client = key
    · rw [if_pos h, readings_recent, laterThan_laterThan hearly]
    · rw [if_neg h]

theorem sublist_recentAttempts (buckets : Attempts) (key client : String) (now : Instant) :
    (Attempts.of (recentAttempts buckets key now).2 client).Sublist (buckets.of client) := by
  rcases of_recentAttempts buckets key client now with hnone | hsame
  · rw [of, hnone]
    exact List.nil_sublist _
  · rw [hsame, of_refreshed]
    split
    · exact List.filter_sublist
    · exact List.Sublist.refl _

theorem length_recentAttempts (buckets : Attempts) (key : String) (now : Instant) :
    (recentAttempts buckets key now).2.entries.length ≤ rateLimitBucketCap := by
  rw [recentAttempts_eq]
  simp only
  split
  · simp only [capped, List.length_drop]
    omega
  · omega

end Attempts

/-- The call drops what the table has of a client's last minute. -/
def Guard.forgets (guard : Guard) (event : GuardEvent) (client : String) : Prop :=
  (guard.attempts.of client).any (isRecent guard.monotonic) = true ∧
    (guard.looked event).get? client = none

/-! ### What a call can do -/

section calls

variable {hmacHex : String → String → HexDigest} {adminApiKey : AdminKey}
  {settings : ExecutorSettings} {guard : Guard} {event : GuardEvent} {client : String}

/-- Whether anybody is told so: a failure the table has, with room for it before, a success
that clears the entry of its client, or neither. -/
inductive Guard.Outcome (guard : Guard) (event : GuardEvent) : Option Answer → Attempts → Prop
  | unauthorized (client detail : String)
      (room : ((guard.attempts.of client).filter (isRecent guard.monotonic)).length <
        authMaxAttempts)
      (bounded : (guard.looked event).entries.length ≤ rateLimitBucketCap) :
      Guard.Outcome guard event (some (client, .error (.http 401 detail)))
        ((guard.looked event).failed client guard.monotonic)
  | admitted (client : String) :
      Guard.Outcome guard event (some (client, .ok ())) ((guard.looked event).erase client)
  | other (answer : Option Answer) (silent : ∀ client, unauthorized client answer = false)
      (turned : ∀ client, admitted client answer = false) :
      Guard.Outcome guard event answer (guard.looked event)

theorem outcome_authenticate (authorization : Option String) :
    guard.Outcome (.authenticate client authorization)
      (some (client, (authenticate adminApiKey guard.monotonic client authorization
        guard.attempts).1))
      (authenticate adminApiKey guard.monotonic client authorization guard.attempts).2 := by
  have hbounded := Attempts.length_recentAttempts guard.attempts client guard.monotonic
  unfold authenticate
  rw [show recentAttempts guard.attempts client guard.monotonic =
    ((guard.attempts.of client).filter (isRecent guard.monotonic),
      (recentAttempts guard.attempts client guard.monotonic).2) from rfl]
  simp only
  by_cases hfull : authMaxAttempts ≤
      ((guard.attempts.of client).filter (isRecent guard.monotonic)).length
  · rw [if_pos hfull]
    exact .other _ (fun _ => rfl) fun _ => rfl
  · rw [if_neg hfull]
    cases bearer authorization with
    | none => exact .unauthorized client _ (not_le.mp hfull) hbounded
    | some key =>
        simp only
        cases Infrastructure.compareDigest key adminApiKey.val with
        | error failure => exact .other _ (fun _ => rfl) fun _ => rfl
        | ok same =>
            cases same with
            | false => exact .unauthorized client _ (not_le.mp hfull) hbounded
            | true => exact .admitted client

theorem outcome_checkExecutor (authorization : Option String) :
    (∃ actor, (checkExecutor hmacHex settings guard.monotonic guard.now client authorization
        guard.attempts) = (.ok actor, guard.looked (.authenticateExecutor client authorization))) ∨
    ∃ failure attempts, (checkExecutor hmacHex settings guard.monotonic guard.now client
        authorization guard.attempts) = (.error failure, attempts) ∧
      guard.Outcome (.authenticateExecutor client authorization)
        (some (client, .error failure)) attempts := by
  have hbounded := Attempts.length_recentAttempts guard.attempts client guard.monotonic
  unfold checkExecutor
  rw [show recentAttempts guard.attempts client guard.monotonic =
    ((guard.attempts.of client).filter (isRecent guard.monotonic),
      (recentAttempts guard.attempts client guard.monotonic).2) from rfl]
  simp only
  by_cases hfull : authMaxAttempts ≤
      ((guard.attempts.of client).filter (isRecent guard.monotonic)).length
  · rw [if_pos hfull]
    exact .inr ⟨_, _, rfl, .other _ (fun _ => rfl) fun _ => rfl⟩
  · rw [if_neg hfull]
    cases settings.secret with
    | none => exact .inr ⟨_, _, rfl, .other _ (fun _ => rfl) fun _ => rfl⟩
    | some signing =>
        cases bearer authorization with
        | none => exact .inr ⟨_, _, rfl, .unauthorized client _ (not_le.mp hfull) hbounded⟩
        | some token =>
            simp only
            cases decodeExecutorToken hmacHex guard.now token signing.val with
            | error failure => exact .inr ⟨_, _, rfl, .other _ (fun _ => rfl) fun _ => rfl⟩
            | ok decoded =>
                cases decoded with
                | none =>
                    exact .inr ⟨_, _, rfl, .unauthorized client _ (not_le.mp hfull) hbounded⟩
                | some actor => exact .inl ⟨actor, rfl⟩

/-- One event of a run. -/
theorem outcome_turn (hmacHex : String → String → HexDigest) (adminApiKey : AdminKey)
    (settings : ExecutorSettings) (guard : Guard) (event : GuardEvent) :
    guard.Outcome event (guard.answer hmacHex adminApiKey settings event).1
      (guard.turn hmacHex adminApiKey settings event).attempts := by
  cases event with
  | clock microseconds now => exact .other none (fun _ => rfl) fun _ => rfl
  | authenticate client authorization => exact outcome_authenticate authorization
  | authenticateExecutor client authorization =>
      simp only [Guard.turn, Guard.answer]
      rcases @outcome_checkExecutor hmacHex settings guard client authorization with
        ⟨actor, hcheck⟩ | ⟨failure, attempts, hcheck, houtcome⟩
      · rw [hcheck]
        exact .other none (fun _ => rfl) fun _ => rfl
      · rw [hcheck]
        exact houtcome
  | lookedUp index identities =>
      simp only [Guard.turn, Guard.answer]
      cases guard.lookups[index]? with
      | none => exact .other none (fun _ => rfl) fun _ => rfl
      | some lookup =>
          simp only [admitExecutor]
          cases tokenActor identities lookup.2 with
          | error failure =>
              exact .other (some (lookup.1, .error (.unhandled failure))) (fun _ => rfl) fun _ => rfl
          | ok identity => exact .admitted lookup.1

theorem monotonic_turn (guard : Guard) (event : GuardEvent) : guard.monotonic.microseconds ≤
    (guard.turn hmacHex adminApiKey settings event).monotonic.microseconds := by
  cases event with
  | clock microseconds now =>
      show guard.monotonic.microseconds ≤ guard.monotonic.microseconds + microseconds
      omega
  | authenticate client authorization => exact le_rfl
  | authenticateExecutor client authorization =>
      unfold Guard.turn Guard.answer
      simp only
      split <;> exact le_rfl
  | lookedUp index identities =>
      unfold Guard.turn Guard.answer
      simp only
      split <;> exact le_rfl

theorem looked_kept (kept : ¬guard.forgets event client) {early : Int}
    (hearly : guard.monotonic.microseconds - authWindow ≤ early) :
    laterThan early (readings (Attempts.of (guard.looked event) client)) =
      laterThan early (readings (guard.attempts.of client)) := by
  have hkept : (guard.looked event).get? client = none →
      (guard.attempts.of client).any (isRecent guard.monotonic) = false := by
    intro hnone
    by_contra hany
    exact kept ⟨Bool.eq_true_of_not_eq_false hany, hnone⟩
  cases event with
  | clock microseconds now => rfl
  | authenticate caller authorization => exact Attempts.laterThan_recentAttempts hearly hkept
  | authenticateExecutor caller authorization =>
      exact Attempts.laterThan_recentAttempts hearly hkept
  | lookedUp index identities => rfl

/-- The table has as many recent attempts of a client as it failed in a stretch of the run, which
never exceeded the limit. -/
structure Guard.Covers (guard : Guard) (client : String) (history : List Int) : Prop where
  kept : ∀ early, guard.monotonic.microseconds - authWindow ≤ early →
    (laterThan early history).length ≤
      (laterThan early (readings (guard.attempts.of client))).length
  limited : Limited authWindow authMaxAttempts history

theorem covers_start (guard : Guard) (client : String) : guard.Covers client [] :=
  ⟨fun _ _ => Nat.zero_le _, Limited.nil⟩

theorem covers_turn {history : List Int} (covers : guard.Covers client history)
    (calm : ¬guard.admits hmacHex adminApiKey settings event client)
    (kept : ¬guard.forgets event client) :
    (guard.turn hmacHex adminApiKey settings event).Covers client
      (history ++ if unauthorized client (guard.answer hmacHex adminApiKey settings event).1 then
        [guard.monotonic.microseconds] else []) := by
  have houtcome := outcome_turn hmacHex adminApiKey settings guard event
  have hclock := @monotonic_turn hmacHex adminApiKey settings guard event
  have hlooked : ∀ early, guard.monotonic.microseconds - authWindow ≤ early →
      (laterThan early history).length ≤
        (laterThan early (readings (Attempts.of (guard.looked event) client))).length := by
    intro early hearly
    rw [looked_kept kept hearly]
    exact covers.kept early hearly
  unfold Guard.admits at calm
  generalize (guard.answer hmacHex adminApiKey settings event).1 = answer at houtcome calm
  generalize hturn : guard.turn hmacHex adminApiKey settings event = after at houtcome hclock
  generalize hattempts : after.attempts = attempts at houtcome
  have hclose : ∀ early, after.monotonic.microseconds - authWindow ≤ early →
      guard.monotonic.microseconds - authWindow ≤ early := by
    intro early hearly
    omega
  cases houtcome with
  | unauthorized other detail room bounded =>
      by_cases hclient : client = other
      · have htold : unauthorized client (some (other, .error (.http 401 detail))) = true :=
          decide_eq_true hclient.symm
        rw [if_pos htold]
        constructor
        · intro early hearly
          have hlast : readings (Attempts.of ((guard.looked event).failed other guard.monotonic)
              client) = readings (Attempts.of (guard.looked event) client) ++
                [guard.monotonic.microseconds] := by
            rw [Attempts.of_failed, if_pos hclient]
            exact List.map_append
          rw [hattempts, hlast, laterThan_append, laterThan_append, List.length_append,
            List.length_append]
          exact Nat.add_le_add_right (hlooked early (hclose early hearly)) _
        · refine covers.limited.concat (lt_of_le_of_lt (covers.kept _ le_rfl) ?_)
          rw [← Attempts.readings_recent, hclient, readings, List.length_map]
          exact room
      · have hsilent : unauthorized client (some (other, .error (.http 401 detail))) = false :=
          decide_eq_false fun heq => hclient heq.symm
        rw [hsilent, if_neg Bool.false_ne_true, List.append_nil]
        refine ⟨fun early hearly => ?_, covers.limited⟩
        rw [hattempts, Attempts.of_failed, if_neg hclient]
        exact hlooked early (hclose early hearly)
  | admitted other =>
      have hclient : client ≠ other := fun heq => calm (decide_eq_true heq.symm)
      have hsilent : unauthorized client (some (other, .ok ())) = false := rfl
      rw [hsilent, if_neg Bool.false_ne_true, List.append_nil]
      refine ⟨fun early hearly => ?_, covers.limited⟩
      rw [hattempts, Attempts.of_erase, if_neg hclient]
      exact hlooked early (hclose early hearly)
  | other _ silent turned =>
      rw [silent client, if_neg Bool.false_ne_true, List.append_nil]
      refine ⟨fun early hearly => ?_, covers.limited⟩
      rw [hattempts]
      exact hlooked early (hclose early hearly)

/-- A stretch of a run in which a client is not admitted and not forgotten. -/
def Guard.Undisturbed (hmacHex : String → String → HexDigest) (adminApiKey : AdminKey)
    (settings : ExecutorSettings) (client : String) : Guard → List GuardEvent → Prop :=
  Throughout (Guard.turn hmacHex adminApiKey settings) fun guard event =>
    ¬guard.admits hmacHex adminApiKey settings event client ∧ ¬guard.forgets event client

theorem covers_run {events : List GuardEvent}
    (undisturbed : Guard.Undisturbed hmacHex adminApiKey settings client guard events)
    {history : List Int} (covers : guard.Covers client history) :
    (events.foldl (Guard.turn hmacHex adminApiKey settings) guard).Covers client
      (history ++ Guard.failures hmacHex adminApiKey settings client guard events) := by
  induction events generalizing guard history with
  | nil =>
      rw [Guard.failures, List.append_nil]
      exact covers
  | cons event rest ih =>
      obtain ⟨⟨hcalm, hkept⟩, hrest⟩ := undisturbed
      rw [Guard.failures, ← List.append_assoc]
      exact ih hrest (covers_turn covers hcalm hkept)

/-! ### The size of the table -/

theorem looked_bounded (bounded : guard.attempts.entries.length ≤ rateLimitBucketCap + 1) :
    (guard.looked event).entries.length ≤ rateLimitBucketCap + 1 := by
  cases event with
  | clock microseconds now => exact bounded
  | authenticate caller authorization =>
      exact (Attempts.length_recentAttempts ..).trans (Nat.le_succ _)
  | authenticateExecutor caller authorization =>
      exact (Attempts.length_recentAttempts ..).trans (Nat.le_succ _)
  | lookedUp index identities => exact bounded

theorem bounded_turn (bounded : guard.attempts.entries.length ≤ rateLimitBucketCap + 1) :
    (guard.turn hmacHex adminApiKey settings event).attempts.entries.length ≤
      rateLimitBucketCap + 1 := by
  have houtcome := outcome_turn hmacHex adminApiKey settings guard event
  generalize (guard.answer hmacHex adminApiKey settings event).1 = answer at houtcome
  generalize (guard.turn hmacHex adminApiKey settings event).attempts = attempts at houtcome ⊢
  cases houtcome with
  | unauthorized other detail room hsmall =>
      exact (Dict.length_set_le ..).trans (Nat.add_le_add_right hsmall 1)
  | admitted other => exact (List.length_filter_le ..).trans (looked_bounded bounded)
  | other _ silent turned => exact looked_bounded bounded

/-! ### Who is forgotten -/

/-- The attempts of every client are in order. -/
def Guard.Chronological (guard : Guard) : Prop :=
  ∀ client, (readings (guard.attempts.of client)).Pairwise (· ≤ ·) ∧
    ∀ instant ∈ readings (guard.attempts.of client), instant ≤ guard.monotonic.microseconds

theorem looked_sublist : (readings (Attempts.of (guard.looked event) client)).Sublist
    (readings (guard.attempts.of client)) := by
  apply List.Sublist.map
  cases event with
  | clock microseconds now => exact List.Sublist.refl _
  | authenticate caller authorization => exact Attempts.sublist_recentAttempts ..
  | authenticateExecutor caller authorization => exact Attempts.sublist_recentAttempts ..
  | lookedUp index identities => exact List.Sublist.refl _

theorem chronological_turn (chronological : guard.Chronological) :
    (guard.turn hmacHex adminApiKey settings event).Chronological := by
  intro client
  have houtcome := outcome_turn hmacHex adminApiKey settings guard event
  have hclock := @monotonic_turn hmacHex adminApiKey settings guard event
  have hlooked := @looked_sublist guard event client
  obtain ⟨hordered, hreached⟩ := chronological client
  have hsorted := hordered.sublist hlooked
  have hpast : ∀ instant ∈ readings (Attempts.of (guard.looked event) client),
      instant ≤ guard.monotonic.microseconds :=
    fun instant hmem => hreached instant (hlooked.mem hmem)
  have hsame : ∀ times : List Int,
      times.Sublist (readings (Attempts.of (guard.looked event) client)) →
      times.Pairwise (· ≤ ·) ∧ ∀ instant ∈ times, instant ≤
        (guard.turn hmacHex adminApiKey settings event).monotonic.microseconds :=
    fun times hsub => ⟨hsorted.sublist hsub, fun instant hmem =>
      (hpast instant (hsub.mem hmem)).trans hclock⟩
  generalize (guard.answer hmacHex adminApiKey settings event).1 = answer at houtcome
  generalize (guard.turn hmacHex adminApiKey settings event).attempts = attempts at houtcome ⊢
  cases houtcome with
  | unauthorized other detail room bounded =>
      rw [Attempts.of_failed]
      split
      · rw [readings, List.map_append]
        refine ⟨ordered_concat hsorted hpast, fun instant hmem => ?_⟩
        rcases List.mem_append.mp hmem with hbefore | hlast
        · exact (hpast instant hbefore).trans hclock
        · rw [List.mem_singleton.mp hlast]
          exact hclock
      · exact hsame _ (List.Sublist.refl _)
  | admitted other =>
      rw [Attempts.of_erase]
      split
      · exact hsame _ (List.nil_sublist _)
      · exact hsame _ (List.Sublist.refl _)
  | other _ silent turned => exact hsame _ (List.Sublist.refl _)

end calls

section crowds

variable {buckets : Attempts} {client key : String} {now : Instant}

theorem of_get? {times : List Instant} (found : buckets.get? client = some times) :
    buckets.of client = times := by
  rw [Attempts.of, found]
  rfl

theorem get?_of_any {test : Instant → Bool} (h : (buckets.of client).any test = true) :
    buckets.get? client = some (buckets.of client) := by
  unfold Attempts.of at *
  cases hget : buckets.get? client with
  | none =>
      rw [hget] at h
      contradiction
  | some times => rfl

/-- In a list that is in order the last instant is recent if any is. -/
theorem getLast_recent {times : List Instant} (ordered : (readings times).Pairwise (· ≤ ·))
    (h : times.any (isRecent now) = true) : times.getLast?.any (isRecent now) = true := by
  obtain ⟨instant, hmem, hrecent⟩ := List.any_eq_true.mp h
  rcases List.eq_nil_or_concat times with rfl | ⟨front, last, rfl⟩
  · contradiction
  · rw [List.concat_eq_append] at *
    rw [readings, List.map_append, List.pairwise_append] at ordered
    rw [List.getLast?_concat, Option.any_some, Attempts.isRecent_iff]
    rw [Attempts.isRecent_iff] at hrecent
    rcases List.mem_append.mp hmem with hfront | hlast
    · exact hrecent.trans_le (ordered.2.2 _ (List.mem_map_of_mem hfront) _ (by simp))
    · rw [← List.mem_singleton.mp hlast]
      exact hrecent

/-- The entries that are kept as recent are entries with a recent attempt. -/
theorem length_live_le (buckets : Attempts) (key : String) (now : Instant) :
    ((buckets.refreshed key now).live now).entries.length ≤
      (buckets.entries.filter fun entry => entry.2.any (isRecent now)).length := by
  have hsub : ((buckets.refreshed key now).live now).keys ⊆
      (buckets.entries.filter fun entry => entry.2.any (isRecent now)).map Prod.fst := by
    intro caller hmem
    obtain ⟨⟨client, times⟩, hentry, rfl⟩ := List.mem_map.mp hmem
    obtain ⟨hrefreshed, hkept⟩ := List.mem_filter.mp hentry
    have hlast : times.getLast?.any (isRecent now) = true := hkept
    have htimes := of_get? ((Dict.get?_eq_some ..).mpr hrefreshed)
    have hany : times.any (isRecent now) = true := by
      cases hget : times.getLast? with
      | none =>
          rw [hget] at hlast
          contradiction
      | some last =>
          rw [hget] at hlast
          exact List.any_eq_true.mpr ⟨last, List.mem_of_getLast? hget, hlast⟩
    have hbefore : (buckets.of client).any (isRecent now) = true := by
      rw [Attempts.of_refreshed] at htimes
      split at htimes
      · rw [← htimes] at hany
        obtain ⟨instant, hmem, hrecent⟩ := List.any_eq_true.mp hany
        exact List.any_eq_true.mpr ⟨instant, (List.mem_filter.mp hmem).1, hrecent⟩
      · rw [htimes]
        exact hany
    have hfound := (Dict.get?_eq_some ..).mp (get?_of_any hbefore)
    exact List.mem_map.mpr ⟨_, List.mem_filter.mpr ⟨hfound, hbefore⟩, rfl⟩
  have hlength := (List.subperm_of_subset ((buckets.refreshed key now).live now).distinct
    hsub).length_le
  rw [List.length_map, List.length_map] at hlength
  exact hlength

theorem capped_of_le {cap : Nat} (fits : buckets.entries.length ≤ cap) :
    buckets.capped cap = buckets := by
  apply Dict.ext_entries
  show buckets.entries.drop (buckets.entries.length - cap) = buckets.entries
  rw [Nat.sub_eq_zero_of_le fits, List.drop_zero]

theorem entries_capped {cap : Nat} {first : String × List Instant}
    {rest : List (String × List Instant)} (entries : buckets.entries = first :: rest)
    (full : rest.length = cap) : (buckets.capped cap).entries = rest := by
  show buckets.entries.drop (buckets.entries.length - cap) = rest
  rw [entries, List.length_cons, full, Nat.add_sub_cancel_left, List.drop_one, List.tail_cons]

/-- A client with recent attempts is dropped only from a table with more such clients than it
may have entries. -/
theorem crowded_of_dropped (ordered : (readings (buckets.of client)).Pairwise (· ≤ ·))
    (held : (buckets.of client).any (isRecent now) = true)
    (gone : (recentAttempts buckets key now).2.get? client = none) :
    rateLimitBucketCap <
      (buckets.entries.filter fun entry => entry.2.any (isRecent now)).length := by
  have hrefreshed : ((buckets.refreshed key now).of client).any (isRecent now) = true := by
    rw [Attempts.of_refreshed]
    split
    · obtain ⟨instant, hmem, hrecent⟩ := List.any_eq_true.mp held
      exact List.any_eq_true.mpr ⟨instant, List.mem_filter.mpr ⟨hmem, hrecent⟩, hrecent⟩
    · exact held
  have hordered : (readings ((buckets.refreshed key now).of client)).Pairwise (· ≤ ·) := by
    rw [Attempts.of_refreshed]
    split
    · exact ordered.sublist (List.filter_sublist.map _)
    · exact ordered
  have hentry := get?_of_any hrefreshed
  have hlive : ((buckets.refreshed key now).live now).get? client ≠ none := by
    unfold Attempts.live
    rw [Dict.get?_restrict, hentry, Option.filter_some, if_pos (getLast_recent hordered hrefreshed)]
    exact Option.some_ne_none _
  rw [Attempts.recentAttempts_eq] at gone
  by_cases hcap : rateLimitBucketCap < (buckets.refreshed key now).entries.length
  · rw [if_pos hcap] at gone
    refine lt_of_lt_of_le ?_ (length_live_le buckets key now)
    by_contra hfits
    rw [capped_of_le (not_lt.mp hfits)] at gone
    exact hlive gone
  · rw [if_neg hcap] at gone
    rw [hentry] at gone
    contradiction

end crowds

theorem Guard.crowded_of_forgets {guard : Guard} {event : GuardEvent} {client : String}
    (chronological : guard.Chronological) (forgotten : guard.forgets event client) :
    rateLimitBucketCap <
      (guard.attempts.entries.filter fun entry => entry.2.any (isRecent guard.monotonic)).length := by
  obtain ⟨hheld, hgone⟩ := forgotten
  have hordered := (chronological client).1
  have hentry := get?_of_any hheld
  cases event with
  | clock microseconds now => exact absurd (hentry.symm.trans hgone) (Option.some_ne_none _)
  | authenticate caller authorization => exact crowded_of_dropped hordered hheld hgone
  | authenticateExecutor caller authorization => exact crowded_of_dropped hordered hheld hgone
  | lookedUp index identities => exact absurd (hentry.symm.trans hgone) (Option.some_ne_none _)

/-! ### Any calls -/

section run

variable (hmacHex : String → String → HexDigest) (adminApiKey : AdminKey)
  (settings : ExecutorSettings)

/-- The guard after any calls. -/
def Guard.after (monotonic now : Instant) (events : List GuardEvent) : Guard :=
  events.foldl (Guard.turn hmacHex adminApiKey settings) (Guard.start monotonic now)

variable {hmacHex adminApiKey settings} {monotonic now : Instant}

theorem after_sound (events : List GuardEvent) :
    (Guard.after hmacHex adminApiKey settings monotonic now events).Chronological ∧
      (Guard.after hmacHex adminApiKey settings monotonic now events).attempts.entries.length ≤
        rateLimitBucketCap + 1 := by
  have hrun : ∀ guard : Guard, guard.Chronological ∧
      guard.attempts.entries.length ≤ rateLimitBucketCap + 1 →
      (events.foldl (Guard.turn hmacHex adminApiKey settings) guard).Chronological ∧
        (events.foldl (Guard.turn hmacHex adminApiKey settings) guard).attempts.entries.length ≤
          rateLimitBucketCap + 1 := by
    induction events with
    | nil => exact fun _ sound => sound
    | cons event rest ih =>
        exact fun guard sound => ih _ ⟨chronological_turn sound.1, bounded_turn sound.2⟩
  refine hrun _ ⟨fun client => ⟨List.Pairwise.nil, fun instant hmem => ?_⟩, Nat.zero_le _⟩
  exact absurd hmem List.not_mem_nil

end run

/-- Calls of any clients, one after another or while executors are looked up: as long as a client
is neither admitted nor forgotten it is told at most ten times in a minute that it failed; a
client with an attempt of the last minute is forgotten only where more than ten thousand have one;
and the table has one entry more than that at most. -/
theorem attempts_limited (hmacHex : String → String → HexDigest) (adminApiKey : AdminKey)
    (settings : ExecutorSettings) (monotonic now : Instant) (client : String)
    (before stretch : List GuardEvent)
    (undisturbed : Guard.Undisturbed hmacHex adminApiKey settings client
      (Guard.after hmacHex adminApiKey settings monotonic now before) stretch) :
    Limited authWindow authMaxAttempts (Guard.failures hmacHex adminApiKey settings client
        (Guard.after hmacHex adminApiKey settings monotonic now before) stretch) ∧
      (∀ event other,
        (Guard.after hmacHex adminApiKey settings monotonic now before).forgets event other →
        rateLimitBucketCap <
          ((Guard.after hmacHex adminApiKey settings monotonic now before).attempts.entries.filter
            fun entry => entry.2.any (isRecent (Guard.after hmacHex adminApiKey settings monotonic
              now before).monotonic)).length) ∧
      (Guard.after hmacHex adminApiKey settings monotonic now before).attempts.entries.length ≤
        rateLimitBucketCap + 1 := by
  obtain ⟨hchronological, hbounded⟩ :=
    @after_sound hmacHex adminApiKey settings monotonic now before
  refine ⟨?_, fun event other => Guard.crowded_of_forgets hchronological, hbounded⟩
  exact (covers_run undisturbed (covers_start _ client)).limited

instance (guard : Guard) (event : GuardEvent) (client : String) :
    Decidable (guard.forgets event client) :=
  inferInstanceAs (Decidable (_ ∧ _))

instance (hmacHex : String → String → HexDigest) (adminApiKey : AdminKey)
    (settings : ExecutorSettings) (guard : Guard) (event : GuardEvent) (client : String) :
    Decidable (guard.admits hmacHex adminApiKey settings event client) :=
  inferInstanceAs (Decidable (_ = _))

instance (hmacHex : String → String → HexDigest) (adminApiKey : AdminKey)
    (settings : ExecutorSettings) (client : String) (guard : Guard) (events : List GuardEvent) :
    Decidable (Guard.Undisturbed hmacHex adminApiKey settings client guard events) :=
  inferInstanceAs (Decidable (Throughout ..))

def sampleAdminKey : AdminKey := ⟨"0123456789abcdef0123456789abcdef", by decide⟩

def sampleTurn : Guard → GuardEvent → Guard :=
  Guard.turn (fun _ _ => sampleDigest) sampleAdminKey sampleSettings

def sampleFailures : String → Guard → List GuardEvent → List Int :=
  Guard.failures (fun _ _ => sampleDigest) sampleAdminKey sampleSettings

def guesser : String := "203.0.113.7"

/-- A dozen guesses of a client, one a second. -/
def guesses : List GuardEvent :=
  (List.replicate 12 [.clock 1000000 ⟨0⟩, .authenticate guesser (some "Bearer guess")]).flatten

theorem guessed_keys_limited :
    (sampleFailures guesser (Guard.start ⟨0⟩ ⟨0⟩) guesses).length = 10 ∧
      Limited authWindow authMaxAttempts
        (sampleFailures guesser (Guard.start ⟨0⟩ ⟨0⟩) guesses) :=
  ⟨by decide +kernel, (attempts_limited (fun _ _ => sampleDigest) sampleAdminKey sampleSettings ⟨0⟩
    ⟨0⟩ guesser [] guesses (by decide +kernel)).1⟩

/-! ### A flood of strangers -/

section flood

variable {guard : Guard} {client : String}

theorem refreshed_fresh {buckets : Attempts} (fresh : buckets.get? client = none) (now : Instant) :
    buckets.refreshed client now = buckets := by
  have hof : buckets.of client = [] := by
    rw [Attempts.of, fresh]
    rfl
  unfold Attempts.refreshed
  rw [hof, List.filter_nil, if_pos rfl]
  apply Dict.ext_entries
  refine List.filter_eq_self.mpr fun entry hmem => decide_eq_true fun heq => ?_
  rw [Dict.get?_eq_none] at fresh
  exact fresh (List.mem_map.mpr ⟨entry, hmem, heq⟩)

/-- A client that the table does not have yet fails without a credential. -/
theorem answer_fresh (fresh : guard.attempts.get? client = none)
    (fits : guard.attempts.entries.length ≤ rateLimitBucketCap) :
    guard.answer (fun _ _ => sampleDigest) sampleAdminKey sampleSettings
        (.authenticate client none) =
      (some (client, .error (.http 401 "Bearer authentication required")),
        { guard with attempts := guard.attempts.failed client guard.monotonic }) := by
  have hof : guard.attempts.of client = [] := by
    rw [Attempts.of, fresh]
    rfl
  have hlooked : recentAttempts guard.attempts client guard.monotonic = ([], guard.attempts) := by
    rw [Attempts.recentAttempts_eq, refreshed_fresh fresh, if_neg (not_lt.mpr fits), hof]
    rfl
  unfold Guard.answer authenticate
  simp only [hlooked]
  rfl

theorem entries_set_fresh {buckets : Attempts} (fresh : buckets.get? client = none)
    (times : List Instant) :
    (buckets.set client times).entries = buckets.entries ++ [(client, times)] :=
  Dict.assign_of_notMem ((Dict.get?_eq_none ..).mp fresh)

def stranger (position : Nat) : String := "2001:db8::1:" ++ toString position

theorem stranger_injective : Function.Injective stranger := by
  intro left right h
  have hid : toString left = toString right := by
    have hlist := congrArg String.toList h
    simp only [stranger, String.toList_append, List.append_cancel_left_eq] at hlist
    exact String.toList_inj.mp hlist
  exact padLeft_toString_injective (congrArg (Text.padLeft 0 '0') hid)

theorem stranger_ne (position : Nat) : stranger position ≠ guesser := by
  intro h
  have hlist := congrArg String.toList h
  simp [stranger, guesser] at hlist

/-- Ten failures of a client, and one of every stranger so far. -/
structure Flooded (count : Nat) (guard : Guard) : Prop where
  clock : guard.monotonic = ⟨0⟩
  entries : guard.attempts.entries = (guesser, List.replicate 10 ⟨0⟩) ::
    (List.range count).map fun position : Nat => (stranger position, [⟨0⟩])

theorem Flooded.fresh {count : Nat} (flooded : Flooded count guard) :
    guard.attempts.get? (stranger count) = none := by
  rw [Dict.get?_eq_none, Dict.keys, flooded.entries, List.map_cons, List.map_map, List.mem_cons]
  rintro (hguesser | hmem)
  · exact stranger_ne count hguesser
  · obtain ⟨position, hposition, hsame⟩ := List.mem_map.mp hmem
    have heq := stranger_injective hsame
    rw [heq] at hposition
    exact absurd (List.mem_range.mp hposition) (lt_irrefl _)

theorem Flooded.length {count : Nat} (flooded : Flooded count guard) :
    guard.attempts.entries.length = count + 1 := by
  rw [flooded.entries, List.length_cons, List.length_map, List.length_range]

theorem Flooded.turn {count : Nat} (flooded : Flooded count guard)
    (fits : count < rateLimitBucketCap) :
    (guard.answer (fun _ _ => sampleDigest) sampleAdminKey sampleSettings
        (.authenticate (stranger count) none)).1 =
        some (stranger count, .error (.http 401 "Bearer authentication required")) ∧
      Flooded (count + 1) (sampleTurn guard (.authenticate (stranger count) none)) := by
  have hanswer := answer_fresh flooded.fresh (flooded.length.trans_le fits)
  have hof : guard.attempts.get? (stranger count) = none := flooded.fresh
  refine ⟨by rw [hanswer], ?_, ?_⟩
  · rw [sampleTurn, Guard.turn, hanswer]
    exact flooded.clock
  · rw [sampleTurn, Guard.turn, hanswer]
    show (guard.attempts.set _ _).entries = _
    rw [entries_set_fresh hof, hof, flooded.entries, flooded.clock, List.range_succ,
      List.map_append]
    rfl

def strangers (first count : Nat) : List GuardEvent :=
  (List.range' first count).map fun position => .authenticate (stranger position) none

/-- The strangers fail, and the guesser is neither told anything nor admitted. -/
theorem Flooded.run {count more : Nat} (flooded : Flooded count guard)
    (fits : count + more ≤ rateLimitBucketCap) :
    Flooded (count + more) ((strangers count more).foldl sampleTurn guard) ∧
      sampleFailures guesser guard (strangers count more) = [] ∧
      Throughout sampleTurn (fun guard event => ¬guard.admits (fun _ _ => sampleDigest)
        sampleAdminKey sampleSettings event guesser) guard (strangers count more) := by
  induction more generalizing guard count with
  | zero => exact ⟨flooded, rfl, True.intro⟩
  | succ more ih =>
      obtain ⟨hanswer, hturn⟩ := flooded.turn (by omega)
      obtain ⟨hflooded, hsilent, hcalm⟩ := ih hturn (by omega)
      have hnot : stranger count ≠ guesser := stranger_ne count
      refine ⟨?_, ?_, ?_, hcalm⟩
      · rw [Nat.add_right_comm] at hflooded
        exact hflooded
      · show (if unauthorized guesser (guard.answer _ _ _ _).1 then _ else _) ++ _ = []
        rw [hanswer, if_neg (by simpa [unauthorized] using hnot)]
        exact hsilent
      · show ¬admitted guesser (guard.answer (fun _ _ => sampleDigest) sampleAdminKey sampleSettings
          (.authenticate (stranger count) none)).1 = true
        rw [hanswer]
        exact Bool.false_ne_true

/-- Too many attempts are refused, and the table that is one too large loses its first entry. -/
theorem Flooded.forgotten (flooded : Flooded rateLimitBucketCap guard) :
    (guard.answer (fun _ _ => sampleDigest) sampleAdminKey sampleSettings
        (.authenticate guesser none)).1 =
        some (guesser, .error (.http 429 "Too many authentication attempts")) ∧
      (sampleTurn guard (.authenticate guesser none)).monotonic = ⟨0⟩ ∧
      (sampleTurn guard (.authenticate guesser none)).attempts.entries =
        (List.range rateLimitBucketCap).map fun position : Nat => (stranger position, [⟨0⟩]) := by
  have hget : guard.attempts.get? guesser = some (List.replicate 10 ⟨0⟩) := by
    rw [Dict.get?, flooded.entries, Dict.lookup, if_pos rfl]
  have hof := of_get? hget
  have hrefreshed : guard.attempts.refreshed guesser guard.monotonic = guard.attempts := by
    unfold Attempts.refreshed
    rw [hof, flooded.clock]
    exact Dict.set_of_get? _ hget
  have hlive : guard.attempts.live guard.monotonic = guard.attempts := by
    apply Dict.ext_entries
    refine List.filter_eq_self.mpr fun entry hmem => ?_
    rw [flooded.clock]
    rw [flooded.entries, List.mem_cons] at hmem
    rcases hmem with rfl | hmem
    · rfl
    · obtain ⟨position, -, rfl⟩ := List.mem_map.mp hmem
      rfl
  have hlooked : recentAttempts guard.attempts guesser guard.monotonic =
      (List.replicate 10 ⟨0⟩, guard.attempts.capped rateLimitBucketCap) := by
    rw [Attempts.recentAttempts_eq, hrefreshed, hlive, if_pos (flooded.length ▸ Nat.lt_succ_self _), hof,
      flooded.clock]
    rfl
  have hanswer : guard.answer (fun _ _ => sampleDigest) sampleAdminKey sampleSettings
      (.authenticate guesser none) =
        (some (guesser, .error (.http 429 "Too many authentication attempts")),
          { guard with attempts := guard.attempts.capped rateLimitBucketCap }) := by
    unfold Guard.answer authenticate
    simp only [hlooked]
    rfl
  have hturn : sampleTurn guard (.authenticate guesser none) =
      { guard with attempts := guard.attempts.capped rateLimitBucketCap } := by
    rw [sampleTurn, Guard.turn, hanswer]
  rw [hanswer, hturn]
  refine ⟨rfl, flooded.clock, ?_⟩
  · exact entries_capped flooded.entries (by rw [List.length_map, List.length_range])

theorem failures_cons (event : GuardEvent) (rest : List GuardEvent) :
    sampleFailures client guard (event :: rest) =
      (if unauthorized client (guard.answer (fun _ _ => sampleDigest) sampleAdminKey sampleSettings
          event).1 then [guard.monotonic.microseconds] else []) ++
        sampleFailures client (sampleTurn guard event) rest := rfl

theorem failures_append (before after : List GuardEvent) :
    sampleFailures client guard (before ++ after) = sampleFailures client guard before ++
      sampleFailures client (before.foldl sampleTurn guard) after := by
  induction before generalizing guard with
  | nil => rfl
  | cons event rest ih =>
      rw [List.cons_append, failures_cons, failures_cons, ih, List.append_assoc, List.foldl_cons]

/-- Forgotten, the guesser may fail again. -/
theorem last_guess (entries : guard.attempts.entries =
      (List.range rateLimitBucketCap).map fun position : Nat => (stranger position, [⟨0⟩])) :
    (guard.answer (fun _ _ => sampleDigest) sampleAdminKey sampleSettings
        (.authenticate guesser none)).1 =
      some (guesser, .error (.http 401 "Bearer authentication required")) := by
  have hfresh : guard.attempts.get? guesser = none := by
    rw [Dict.get?_eq_none, Dict.keys, entries, List.map_map]
    intro hmem
    obtain ⟨position, -, hsame⟩ := List.mem_map.mp hmem
    exact stranger_ne position hsame
  have hfits : guard.attempts.entries.length ≤ rateLimitBucketCap := by
    rw [entries, List.length_map, List.length_range]
  rw [answer_fresh hfresh hfits]

/-- Ten guesses, a stranger for every entry the table may have, and two guesses more. -/
def flood : List GuardEvent :=
  List.replicate 10 (.authenticate guesser none) ++ (strangers 0 rateLimitBucketCap ++
    [.authenticate guesser none, .authenticate guesser none])

/-- All at once, and the guesser fails eleven times. -/
theorem flood_unlimited :
    Throughout sampleTurn (fun guard event => ¬guard.admits (fun _ _ => sampleDigest)
        sampleAdminKey sampleSettings event guesser) (Guard.start ⟨0⟩ ⟨0⟩) flood ∧
      ¬Limited authWindow authMaxAttempts
        (sampleFailures guesser (Guard.start ⟨0⟩ ⟨0⟩) flood) := by
  have hguesses : sampleFailures guesser (Guard.start ⟨0⟩ ⟨0⟩)
        (List.replicate 10 (.authenticate guesser none)) = List.replicate 10 0 ∧
      Throughout sampleTurn (fun guard event => ¬guard.admits (fun _ _ => sampleDigest)
        sampleAdminKey sampleSettings event guesser) (Guard.start ⟨0⟩ ⟨0⟩)
        (List.replicate 10 (.authenticate guesser none)) := by
    decide +kernel
  have hfirst : Flooded 0 ((List.replicate 10 (.authenticate guesser none)).foldl sampleTurn
      (Guard.start ⟨0⟩ ⟨0⟩)) := ⟨by decide +kernel, by decide +kernel⟩
  obtain ⟨hflooded, hsilent, hcalm⟩ := hfirst.run (Nat.zero_add rateLimitBucketCap).le
  rw [Nat.zero_add] at hflooded
  obtain ⟨hrefused, hclock, hentries⟩ := hflooded.forgotten
  have hlast := last_guess hentries
  constructor
  · refine Throughout.append.mpr ⟨hguesses.2, Throughout.append.mpr ⟨hcalm, ?_, ?_, True.intro⟩⟩
    · show ¬admitted guesser _ = true
      rw [hrefused]
      exact Bool.false_ne_true
    · show ¬admitted guesser _ = true
      rw [hlast]
      exact Bool.false_ne_true
  · intro limited
    have heleven : sampleFailures guesser (Guard.start ⟨0⟩ ⟨0⟩) flood = List.replicate 11 0 := by
      rw [flood, failures_append, failures_append, hguesses.1, hsilent, failures_cons, hrefused,
        failures_cons, hlast, hclock]
      rfl
    have hlength := limited 0
    rw [heleven] at hlength
    exact absurd hlength (by decide)

end flood

end DispatchCore.Api
