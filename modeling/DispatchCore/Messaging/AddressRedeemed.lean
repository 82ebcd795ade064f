import DispatchCore.Messaging.AddressCapability

/-! An address token is redeemed once and a saved point stays, as long as no chat handler
stores what it has read before the point was saved. -/
namespace DispatchCore.Messaging

open DispatchCore.Library DispatchCore.Domain DispatchCore.Packs DispatchCore.Infrastructure
  DispatchCore.Application

namespace IntakeWorld

/-- A token whose submission was answered as saved finds no session any more, and a saved
point is in the session until a later choice of the client. -/
structure AddressKept (world : IntakeWorld) : Prop where
  once : (world.saved.map SavedPoint.token).Nodup
  spent : ∀ point ∈ world.saved, world.addressSession point.token = none
  stays : ∀ key location, world.standing.get? key = some location →
    ∃ session, world.sessions.get? key = some session ∧
      session.state.serviceLocation = some location

/-- A turn meets a condition at every place of a run. -/
def Throughout (setup : IntakeCoordinator.Setup) (meets : IntakeWorld → IntakeTurn → Prop) :
    IntakeWorld → List IntakeTurn → Prop
  | _, [] => True
  | world, next :: rest => meets world next ∧ Throughout setup meets (world.turn setup next) rest

instance decidableThroughout (setup : IntakeCoordinator.Setup)
    (meets : IntakeWorld → IntakeTurn → Prop) [∀ world next, Decidable (meets world next)] :
    ∀ (world : IntakeWorld) (turns : List IntakeTurn), Decidable (Throughout setup meets world turns)
  | _, [] => instDecidableTrue
  | world, next :: rest =>
      @instDecidableAnd _ _ inferInstance
        (decidableThroughout setup meets (world.turn setup next) rest)

/-- The operation that a turn carries out. -/
def asked (world : IntakeWorld) : IntakeTurn → Option (ChatFlight × IntakeOp × IntakeDraw)
  | .chat index draw =>
      match world.flights[index]? with
      | none => none
      | some flight =>
          match flight.program with
          | .call op _ => some (flight, op, draw)
          | _ => none
  | _ => none

/-- `secrets.token_urlsafe` gives a text that it has not given before. -/
def DrawsFresh (world : IntakeWorld) (next : IntakeTurn) : Prop :=
  match world.asked next with
  | some (_, .tokenUrlsafe, draw) => draw.text ∉ world.issued.map Prod.fst
  | _ => True

instance (world : IntakeWorld) (next : IntakeTurn) : Decidable (world.DrawsFresh next) := by
  unfold DrawsFresh
  split <;> infer_instance

/-- What a chat handler stores or clears is not older than a saved submission of the client. -/
def StoresCurrent (world : IntakeWorld) (next : IntakeTurn) : Prop :=
  match world.asked next with
  | some (flight, .putSession _, _) => flight.overtaken = false
  | some (flight, .clearSession, _) => flight.overtaken = false
  | _ => True

instance (world : IntakeWorld) (next : IntakeTurn) : Decidable (world.StoresCurrent next) := by
  unfold StoresCurrent
  split <;> infer_instance

end IntakeWorld

/-! ### What a flight has in hand -/

/-- A token that the flight may still store. -/
def ChatFlight.Offers (flight : ChatFlight) (token : String) : Prop :=
  (∃ state, flight.read = some state ∧ state.addressToken = some token) ∨
    flight.drawn = some token

/-- What a flight has in hand belongs to its client, and, unless a submission has overtaken
it, is not spent and holds the point that stands. -/
structure ChatFlight.Guarded (issued : List (String × Key)) (spent : List String)
    (standing : Dict Key ServiceLocation) (flight : ChatFlight) : Prop where
  carries : Carries flight.event flight.read flight.drawn flight.program
  blind : flight.event.looks = false → flight.read = none ∧ flight.drawn = none
  owned : ∀ token, flight.Offers token → (token, flight.key) ∈ issued
  unspent : flight.overtaken = false → ∀ token, flight.Offers token → token ∉ spent
  stands : flight.overtaken = false → flight.event.chooses flight.read = false →
    ∀ location, standing.get? flight.key = some location →
      ∃ state, flight.read = some state ∧ state.serviceLocation = some location

theorem ChatEvent.chooses_none (event : ChatEvent) : event.chooses none = true := by
  cases event with
  | callback action payload => cases action <;> rfl
  | _ => rfl

namespace ChatFlight.Guarded

variable {issued later : List (String × Key)} {spent : List String}
  {standing kept : Dict Key ServiceLocation} {flight : ChatFlight}

/-- More tokens may be issued and fewer points stand. -/
theorem mono (guarded : flight.Guarded issued spent standing)
    (more : ∀ entry ∈ issued, entry ∈ later)
    (fewer : ∀ location, kept.get? flight.key = some location →
      standing.get? flight.key = some location) :
    flight.Guarded later spent kept where
  carries := guarded.carries
  blind := guarded.blind
  owned token offers := more _ (guarded.owned token offers)
  unspent := guarded.unspent
  stands current quiet location found :=
    guarded.stands current quiet location (fewer location found)

/-- A flight that has in hand what it had, or less, and goes on as it may. -/
theorem goOn (guarded : flight.Guarded issued spent standing) {pinned : Option PackRevision}
    {drawn : Option String} {program : IntakeProgram Reply} (held : ∀ token, drawn = some token → flight.drawn = some token)
    (carries : Carries flight.event flight.read drawn program) :
    ({ flight with pinned := pinned, drawn := drawn, program := program } : ChatFlight).Guarded issued spent
      standing := by
  have hoffers : ∀ token, ({ flight with pinned := pinned, drawn := drawn, program := program } :
      ChatFlight).Offers token → flight.Offers token := by
    rintro token (hread | hdrawn)
    · exact .inl hread
    · exact .inr (held token hdrawn)
  exact
    { carries := carries
      blind := fun hblind => by
        obtain ⟨hread, hnone⟩ := guarded.blind hblind
        refine ⟨hread, ?_⟩
        cases hdrawn : drawn with
        | none => rfl
        | some token => cases hnone ▸ held token hdrawn
      owned := fun token offers => guarded.owned token (hoffers token offers)
      unspent := fun current token offers => guarded.unspent current token (hoffers token offers)
      stands := guarded.stands }

/-- A flight without tokens that only now comes to look at the session. -/
theorem of_blank {event : ChatEvent} {identity : MessengerIdentity} {eventId : String}
    {pinned : Option PackRevision} {program : IntakeProgram Reply} (carries : Carries event none none program) :
    (⟨identity, eventId, event, none, pinned, none, false, program⟩ : ChatFlight).Guarded issued spent
      standing := by
  refine ⟨carries, fun _ => ⟨rfl, rfl⟩, ?_, ?_, ?_⟩
  · rintro token (⟨state, hread, _⟩ | hdrawn)
    · cases hread
    · cases hdrawn
  · rintro _ token (⟨state, hread, _⟩ | hdrawn)
    · cases hread
    · cases hdrawn
  · intro _ quiet
    rw [event.chooses_none] at quiet
    cases quiet

theorem offers_nothing (guarded : flight.Guarded issued spent standing)
    (blind : flight.event.looks = false) {token : String} : ¬flight.Offers token := by
  obtain ⟨hread, hdrawn⟩ := guarded.blind blind
  rintro (⟨state, hstate, _⟩ | htoken)
  · rw [hread] at hstate
    cases hstate
  · rw [hdrawn] at htoken
    cases htoken

theorem notMem_append {token other : String} (old : other ∉ spent) (new : other ≠ token) :
    other ∉ spent ++ [token] := by
  intro hmem
  rcases List.mem_append.mp hmem with hspent | hsame
  · exact old hspent
  · exact new (List.mem_singleton.mp hsame)

/-- A submission is saved: it overtakes the flights of the client that look at the session. -/
theorem submitted (guarded : flight.Guarded issued spent standing) {key : Key} {token : String}
    {location : ServiceLocation}
    (foreign : flight.key ≠ key → ∀ offered, flight.Offers offered → offered ≠ token) :
    (if flight.key = key ∧ flight.event.looks then { flight with overtaken := true }
      else flight : ChatFlight).Guarded issued (spent ++ [token]) (standing.set key location) := by
  split
  · exact
      { carries := guarded.carries
        blind := guarded.blind
        owned := guarded.owned
        unspent := fun current => by cases current
        stands := fun current => by cases current }
  · rename_i hfar
    have hblind : flight.key = key → flight.event.looks = false := by
      intro hkey
      simpa [hkey] using hfar
    refine ⟨guarded.carries, guarded.blind, guarded.owned, ?_, ?_⟩
    · intro current offered hoffers
      by_cases hkey : flight.key = key
      · exact absurd hoffers (guarded.offers_nothing (hblind hkey))
      · exact notMem_append (guarded.unspent current offered hoffers)
          (foreign hkey offered hoffers)
    · intro current quiet found hstanding
      by_cases hkey : flight.key = key
      · rw [(guarded.blind (hblind hkey)).1, flight.event.chooses_none] at quiet
        cases quiet
      · rw [Dict.get?_set_of_ne _ _ hkey] at hstanding
        exact guarded.stands current quiet found hstanding

end ChatFlight.Guarded

namespace IntakeWorld

def spentTokens (world : IntakeWorld) : List String := world.saved.map SavedPoint.token

/-- What holds between the turns of a run. -/
structure Guarded (world : IntakeWorld) : Prop where
  packs : world.packs.Consistent
  fit : ∀ key session, world.sessions.get? key = some session → session.state.Fit
  owned : ∀ key session token, world.sessions.get? key = some session →
    session.state.addressToken = some token → (token, key) ∈ world.issued
  unspent : ∀ key session token, world.sessions.get? key = some session →
    session.state.addressToken = some token → token ∉ world.spentTokens
  single : (world.issued.map Prod.fst).Nodup
  redeemed : ∀ token ∈ world.spentTokens, token ∈ world.issued.map Prod.fst
  once : world.spentTokens.Nodup
  stands : ∀ key location, world.standing.get? key = some location →
    ∃ session, world.sessions.get? key = some session ∧
      session.state.serviceLocation = some location
  flights : ∀ (index : Nat) (flight : ChatFlight), world.flights[index]? = some flight →
    flight.Guarded world.issued world.spentTokens world.standing

variable {world : IntakeWorld} {setup : IntakeCoordinator.Setup} {index : Nat}
  {flight next : ChatFlight}

/-- A token was drawn for one client. -/
theorem Guarded.owner (guarded : world.Guarded) {token : String} {key other : Key}
    (first : (token, key) ∈ world.issued) (second : (token, other) ∈ world.issued) :
    other = key := by
  have hsame := List.inj_on_of_nodup_map guarded.single second first rfl
  exact congrArg Prod.snd hsame

theorem Guarded.addressKept (guarded : world.Guarded) : world.AddressKept where
  once := guarded.once
  spent := by
    intro point hpoint
    unfold addressSession
    rw [List.find?_eq_none]
    intro entry hentry hmatches
    obtain ⟨htoken, _⟩ := of_decide_eq_true hmatches
    have hfound := (Dict.get?_eq_some world.sessions entry.1 entry.2).mpr hentry
    exact guarded.unspent entry.1 entry.2 point.token hfound htoken
      (List.mem_map_of_mem hpoint)
  stays := guarded.stands

theorem guarded_empty : empty.Guarded where
  packs := PackWorld.consistent_empty
  fit := by intro _ _ h; cases h
  owned := by intro _ _ _ h; cases h
  unspent := by intro _ _ _ h; cases h
  single := List.nodup_nil
  redeemed := by intro _ h; cases h
  once := List.nodup_nil
  stands := by intro _ _ h; cases h
  flights := by intro _ _ h; cases h

/-- One flight moves, and nothing it looks at. -/
theorem Guarded.moved (guarded : world.Guarded) (index : Nat) (requests : List IntakeRequest)
    (moved : next.Guarded world.issued world.spentTokens world.standing) :
    ({ world with flights := world.flights.set index next, requests := requests } :
      IntakeWorld).Guarded where
  packs := guarded.packs
  fit := guarded.fit
  owned := guarded.owned
  unspent := guarded.unspent
  single := guarded.single
  redeemed := guarded.redeemed
  once := guarded.once
  stands := guarded.stands
  flights := by
    intro other found hother
    rw [List.getElem?_set] at hother
    split at hother
    · split at hother
      · cases hother
        exact moved
      · cases hother
    · exact guarded.flights other found hother

/-- A flight stores a session that offers only what the flight had in hand. -/
theorem Guarded.stored (guarded : world.Guarded) {session : IntakeSession}
    {standing : Dict Key ServiceLocation} (fit : session.state.Fit)
    (offered : ∀ token, session.state.addressToken = some token →
      (token, flight.key) ∈ world.issued ∧ token ∉ world.spentTokens)
    (fewer : ∀ key location, standing.get? key = some location →
      world.standing.get? key = some location)
    (kept : ∀ location, standing.get? flight.key = some location →
      session.state.serviceLocation = some location) :
    ({ world with
      sessions := world.sessions.set flight.key session
      standing := standing } : IntakeWorld).Guarded where
  packs := guarded.packs
  fit := by
    intro key found hfound
    simp only [Dict.get?_set] at hfound
    split at hfound
    · cases hfound
      exact fit
    · exact guarded.fit key found hfound
  owned := by
    intro key found token hfound htoken
    simp only [Dict.get?_set] at hfound
    split at hfound
    · rename_i hkey
      cases hfound
      rw [hkey]
      exact (offered token htoken).1
    · exact guarded.owned key found token hfound htoken
  unspent := by
    intro key found token hfound htoken
    simp only [Dict.get?_set] at hfound
    split at hfound
    · cases hfound
      exact (offered token htoken).2
    · exact guarded.unspent key found token hfound htoken
  single := guarded.single
  redeemed := guarded.redeemed
  once := guarded.once
  stands := by
    intro key location hstanding
    simp only [Dict.get?_set]
    split
    · rename_i hkey
      exact ⟨session, rfl, kept location (hkey ▸ hstanding)⟩
    · exact guarded.stands key location (fewer key location hstanding)
  flights other found hother := (guarded.flights other found hother).mono
    (fun _ h => h) (fun location => fewer _ location)

theorem Guarded.cleared (guarded : world.Guarded) (key : Key) :
    ({ world with
      sessions := world.sessions.erase key
      standing := world.standing.erase key } : IntakeWorld).Guarded where
  packs := guarded.packs
  fit := by
    intro other found hfound
    simp only [Dict.get?_erase] at hfound
    split at hfound
    · cases hfound
    · exact guarded.fit other found hfound
  owned := by
    intro other found token hfound htoken
    simp only [Dict.get?_erase] at hfound
    split at hfound
    · cases hfound
    · exact guarded.owned other found token hfound htoken
  unspent := by
    intro other found token hfound htoken
    simp only [Dict.get?_erase] at hfound
    split at hfound
    · cases hfound
    · exact guarded.unspent other found token hfound htoken
  single := guarded.single
  redeemed := guarded.redeemed
  once := guarded.once
  stands := by
    intro other location hstanding
    simp only [Dict.get?_erase] at hstanding ⊢
    split at hstanding
    · cases hstanding
    · rename_i hother
      rw [if_neg hother]
      exact guarded.stands other location hstanding
  flights other found hother := (guarded.flights other found hother).mono (fun _ h => h)
    fun location hstanding => by
      rw [Dict.get?_erase] at hstanding
      split at hstanding
      · cases hstanding
      · exact hstanding

/-- A token that nobody has drawn before. -/
theorem Guarded.drawnToken (guarded : world.Guarded) {token : String} (key : Key)
    (fresh : token ∉ world.issued.map Prod.fst) :
    ({ world with issued := world.issued ++ [(token, key)] } : IntakeWorld).Guarded where
  packs := guarded.packs
  fit := guarded.fit
  owned other found offered hfound htoken :=
    List.mem_append_left _ (guarded.owned other found offered hfound htoken)
  unspent := guarded.unspent
  single := by
    show ((world.issued ++ [(token, key)]).map Prod.fst).Nodup
    rw [List.map_append, List.nodup_append]
    refine ⟨guarded.single, List.nodup_singleton _, ?_⟩
    rintro other hother last hlast rfl
    rw [List.map_singleton, List.mem_singleton] at hlast
    have htoken : other = token := hlast
    exact fresh (htoken ▸ hother)
  redeemed other hother := by
    show other ∈ (world.issued ++ [(token, key)]).map Prod.fst
    rw [List.map_append]
    exact List.mem_append_left _ (guarded.redeemed other hother)
  once := guarded.once
  stands := guarded.stands
  flights other found hother := (guarded.flights other found hother).mono
    (fun _ h => List.mem_append_left _ h) (fun _ h => h)

/-! ### One turn -/

/-- What a flight may store offers only what it has in hand. -/
theorem offers_of_mayStore {state : IntakeState}
    (may : MayStore flight.event flight.read flight.drawn state) {token : String}
    (offered : state.addressToken = some token) : flight.Offers token := by
  obtain ⟨_, hmay⟩ := may
  split at hmay
  · rcases hmay with hnone | hdrawn
    · rw [hnone] at offered
      cases offered
    · exact .inr (hdrawn.symm.trans offered)
  · obtain ⟨before, hread, htoken, _⟩ := hmay
    exact .inl ⟨before, hread, htoken.symm.trans offered⟩

theorem Guarded.get (guarded : world.Guarded) (inFlight : world.flights[index]? = some flight)
    {resume : Option IntakeState → IntakeProgram Reply}
    (program : flight.program = .call .getSession resume) :
    let found := (world.sessions.get? flight.key).map IntakeSession.state
    let pinned := (world.sessions.get? flight.key).bind IntakeSession.pinned
    ({ flight with
      read := found, pinned := pinned, drawn := none, overtaken := false,
      program := resume found } : ChatFlight).Guarded world.issued world.spentTokens world.standing := by
  have hcarries := (guarded.flights index flight inFlight).carries
  rw [program] at hcarries
  dsimp only
  cases hsession : world.sessions.get? flight.key with
  | none =>
      exact .of_blank (hcarries.2 none fun state h => by cases h)
  | some session =>
      refine ⟨hcarries.2 (some session.state) fun state h => ?_, fun hblind => ?_, ?_, ?_, ?_⟩
      · cases h
        exact guarded.fit flight.key session hsession
      · rw [hcarries.1] at hblind
        cases hblind
      · rintro token (⟨state, hread, htoken⟩ | hdrawn)
        · cases hread
          exact guarded.owned flight.key session token hsession htoken
        · cases hdrawn
      · rintro _ token (⟨state, hread, htoken⟩ | hdrawn)
        · cases hread
          exact guarded.unspent flight.key session token hsession htoken
        · cases hdrawn
      · intro _ _ location hstanding
        obtain ⟨found, hfound, hlocation⟩ := guarded.stands flight.key location hstanding
        rw [hsession] at hfound
        cases hfound
        exact ⟨session.state, rfl, hlocation⟩

theorem Guarded.put (guarded : world.Guarded) (inFlight : world.flights[index]? = some flight)
    {state : IntakeState} {resume : Unit → IntakeProgram Reply}
    (program : flight.program = .call (.putSession state) resume)
    (current : flight.overtaken = false) :
    ({ world with
      sessions := world.sessions.set flight.key
        ⟨flight.identity.provider, stateWithSessionEvent flight.eventId state, flight.pinned⟩
      standing := if flight.chooses then world.standing.erase flight.key else world.standing } :
      IntakeWorld).Guarded := by
  have hflight := guarded.flights index flight inFlight
  have hcarries := hflight.carries
  rw [program] at hcarries
  obtain ⟨hmay, _⟩ := hcarries
  refine guarded.stored ⟨hmay.1.pinned, hmay.1.closed⟩ (fun token offered => ?_)
    (fun key location hstanding => ?_) fun location hstanding => ?_
  · have hoffers := offers_of_mayStore hmay offered
    exact ⟨hflight.owned token hoffers, hflight.unspent current token hoffers⟩
  · split at hstanding
    · rw [Dict.get?_erase] at hstanding
      split at hstanding
      · cases hstanding
      · exact hstanding
    · exact hstanding
  · split at hstanding
    · rw [Dict.get?_erase_self] at hstanding
      cases hstanding
    · rename_i hquiet
      have hquiet : flight.event.chooses flight.read = false := by
        simpa [ChatFlight.chooses, current] using hquiet
      obtain ⟨found, hfound, hlocation⟩ := hflight.stands current hquiet location hstanding
      have hsame := hmay.2
      rw [if_neg (by simp [hquiet])] at hsame
      obtain ⟨before, hread, _, hkept⟩ := hsame
      rw [hfound] at hread
      cases hread
      exact hkept.trans hlocation

theorem Guarded.chat (guarded : world.Guarded) (inFlight : world.flights[index]? = some flight)
    {op : IntakeOp} {resume : op.Answer → IntakeProgram Reply} {draw : IntakeDraw}
    (program : flight.program = .call op resume)
    (fresh : op = .tokenUrlsafe → draw.text ∉ world.issued.map Prod.fst)
    (current : ((∃ state, op = .putSession state) ∨ op = .clearSession) →
      flight.overtaken = false) :
    let result := world.perform flight draw op
    ({ result.2.2 with
      flights := result.2.2.flights.set index { result.2.1 with program := resume result.1 } } :
      IntakeWorld).Guarded := by
  have hflight := guarded.flights index flight inFlight
  have hcarries := hflight.carries
  rw [program] at hcarries
  cases op with
  | getSession => exact guarded.moved index _ (guarded.get inFlight program)
  | putSession state =>
      have hstored := guarded.put inFlight program (current (.inl ⟨state, rfl⟩))
      exact hstored.moved index _ ((hstored.flights index flight inFlight).goOn
        (fun _ h => by cases h) hcarries.2)
  | clearSession =>
      obtain ⟨hends, hrest⟩ := hcarries
      have hcurrent := current (.inr rfl)
      have hcleared := guarded.cleared flight.key
      have hchoice : flight.ends = true := by simp [ChatFlight.ends, hends, hcurrent]
      show ({ world with
        sessions := world.sessions.erase flight.key
        standing := if flight.ends then world.standing.erase flight.key else world.standing
        flights := _ } : IntakeWorld).Guarded
      rw [if_pos hchoice]
      exact hcleared.moved index world.requests
        ((hcleared.flights index flight inFlight).goOn (fun _ h => by cases h) hrest)
  | activeRevision =>
      exact guarded.moved index _ (hflight.goOn (fun _ h => h)
        (hcarries _ guarded.packs.sound.activeRevision_pos))
  | revision version => exact guarded.moved index _ (hflight.goOn (fun _ h => h) (hcarries _))
  | createOrderOnce orderId creation =>
      exact guarded.moved index _ (hflight.goOn (fun _ h => h) (hcarries _))
  | uuid4 => exact guarded.moved index _ (hflight.goOn (fun _ h => h) (hcarries _))
  | tokenUrlsafe =>
      have hfresh := fresh rfl
      have hdrawn := guarded.drawnToken flight.key hfresh
      have hsame := hdrawn.flights index flight inFlight
      refine hdrawn.moved index world.requests
        ⟨hcarries.2 draw.text, fun hblind => ?_, ?_, ?_, hsame.stands⟩
      · exact absurd hcarries.1 (Bool.eq_false_iff.mp hblind)
      · rintro token (hread | htoken)
        · exact hsame.owned token (.inl hread)
        · cases htoken
          exact List.mem_append_right _ (List.mem_singleton_self _)
      · rintro hcurrent token (hread | htoken)
        · exact hsame.unspent hcurrent token (.inl hread)
        · cases htoken
          exact fun hspent => hfresh (guarded.redeemed _ hspent)

theorem Guarded.submit (guarded : world.Guarded) (token : String) (latitude longitude : Rat)
    (address : Option String) :
    (world.selectAddressByToken token latitude longitude address).Guarded := by
  unfold selectAddressByToken
  cases hsession : world.addressSession token with
  | none => exact guarded
  | some entry =>
      obtain ⟨key, session⟩ := entry
      obtain ⟨hfound, htoken, _⟩ := addressSession_some hsession
      have hissued := guarded.owned key session token hfound htoken
      have hunspent := guarded.unspent key session token hfound htoken
      -- a token of another client is another token
      have hforeign : ∀ other owner, owner ≠ key → (other, owner) ∈ world.issued →
          other ≠ token := by
        rintro other owner howner hentry rfl
        exact howner (guarded.owner hissued hentry)
      have hspent : ((world.saved ++
          [(⟨key, token, ⟨latitude, longitude, "map"⟩⟩ : SavedPoint)]).map SavedPoint.token) = world.spentTokens ++ [token] := by
        rw [List.map_append]
        rfl
      exact
        { packs := guarded.packs
          fit := by
            intro other found hstored
            simp only [Dict.get?_set] at hstored
            split at hstored
            · cases hstored
              exact ⟨(guarded.fit key session hfound).pinned, fun _ => rfl⟩
            · exact guarded.fit other found hstored
          owned := by
            intro other found offered hstored hoffered
            simp only [Dict.get?_set] at hstored
            split at hstored
            · cases hstored
              cases hoffered
            · exact guarded.owned other found offered hstored hoffered
          unspent := by
            intro other found offered hstored hoffered
            simp only [Dict.get?_set] at hstored
            unfold spentTokens
            rw [hspent]
            split at hstored
            · cases hstored
              cases hoffered
            · rename_i hkey
              exact ChatFlight.Guarded.notMem_append (guarded.unspent other found offered hstored hoffered)
                (hforeign offered other hkey (guarded.owned other found offered hstored hoffered))
          single := guarded.single
          redeemed := by
            intro other hmem
            unfold spentTokens at hmem
            rw [hspent] at hmem
            rcases List.mem_append.mp hmem with hold | hnew
            · exact guarded.redeemed other hold
            · rw [List.mem_singleton.mp hnew]
              exact List.mem_map_of_mem hissued
          once := by
            unfold spentTokens
            rw [hspent, List.nodup_append]
            refine ⟨guarded.once, List.nodup_singleton _, ?_⟩
            rintro other hmem last hlast rfl
            rw [List.mem_singleton] at hlast
            exact hunspent (hlast ▸ hmem)
          stands := by
            intro other location hstanding
            simp only [Dict.get?_set] at hstanding ⊢
            split at hstanding
            · rename_i hkey
              rw [if_pos hkey]
              exact ⟨_, rfl, hstanding⟩
            · rename_i hkey
              rw [if_neg hkey]
              exact guarded.stands other location hstanding
          flights := by
            intro index found hflight
            rw [List.getElem?_map, Option.map_eq_some_iff] at hflight
            obtain ⟨flight, hflight, rfl⟩ := hflight
            have hflight := guarded.flights index flight hflight
            unfold spentTokens
            rw [hspent]
            exact hflight.submitted fun hkey offered hoffers =>
              hforeign offered flight.key hkey (hflight.owned offered hoffers) }

theorem Guarded.turn (guarded : world.Guarded) {turn : IntakeTurn} (fresh : world.DrawsFresh turn)
    (current : world.StoresCurrent turn) : (world.turn setup turn).Guarded := by
  cases turn with
  | pack action =>
      exact
        { packs := guarded.packs.step action
          fit := guarded.fit
          owned := guarded.owned
          unspent := guarded.unspent
          single := guarded.single
          redeemed := guarded.redeemed
          once := guarded.once
          stands := guarded.stands
          flights := guarded.flights }
  | arrive identity eventId event =>
      refine { guarded with flights := ?_ }
      intro index found hfound
      rcases List.mem_append.mp (List.mem_of_getElem? hfound) with hold | hnew
      · obtain ⟨place, hplace⟩ := List.mem_iff_getElem?.mp hold
        exact guarded.flights place found hplace
      · cases List.mem_singleton.mp hnew
        exact .of_blank (IntakeCoordinator.carries_program setup identity event)
  | chat index draw =>
      unfold IntakeWorld.turn
      unfold DrawsFresh asked at fresh
      unfold StoresCurrent asked at current
      dsimp only at fresh current ⊢
      cases hindex : world.flights[index]? with
      | none => exact guarded
      | some flight =>
          rw [hindex] at fresh current
          dsimp only at fresh current ⊢
          cases hprogram : flight.program with
          | done reply => exact guarded
          | raise failure => exact guarded
          | call op resume =>
              rw [hprogram] at fresh current
              refine guarded.chat hindex hprogram ?_ ?_
              · rintro rfl
                exact fresh
              · rintro (⟨state, rfl⟩ | rfl) <;> exact current
  | submit token latitude longitude address => exact guarded.submit token latitude longitude address

theorem Guarded.run (guarded : world.Guarded) {turns : List IntakeTurn}
    (fresh : Throughout setup DrawsFresh world turns)
    (current : Throughout setup StoresCurrent world turns) :
    ∀ before, before <+: turns → (world.run setup before).Guarded := by
  induction turns generalizing world with
  | nil =>
      intro before hprefix
      rw [List.prefix_nil.mp hprefix]
      exact guarded
  | cons next rest ih =>
      intro before hprefix
      cases before with
      | nil => exact guarded
      | cons first others =>
          obtain ⟨rfl, hrest⟩ := List.cons_prefix_cons.mp hprefix
          exact ih (guarded.turn fresh.1 current.1) fresh.2 current.2 others hrest

end IntakeWorld

theorem address_redeemed_once (setup : IntakeCoordinator.Setup) (turns : List IntakeTurn)
    (fresh : IntakeWorld.empty.Throughout setup IntakeWorld.DrawsFresh turns)
    (current : IntakeWorld.empty.Throughout setup IntakeWorld.StoresCurrent turns) :
    ∀ before, before <+: turns → (IntakeWorld.after setup before).AddressKept := by
  intro before hprefix
  exact (IntakeWorld.guarded_empty.run fresh current before hprefix).addressKept

def mapClient : MessengerIdentity :=
  ⟨⟨"org", "actor", .client⟩, "Анна", .telegram, "7", [.client]⟩

def mapSetup : IntakeCoordinator.Setup := ⟨⟨id, id⟩, none⟩

/-- A published pack, and a client who has given a phone. -/
def addressAsked : List IntakeTurn :=
  let draw (text : String) : IntakeDraw := ⟨text, .ok ""⟩
  [.pack (.begin "org" (.bootstrapActive smallDefinition)), .pack (.advance 0), .pack (.advance 0),
    .arrive mapClient "first" .start, .chat 0 (draw ""), .chat 0 (draw "submission"),
    .chat 0 (draw ""), .arrive mapClient "second" (.text "+79990000000"), .chat 1 (draw ""),
    .chat 1 (draw ""), .chat 1 (draw "token"), .chat 1 (draw "")]

theorem address_redeemed_once_submitted :
    IntakeWorld.empty.Throughout mapSetup IntakeWorld.DrawsFresh
        (addressAsked ++ [.submit "token" 55 37 none]) ∧
      (IntakeWorld.after mapSetup (addressAsked ++ [.submit "token" 55 37 none])).AddressKept := by
  have hfresh : IntakeWorld.empty.Throughout mapSetup IntakeWorld.DrawsFresh
      (addressAsked ++ [.submit "token" 55 37 none]) := by
    decide +kernel
  have hcurrent : IntakeWorld.empty.Throughout mapSetup IntakeWorld.StoresCurrent
      (addressAsked ++ [.submit "token" 55 37 none]) := by
    decide +kernel
  exact ⟨hfresh, address_redeemed_once mapSetup _ hfresh hcurrent _ (List.prefix_refl _)⟩

/-- The client asks to type the address, the map submission is saved after the handler has
read the session, and the handler puts the session back as it was. -/
def tokenRestored : List IntakeTurn :=
  addressAsked ++
    [.arrive mapClient "third" (.callback .typeAddress .empty), .chat 2 ⟨"", .ok ""⟩,
      .submit "token" 55 37 none, .chat 2 ⟨"", .ok ""⟩, .chat 2 ⟨"", .ok ""⟩,
      .submit "token" 55 37 none]

theorem address_redeemed_twice :
    IntakeWorld.empty.Throughout mapSetup IntakeWorld.DrawsFresh tokenRestored ∧
      ¬(IntakeWorld.after mapSetup tokenRestored).AddressKept := by
  refine ⟨by decide +kernel, fun hkept => ?_⟩
  have hsaved : (IntakeWorld.after mapSetup tokenRestored).saved.map SavedPoint.token =
      ["token", "token"] := by
    decide +kernel
  have honce := hkept.once
  rw [hsaved] at honce
  revert honce
  decide

end DispatchCore.Messaging
