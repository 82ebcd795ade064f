import DispatchCore.Infrastructure.Callbacks

/-! Who owns a button: whatever the order of the store's statements, a token goes to one
claim key, waits for it, and is closed once. -/
namespace DispatchCore.Infrastructure

open DispatchCore.Library

/-- A token as it was stored before claims had columns of their own. -/
structure UnownedRow extends CallbackAction where
  revokedAt : Option Instant

/-- The new columns start empty. -/
def UnownedRow.migrated (row : UnownedRow) : CallbackRow :=
  { row with
    claimKey := none
    completedAt := none }

inductive CallbackStatement
  | create (action : CallbackAction)
  | resolve (token organizationId : String) (actorRole : Role) (claimKey : Option String)
      (fresh : String) (now : Instant)
  | complete (token organizationId claimKey : String) (now : Instant)

/-- The key a resolve carries. -/
def stableClaimKey (claimKey : Option String) (fresh : String) : String :=
  if claimKey.getD "" = "" then fresh else claimKey.getD ""

/-- A statement that succeeded. -/
inductive Grant
  | resolved (token claimKey : String) (action : CallbackAction) (organizationId : String)
      (actorRole : Role) (now : Instant)
  | completed (token claimKey : String)

def Grant.token : Grant → String
  | resolved token _ _ _ _ _ => token
  | completed token _ => token

def Grant.claimKey : Grant → String
  | resolved _ claimKey _ _ _ _ => claimKey
  | completed _ claimKey => claimKey

def Grant.isCompleted : Grant → Bool
  | resolved _ _ _ _ _ _ => false
  | completed _ _ => true

/-- The table, and the statements that have succeeded, oldest first. -/
structure CallbackRun where
  rows : CallbackRows
  grants : List Grant

namespace CallbackRun

def granted (run : CallbackRun) (rows : CallbackRows) (grants : List Grant) : CallbackRun :=
  { rows := rows, grants := run.grants ++ grants }

def step (run : CallbackRun) : CallbackStatement → CallbackRun
  | .create action => run.granted (PostgresCallbackStore.create action run.rows) []
  | .resolve token organizationId actorRole claimKey fresh now =>
      let (found, rows) := PostgresCallbackStore.resolve token organizationId actorRole claimKey
        fresh now run.rows
      run.granted rows <| found.toList.map fun action =>
        .resolved token (stableClaimKey claimKey fresh) action organizationId actorRole now
  | .complete token organizationId claimKey now =>
      let (closed, rows) := PostgresCallbackStore.complete token organizationId claimKey now run.rows
      run.granted rows (if closed then [.completed token claimKey] else [])

def after (stored : Dict String UnownedRow) (statements : List CallbackStatement) : CallbackRun :=
  statements.foldl step ⟨stored.mapValues fun _ row => row.migrated, []⟩

/-- The grants of one token. -/
def grantsOf (run : CallbackRun) (token : String) : List Grant :=
  run.grants.filter fun grant => grant.token = token

end CallbackRun

/-- Whom a token is meant for, and until when. -/
def CallbackAction.Admits (action : CallbackAction) (organizationId : String) (actorRole : Role)
    (now : Instant) : Prop :=
  action.organizationId = organizationId ∧ now < action.expiresAt ∧
    (action.allowedRole = none ∨ action.allowedRole = some actorRole ∨ actorRole = .admin)

instance (action : CallbackAction) (organizationId : String) (actorRole : Role) (now : Instant) :
    Decidable (action.Admits organizationId actorRole now) :=
  inferInstanceAs (Decidable (_ ∧ _ ∧ _))

/-! ### One statement -/

section statement

variable {rows : CallbackRows} {row : CallbackRow} {token organizationId key fresh : String}
  {role : Role} {claimKey : Option String} {now : Instant}

theorem resolvable_iff :
    row.Resolvable organizationId role key now ↔
      row.toCallbackAction.Admits organizationId role now ∧
        (row.revokedAt = none ∨ (row.claimKey = some key ∧ row.completedAt = none)) := by
  unfold CallbackRow.Resolvable CallbackAction.Admits
  tauto

theorem resolve_of_resolvable (stored : rows.get? token = some row)
    (admitted : row.Resolvable organizationId role (stableClaimKey claimKey fresh) now) :
    PostgresCallbackStore.resolve token organizationId role claimKey fresh now rows =
      (some row.toCallbackAction,
        rows.set token (row.claimed (stableClaimKey claimKey fresh) now)) := by
  unfold PostgresCallbackStore.resolve
  rw [stored]
  exact if_pos admitted

theorem resolve_of_not_resolvable (refused : ∀ row, rows.get? token = some row →
      ¬row.Resolvable organizationId role (stableClaimKey claimKey fresh) now) :
    PostgresCallbackStore.resolve token organizationId role claimKey fresh now rows =
      (none, rows) := by
  unfold PostgresCallbackStore.resolve
  cases hrow : rows.get? token with
  | none => rfl
  | some row => exact if_neg (refused row hrow)

theorem complete_of_open (stored : rows.get? token = some row)
    (opened : row.organizationId = organizationId ∧ row.claimKey = some key ∧
      row.completedAt = none) :
    PostgresCallbackStore.complete token organizationId key now rows =
      (true, rows.set token (row.completed now)) := by
  unfold PostgresCallbackStore.complete
  rw [stored]
  exact if_pos opened

theorem complete_of_not_open (refused : ∀ row, rows.get? token = some row →
      ¬(row.organizationId = organizationId ∧ row.claimKey = some key ∧
        row.completedAt = none)) :
    PostgresCallbackStore.complete token organizationId key now rows = (false, rows) := by
  unfold PostgresCallbackStore.complete
  cases hrow : rows.get? token with
  | none => rfl
  | some row => exact if_neg (refused row hrow)

end statement

/-! ### The row a token's grants leave -/

/-- A grant of the token to its owner. -/
def ResolvedFor (token claimKey : String) (action : CallbackAction) (grant : Grant) : Prop :=
  ∃ organizationId role now,
    grant = .resolved token claimKey action organizationId role now ∧
      action.Admits organizationId role now

/-- The row is claimed for `claimKey`. -/
structure Owned (rows : CallbackRows) (token claimKey : String) (row : CallbackRow) : Prop where
  stored : rows.get? token = some row
  revoked : row.revokedAt.isSome
  claim : row.claimKey = some claimKey

inductive Standing (rows : CallbackRows) (token : String) : List Grant → Prop
  | unowned :
      (∀ row, rows.get? token = some row → row.claimKey = none ∧ row.completedAt = none) →
      Standing rows token []
  | owned (row : CallbackRow) (claimKey : String) (resolves : List Grant) :
      Owned rows token claimKey row → row.completedAt = none → resolves ≠ [] →
      (∀ grant ∈ resolves, ResolvedFor token claimKey row.toCallbackAction grant) →
      Standing rows token resolves
  | closed (row : CallbackRow) (claimKey : String) (resolves : List Grant) :
      Owned rows token claimKey row → row.completedAt.isSome → resolves ≠ [] →
      (∀ grant ∈ resolves, ResolvedFor token claimKey row.toCallbackAction grant) →
      Standing rows token (resolves ++ [.completed token claimKey])

/-- Only the token's own row matters. -/
theorem Standing.congr {rows next : CallbackRows} {token : String} {grants : List Grant}
    (standing : Standing rows token grants) (same : next.get? token = rows.get? token) :
    Standing next token grants := by
  cases standing with
  | unowned hrow => exact .unowned (by rwa [same])
  | owned row claimKey resolves howned =>
      obtain ⟨hstored, hrevoked, hclaim⟩ := howned
      apply Standing.owned row claimKey <;> first | assumption | skip
      exact ⟨same.trans hstored, hrevoked, hclaim⟩
  | closed row claimKey resolves howned =>
      obtain ⟨hstored, hrevoked, hclaim⟩ := howned
      apply Standing.closed row claimKey <;> first | assumption | skip
      exact ⟨same.trans hstored, hrevoked, hclaim⟩

section step

variable {rows : CallbackRows} {token organizationId key fresh : String} {role : Role}
  {claimKey : Option String} {now : Instant} {grants : List Grant}

theorem Standing.create (standing : Standing rows token grants) (action : CallbackAction) :
    Standing (PostgresCallbackStore.create action rows) token grants := by
  rcases PostgresCallbackStore.create_effect rows action with h | ⟨hnone, h⟩
  · rwa [h]
  · rw [h]
    by_cases hname : token = action.token
    · -- the name was free, so nothing was granted under it
      subst hname
      cases standing with
      | unowned =>
          apply Standing.unowned
          intro row hrow
          rw [Dict.get?_set_self] at hrow
          cases hrow
          exact ⟨rfl, rfl⟩
      | owned row claimKey resolves howned =>
          rw [howned.stored] at hnone
          contradiction
      | closed row claimKey resolves howned =>
          rw [howned.stored] at hnone
          contradiction
    · exact standing.congr (Dict.get?_set_of_ne _ _ hname)

/-- What a granted resolve adds, for the token resolved. -/
theorem Standing.resolved (standing : Standing rows token grants) {row : CallbackRow}
    (stored : rows.get? token = some row)
    (granted : row.Resolvable organizationId role key now) :
    Standing (rows.set token (row.claimed key now)) token
      (grants ++ [.resolved token key row.toCallbackAction organizationId role now]) := by
  obtain ⟨hadmits, hfree⟩ := resolvable_iff.mp granted
  have hlast : ResolvedFor token key row.toCallbackAction
      (.resolved token key row.toCallbackAction organizationId role now) :=
    ⟨organizationId, role, now, rfl, hadmits⟩
  have hrevoked : (row.claimed key now).revokedAt.isSome := by simp [CallbackRow.claimed]
  cases standing with
  | unowned hrow =>
      obtain ⟨hclaim, hcompleted⟩ := hrow row stored
      refine .owned (row.claimed key now) key _ ⟨Dict.get?_set_self _ _ _, hrevoked, ?_⟩
        hcompleted (by simp) ?_
      · simp [CallbackRow.claimed, hclaim]
      · intro grant hgrant
        rw [List.mem_singleton.mp hgrant]
        exact hlast
  | owned found owner resolves howned hcompleted hne hall =>
      have hfound := howned.stored
      rw [stored] at hfound
      cases hfound
      have hkey : owner = key := by
        rcases hfree with hnone | ⟨hclaim, -⟩
        · have hsome := howned.revoked
          rw [hnone] at hsome
          contradiction
        · have hsame := howned.claim
          rw [hclaim] at hsame
          exact (Option.some.inj hsame).symm
      subst hkey
      refine .owned (row.claimed owner now) owner _ ⟨Dict.get?_set_self _ _ _, hrevoked, ?_⟩
        hcompleted (by simp) ?_
      · simp [CallbackRow.claimed, howned.claim]
      · intro grant hgrant
        rcases List.mem_append.mp hgrant with h | h
        · exact hall grant h
        · rw [List.mem_singleton.mp h]
          exact hlast
  | closed found owner resolves howned hcompleted =>
      have hfound := howned.stored
      rw [stored] at hfound
      cases hfound
      rcases hfree with hnone | ⟨-, hopen⟩
      · have hsome := howned.revoked
        rw [hnone] at hsome
        contradiction
      · rw [hopen] at hcompleted
        contradiction

/-- What a completion adds, for the token completed. -/
theorem Standing.completed (standing : Standing rows token grants) {row : CallbackRow}
    (stored : rows.get? token = some row)
    (claimed : row.claimKey = some key) (opened : row.completedAt = none) :
    Standing (rows.set token (row.completed now)) token (grants ++ [.completed token key]) := by
  cases standing with
  | unowned hrow =>
      rw [(hrow row stored).1] at claimed
      contradiction
  | owned found owner resolves howned hcompleted hne hall =>
      have hfound := howned.stored
      rw [stored] at hfound
      cases hfound
      have hkey : owner = key := by
        have hsame := howned.claim
        rw [claimed] at hsame
        exact (Option.some.inj hsame).symm
      subst hkey
      exact .closed (row.completed now) owner grants
        ⟨Dict.get?_set_self _ _ _, howned.revoked, claimed⟩ rfl hne hall
  | closed found owner resolves howned hcompleted =>
      have hfound := howned.stored
      rw [stored] at hfound
      cases hfound
      rw [opened] at hcompleted
      contradiction

end step

namespace CallbackRun

theorem grantsOf_granted (run : CallbackRun) (rows : CallbackRows) (grants : List Grant)
    (token : String) :
    (run.granted rows grants).grantsOf token =
      run.grantsOf token ++ grants.filter fun grant => grant.token = token :=
  List.filter_append ..

/-- The row and the grants of a token, as they must agree. -/
def Sound (run : CallbackRun) (token : String) : Prop :=
  Standing run.rows token (run.grantsOf token)

theorem Sound.step {run : CallbackRun} {token : String} (sound : run.Sound token)
    (statement : CallbackStatement) : (run.step statement).Sound token := by
  unfold Sound at sound ⊢
  cases statement with
  | create action =>
      simp only [CallbackRun.step, grantsOf_granted, List.filter_nil, List.append_nil]
      exact sound.create action
  | resolve name organizationId role claimKey fresh now =>
      by_cases hgrant : ∃ row, run.rows.get? name = some row ∧
          row.Resolvable organizationId role (stableClaimKey claimKey fresh) now
      · obtain ⟨row, hrow, hresolvable⟩ := hgrant
        simp only [CallbackRun.step, resolve_of_resolvable hrow hresolvable, grantsOf_granted,
          Option.toList_some, List.map_cons, List.map_nil]
        by_cases hname : name = token
        · subst hname
          simpa [Grant.token, CallbackRun.granted] using sound.resolved hrow hresolvable
        · simpa [Grant.token, CallbackRun.granted, hname] using
            sound.congr (Dict.get?_set_of_ne _ _ (Ne.symm hname))
      · have hrefused : PostgresCallbackStore.resolve name organizationId role claimKey fresh now
            run.rows = (none, run.rows) :=
          resolve_of_not_resolvable fun row hrow h => hgrant ⟨row, hrow, h⟩
        simp only [CallbackRun.step, hrefused, grantsOf_granted, Option.toList_none, List.map_nil,
          List.filter_nil, List.append_nil]
        exact sound
  | complete name organizationId key now =>
      by_cases hopen : ∃ row, run.rows.get? name = some row ∧
          row.organizationId = organizationId ∧ row.claimKey = some key ∧ row.completedAt = none
      · obtain ⟨row, hrow, hfound⟩ := hopen
        simp only [CallbackRun.step, complete_of_open hrow hfound, grantsOf_granted, if_true]
        by_cases hname : name = token
        · subst hname
          simpa [Grant.token, CallbackRun.granted] using
            sound.completed hrow hfound.2.1 hfound.2.2
        · simpa [Grant.token, CallbackRun.granted, hname] using
            sound.congr (Dict.get?_set_of_ne _ _ (Ne.symm hname))
      · have hrefused : PostgresCallbackStore.complete name organizationId key now run.rows =
            (false, run.rows) :=
          complete_of_not_open fun row hrow h => hopen ⟨row, hrow, h⟩
        simp only [CallbackRun.step, hrefused, grantsOf_granted, Bool.false_eq_true, if_false,
          List.filter_nil, List.append_nil]
        exact sound

theorem sound_after (stored : Dict String UnownedRow) (statements : List CallbackStatement)
    (token : String) : (after stored statements).Sound token := by
  have hrun : ∀ run : CallbackRun, run.Sound token →
      (statements.foldl CallbackRun.step run).Sound token := by
    induction statements with
    | nil => exact fun _ h => h
    | cons statement rest ih => exact fun run h => ih _ (h.step statement)
  apply hrun
  apply Standing.unowned
  intro row hrow
  rw [Dict.get?_mapValues] at hrow
  obtain ⟨found, -, rfl⟩ := Option.map_eq_some_iff.mp hrow
  exact ⟨rfl, rfl⟩

end CallbackRun

/-! ### One owner -/

/-- The rights in a token, read off the statements that succeeded. -/
structure SingleOwner (token : String) (run : CallbackRun) : Prop where
  /-- All successful statements carry one claim key. -/
  one : ∀ first ∈ run.grantsOf token, ∀ second ∈ run.grantsOf token,
    first.claimKey = second.claimKey
  /-- Nothing succeeds once a completion has. -/
  final : (run.grantsOf token).Pairwise fun earlier _ => earlier.isCompleted = false
  /-- A completion is the owner's. -/
  owner : ∀ claimKey, .completed token claimKey ∈ run.grants →
    ∃ action organizationId role now,
      .resolved token claimKey action organizationId role now ∈ run.grants
  /-- A resolve that succeeded was meant to. -/
  admitted : ∀ claimKey action organizationId role now,
    .resolved token claimKey action organizationId role now ∈ run.grants →
      action.Admits organizationId role now ∧
        ∃ row, run.rows.get? token = some row ∧ row.toCallbackAction = action
  /-- Until a completion the owner can resolve again. -/
  resumable : ∀ claimKey action organizationId role now,
    .resolved token claimKey action organizationId role now ∈ run.grants →
    (∀ key, .completed token key ∉ run.grants) →
    ∀ organizationId role now named fresh, action.Admits organizationId role now →
      stableClaimKey named fresh = claimKey →
      (PostgresCallbackStore.resolve token organizationId role named fresh now run.rows).1 =
        some action
  /-- From a completion on nobody can. -/
  closed : ∀ claimKey, .completed token claimKey ∈ run.grants →
    ∀ organizationId role now named fresh,
      PostgresCallbackStore.resolve token organizationId role named fresh now run.rows =
        (none, run.rows)
  /-- A resolve that was not meant to succeed writes nothing. -/
  refused : ∀ organizationId role now named fresh,
    (∀ row, run.rows.get? token = some row →
      ¬row.toCallbackAction.Admits organizationId role now) →
    PostgresCallbackStore.resolve token organizationId role named fresh now run.rows =
      (none, run.rows)

theorem mem_grantsOf {run : CallbackRun} {token : String} {grant : Grant} :
    grant ∈ run.grantsOf token ↔ grant ∈ run.grants ∧ grant.token = token := by
  simp [CallbackRun.grantsOf]

section standing

variable {rows : CallbackRows} {token claimKey : String} {row : CallbackRow}

theorem ResolvedFor.claimKey_eq {action : CallbackAction} {grant : Grant}
    (resolved : ResolvedFor token claimKey action grant) : grant.claimKey = claimKey := by
  obtain ⟨_, _, _, rfl, -⟩ := resolved
  rfl

theorem ResolvedFor.open {action : CallbackAction} {grant : Grant}
    (resolved : ResolvedFor token claimKey action grant) : grant.isCompleted = false := by
  obtain ⟨_, _, _, rfl, -⟩ := resolved
  rfl

/-- A claimed row is resolved by its owner alone, until it is completed. -/
theorem Owned.resolvable_iff {organizationId key : String} {role : Role} {now : Instant}
    (owned : Owned rows token claimKey row) :
    row.Resolvable organizationId role key now ↔
      row.toCallbackAction.Admits organizationId role now ∧ key = claimKey ∧
        row.completedAt = none := by
  have hrevoked : row.revokedAt ≠ none := Option.isSome_iff_ne_none.mp owned.revoked
  rw [Infrastructure.resolvable_iff, owned.claim]
  simp [hrevoked, eq_comm]

theorem resolves_one {action : CallbackAction} {resolves : List Grant}
    (all : ∀ grant ∈ resolves, ResolvedFor token claimKey action grant) :
    ∀ grant ∈ resolves ++ [.completed token claimKey], grant.claimKey = claimKey := by
  intro grant hgrant
  rcases List.mem_append.mp hgrant with h | h
  · exact (all grant h).claimKey_eq
  · rw [List.mem_singleton.mp h]
    rfl

variable {grants : List Grant}

theorem Standing.one (standing : Standing rows token grants) :
    ∀ first ∈ grants, ∀ second ∈ grants, first.claimKey = second.claimKey := by
  intro first hfirst second hsecond
  cases standing with
  | unowned hrow => contradiction
  | owned row claimKey resolves howned hopen hne hall =>
      rw [(hall first hfirst).claimKey_eq, (hall second hsecond).claimKey_eq]
  | closed row claimKey resolves howned hcompleted hne hall =>
      rw [resolves_one hall first hfirst, resolves_one hall second hsecond]

theorem Standing.final (standing : Standing rows token grants) :
    grants.Pairwise fun earlier _ => earlier.isCompleted = false := by
  cases standing with
  | unowned hrow => exact List.Pairwise.nil
  | owned row claimKey resolves howned hopen hne hall =>
      exact List.Pairwise.imp_of_mem (fun hmem _ _ => (hall _ hmem).open)
        (List.pairwise_of_forall fun _ _ => trivial)
  | closed row claimKey resolves howned hcompleted hne hall =>
      apply List.pairwise_append.mpr
      refine ⟨?_, List.pairwise_singleton _ _, fun earlier hmem _ _ => (hall _ hmem).open⟩
      exact List.Pairwise.imp_of_mem (fun hmem _ _ => (hall _ hmem).open)
        (List.pairwise_of_forall fun _ _ => trivial)

theorem Standing.resolved_of_mem (standing : Standing rows token grants)
    {action : CallbackAction} {organizationId : String} {role : Role} {now : Instant}
    (granted : .resolved token claimKey action organizationId role now ∈ grants) :
    ∃ row, Owned rows token claimKey row ∧ row.toCallbackAction = action ∧
      action.Admits organizationId role now ∧
      (row.completedAt = none ∨ .completed token claimKey ∈ grants) := by
  cases standing with
  | unowned hrow => contradiction
  | owned row owner resolves howned hopen hne hall =>
      obtain ⟨_, _, _, heq, hadmits⟩ := hall _ granted
      cases heq
      exact ⟨row, howned, rfl, hadmits, .inl hopen⟩
  | closed row owner resolves howned hcompleted hne hall =>
      have hmem : .resolved token claimKey action organizationId role now ∈ resolves := by
        simpa using granted
      obtain ⟨_, _, _, heq, hadmits⟩ := hall _ hmem
      cases heq
      exact ⟨row, howned, rfl, hadmits, .inr (by simp)⟩

theorem Standing.completed_of_mem (standing : Standing rows token grants)
    (granted : .completed token claimKey ∈ grants) :
    ∃ row, Owned rows token claimKey row ∧ row.completedAt.isSome ∧
      ∃ action organizationId role now,
        .resolved token claimKey action organizationId role now ∈ grants := by
  cases standing with
  | unowned hrow => contradiction
  | owned row owner resolves howned hopen hne hall =>
      have hfalse := (hall _ granted).open
      contradiction
  | closed row owner resolves howned hcompleted hne hall =>
      have hkey : claimKey = owner := resolves_one hall _ granted
      subst hkey
      obtain ⟨grant, hgrant⟩ := List.exists_mem_of_ne_nil resolves hne
      obtain ⟨organizationId, role, now, rfl, -⟩ := hall grant hgrant
      exact ⟨row, howned, hcompleted, row.toCallbackAction, organizationId, role, now,
        List.mem_append_left _ hgrant⟩

end standing

/-- A token has a single owner in every run. -/
theorem callback_single_owner (stored : Dict String UnownedRow)
    (statements : List CallbackStatement) (token : String) :
    SingleOwner token (.after stored statements) := by
  generalize hrun : CallbackRun.after stored statements = run
  have hstanding : Standing run.rows token (run.grantsOf token) := by
    rw [← hrun]
    exact CallbackRun.sound_after stored statements token
  constructor
  case one => exact hstanding.one
  case final => exact hstanding.final
  case owner =>
    intro claimKey hcompleted
    obtain ⟨_, -, -, action, organizationId, role, now, hresolved⟩ :=
      hstanding.completed_of_mem (mem_grantsOf.mpr ⟨hcompleted, rfl⟩)
    exact ⟨action, organizationId, role, now, (mem_grantsOf.mp hresolved).1⟩
  case admitted =>
    intro claimKey action organizationId role now hresolved
    obtain ⟨row, howned, haction, hadmits, -⟩ :=
      hstanding.resolved_of_mem (mem_grantsOf.mpr ⟨hresolved, rfl⟩)
    exact ⟨hadmits, row, howned.stored, haction⟩
  case resumable =>
    intro claimKey action organizationId role now hresolved hnever organizationId' role' now' named
      fresh hadmits hkey
    obtain ⟨row, howned, haction, -, hopen⟩ :=
      hstanding.resolved_of_mem (mem_grantsOf.mpr ⟨hresolved, rfl⟩)
    subst haction hkey
    have hincomplete : row.completedAt = none := by
      rcases hopen with h | h
      · exact h
      · exact absurd (mem_grantsOf.mp h).1 (hnever _)
    rw [resolve_of_resolvable howned.stored (howned.resolvable_iff.mpr ⟨hadmits, rfl, hincomplete⟩)]
  case closed =>
    intro claimKey hcompleted organizationId role now named fresh
    obtain ⟨row, howned, hsome, -⟩ :=
      hstanding.completed_of_mem (mem_grantsOf.mpr ⟨hcompleted, rfl⟩)
    apply resolve_of_not_resolvable
    intro found hfound hresolvable
    rw [howned.stored] at hfound
    cases hfound
    have hnone := (howned.resolvable_iff.mp hresolvable).2.2
    rw [hnone] at hsome
    contradiction
  case refused =>
    intro organizationId role now named fresh hnot
    apply resolve_of_not_resolvable
    exact fun row hrow h => hnot row hrow (resolvable_iff.mp h).1

/-- The button of a role picker: it names no role. -/
def rolePick : CallbackAction :=
  { token := "t"
    organizationId := "org-1"
    action := "staff_select_role"
    payload := Dict.ofList [("role", .str "operator")]
    allowedRole := none
    expiresAt := ⟨2⟩ }

/-- A button that names no role is granted to a role that is neither named nor `admin`. -/
theorem unrestricted_button_granted :
    ¬∀ (stored : Dict String UnownedRow) (statements : List CallbackStatement)
        (token claimKey : String) (action : CallbackAction) (organizationId : String) (role : Role)
        (now : Instant),
      .resolved token claimKey action organizationId role now ∈
          (CallbackRun.after stored statements).grants →
        action.allowedRole = some role ∨ role = .admin := by
  intro h
  have hgranted : .resolved "t" "telegram:1" rolePick "org-1" .operator ⟨1⟩ ∈
      (CallbackRun.after .empty
        [.create rolePick,
          .resolve "t" "org-1" .operator (some "telegram:1") "fresh" ⟨1⟩]).grants :=
    List.mem_singleton_self _
  rcases h _ _ _ _ _ _ _ _ hgranted with hrole | hrole
  · contradiction
  · contradiction

end DispatchCore.Infrastructure
