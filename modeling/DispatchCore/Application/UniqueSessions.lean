import DispatchCore.Application.PostgresService

/-! The unique indexes of the sessions: whatever transactions run at once, no two rows of
`tracking_sessions` have a link, or a visit under way, in common. -/
namespace DispatchCore.Application

open DispatchCore.Library DispatchCore.Domain DispatchCore.Infrastructure Isolation

/-- No two sessions hold the same in a unique index. -/
def UniqueSessions (tables : StoreTables) : Prop :=
  ∀ first second left right held, tables.tracking.sessions.get? first = some left →
    tables.tracking.sessions.get? second = some right → held ∈ left.indexed first →
      held ∈ right.indexed second → first = second

/-- The row that the writes put under the key at last. -/
def sessionWritten (key : Key) : List StoreWrite → Option SessionRow
  | [] => none
  | .session other row :: rest =>
      (sessionWritten key rest).or (if key = other then some row else none)
  | _ :: rest => sessionWritten key rest

section written

variable {key : Key} {writes : List StoreWrite} {tables : StoreTables}

theorem get?_sessionWritten : (writes.foldl StoreTables.apply tables).tracking.sessions.get? key =
    (sessionWritten key writes).or (tables.tracking.sessions.get? key) := by
  induction writes generalizing tables with
  | nil => rfl
  | cons write rest ih =>
      rw [List.foldl_cons, ih]
      cases write with
      | session other row =>
          show (sessionWritten key rest).or ((tables.tracking.sessions.set other row).get? key) =
            ((sessionWritten key rest).or _).or _
          rw [Dict.get?_set, Option.or_assoc]
          by_cases hsame : key = other
          · rw [if_pos hsame, if_pos hsame]
            rfl
          · rw [if_neg hsame, if_neg hsame]
            rfl
      | counter | order | responses | points | events => rfl

theorem sessionWritten_append (first second : List StoreWrite) :
    sessionWritten key (first ++ second) =
      (sessionWritten key second).or (sessionWritten key first) := by
  induction first with
  | nil => exact (Option.or_none).symm
  | cons write rest ih =>
      cases write with
      | session other row =>
          show (sessionWritten key (rest ++ second)).or _ = _
          rw [ih, Option.or_assoc]
          rfl
      | counter | order | responses | points | events => exact ih

end written

/-- Every row that a commit puts is new in the indexes, under locks of the committer. -/
def sessionIsolation : Isolation StoreTables StoreLock where
  valid := UniqueSessions
  effect _ held before after := ∀ key row, after.tracking.sessions.get? key = some row →
    before.tracking.sessions.get? key = some row ∨
      ∀ entry ∈ row.indexed key, .indexed entry ∈ held
  known _ _ := True
  kept _ _ _ := trivial

/-- What a transaction has written fits what is committed, and its index entries are locked. -/
structure SessionsFit (writes : List StoreWrite) (locks : List StoreLock) (tables : StoreTables) :
    Prop where
  unique : UniqueSessions (writes.foldl StoreTables.apply tables)
  locked : ∀ key row, sessionWritten key writes = some row →
    ∀ entry ∈ row.indexed key, .indexed entry ∈ locks

/-- What a statement does to the sessions: nothing, or one row that clashes with none. -/
theorem session_execute {statement : StoreStatement} {tables : StoreTables}
    {found : Executed StoreWrite StoreLock statement.Answer}
    (h : statement.execute tables = .ok found) :
    (∀ key, sessionWritten key found.writes = none) ∨
      ∃ key row, ¬tables.tracking.Violates key row ∧ found.writes = [.session key row] ∧
        ∀ entry ∈ row.indexed key, .indexed entry ∈ found.locks := by
  cases statement with
  | insertSession key row =>
      simp only [StoreStatement.execute] at h
      split at h
      · cases h
        exact .inl fun _ => rfl
      · split at h
        · contradiction
        · cases h
          refine .inr ⟨key, row, ‹_›, rfl, fun entry hentry => ?_⟩
          exact List.mem_cons_of_mem _ (List.mem_map_of_mem hentry)
  | updateSession key row expectedVersion =>
      simp only [StoreStatement.execute] at h
      split at h
      · cases h
        exact .inl fun _ => rfl
      · split at h
        · split at h
          · contradiction
          · cases h
            refine .inr ⟨key, _, ‹_›, rfl, fun entry hentry => ?_⟩
            exact List.mem_cons_of_mem _ (List.mem_map_of_mem hentry)
        · cases h
          exact .inl fun _ => rfl
  | allocateNumber | selectOrder | selectResponses | insertOrder | updateOrder | deleteResponses
  | insertResponses | beginSelectSession | selectSession | selectSourceEvent | selectActive
  | insertPoints | insertEvents =>
      simp only [StoreStatement.execute] at h
      repeat' split at h
      all_goals
        cases h
        try exact .inl fun _ => rfl

/-- A row that clashes with none goes in. -/
theorem unique_set {tables : StoreTables} (unique : UniqueSessions tables) {key : Key}
    {row : SessionRow} (fits : ¬tables.tracking.Violates key row) :
    UniqueSessions (tables.apply (.session key row)) := by
  have hclash {other : Key} {found : SessionRow} {entry : Indexed}
      (hfound : tables.tracking.sessions.get? other = some found) (hne : other ≠ key)
      (hmine : entry ∈ row.indexed key) : entry ∉ found.indexed other := fun htheirs =>
    fits ⟨(other, found), (Dict.get?_eq_some _ _ _).mp hfound, hne, entry, hmine, htheirs⟩
  intro first second left right entry hleft hright hfirst hsecond
  change (tables.tracking.sessions.set key row).get? first = some left at hleft
  change (tables.tracking.sessions.set key row).get? second = some right at hright
  rw [Dict.get?_set] at hleft hright
  by_cases hone : first = key
  · rw [if_pos hone] at hleft
    by_cases htwo : second = key
    · exact hone.trans htwo.symm
    · rw [if_neg htwo] at hright
      cases hleft
      rw [hone] at hfirst
      exact absurd hsecond (hclash hright htwo hfirst)
  · rw [if_neg hone] at hleft
    by_cases htwo : second = key
    · rw [if_pos htwo] at hright
      cases hright
      rw [htwo] at hsecond
      exact absurd hfirst (hclash hleft hone hsecond)
    · rw [if_neg htwo] at hright
      exact unique first second left right entry hleft hright hfirst hsecond

theorem sessionsFit_statement (statement : StoreStatement) (writes : List StoreWrite)
    (locks : List StoreLock) (now : StoreTables)
    (found : Executed StoreWrite StoreLock statement.Answer) (fit : SessionsFit writes locks now)
    (h : statement.execute (writes.foldl StoreTables.apply now) = .ok found) :
    SessionsFit (writes ++ found.writes) (locks ++ found.locks) now := by
  rcases session_execute h with hnone | ⟨key, row, hfits, hwrites, hlocked⟩
  · constructor
    · intro first second left right entry hleft hright
      rw [get?_sessionWritten, sessionWritten_append, hnone, Option.none_or,
        ← get?_sessionWritten] at hleft hright
      exact fit.unique first second left right entry hleft hright
    · intro key row hrow entry hentry
      rw [sessionWritten_append, hnone, Option.none_or] at hrow
      exact List.mem_append_left _ (fit.locked key row hrow entry hentry)
  · rw [hwrites]
    constructor
    · rw [List.foldl_append]
      exact unique_set fit.unique hfits
    · intro other written hwritten entry hentry
      rw [sessionWritten_append] at hwritten
      by_cases hsame : other = key
      · have hrow : sessionWritten other [.session key row] = some row := by
          simp [sessionWritten, hsame]
        rw [hrow, Option.some_or] at hwritten
        cases hwritten
        rw [hsame] at hentry
        exact List.mem_append_right _ (hlocked entry hentry)
      · have hrow : sessionWritten other [.session key row] = none := by
          simp [sessionWritten, hsame]
        rw [hrow, Option.none_or] at hwritten
        exact List.mem_append_left _ (fit.locked other written hwritten entry hentry)

/-- Who commits in between puts no row that has an entry in common with one that is locked. -/
theorem sessionsFit_beside {index : Nat} (writes : List StoreWrite) (locks : List StoreLock)
    (before after : StoreTables) (beside : sessionIsolation.Beside index locks before after)
    (fit : SessionsFit writes locks before) : SessionsFit writes locks after := by
  obtain ⟨other, held, -, hfree, heffect, -, hvalid⟩ := beside
  refine ⟨?_, fit.locked⟩
  -- A row of ours and a row that stands: it stood before, or came in under the other's locks.
  have hours {mine theirs : Key} {row found : SessionRow} {entry : Indexed}
      (hrow : sessionWritten mine writes = some row)
      (hnone : sessionWritten theirs writes = none)
      (hfound : after.tracking.sessions.get? theirs = some found)
      (hmine : entry ∈ row.indexed mine) (htheirs : entry ∈ found.indexed theirs) :
      mine = theirs := by
    rcases heffect theirs found hfound with hstood | hlocked
    · refine fit.unique mine theirs row found entry ?_ ?_ hmine htheirs
      · rw [get?_sessionWritten, hrow]
        rfl
      · rw [get?_sessionWritten, hnone]
        exact hstood
    · exact absurd (hlocked entry htheirs) (hfree _ (fit.locked mine row hrow entry hmine))
  intro first second left right entry hleft hright hfirst hsecond
  rw [get?_sessionWritten] at hleft hright
  cases hone : sessionWritten first writes with
  | some row =>
      rw [hone, Option.some_or] at hleft
      cases hleft
      cases htwo : sessionWritten second writes with
      | some found =>
          rw [htwo, Option.some_or] at hright
          cases hright
          refine fit.unique first second _ _ entry ?_ ?_ hfirst hsecond
          · rw [get?_sessionWritten, hone]
            rfl
          · rw [get?_sessionWritten, htwo]
            rfl
      | none =>
          rw [htwo, Option.none_or] at hright
          exact hours hone htwo hright hfirst hsecond
  | none =>
      rw [hone, Option.none_or] at hleft
      cases htwo : sessionWritten second writes with
      | some found =>
          rw [htwo, Option.some_or] at hright
          cases hright
          exact (hours htwo hone hleft hsecond hfirst).symm
      | none =>
          rw [htwo, Option.none_or] at hright
          exact hvalid first second left right entry hleft hright hfirst hsecond

/-- Where a transaction has written what fits, it may commit. -/
theorem commits_sessions {index : Nat} {writes : List StoreWrite} {locks : List StoreLock}
    {tables : StoreTables} (fit : SessionsFit writes locks tables) :
    sessionIsolation.Commits StoreTables.apply index writes locks tables := by
  intro now hlater
  have hstable : sessionIsolation.Stable index locks (SessionsFit writes locks) :=
    fun before after beside fit => sessionsFit_beside writes locks before after beside fit
  have hfit := hstable.later hlater fit
  refine ⟨hfit.unique, fun key row hrow => ?_⟩
  rw [get?_sessionWritten] at hrow
  cases hwritten : sessionWritten key writes with
  | none =>
      rw [hwritten, Option.none_or] at hrow
      exact .inl hrow
  | some found =>
      rw [hwritten, Option.some_or] at hrow
      cases hrow
      exact .inr (hfit.locked key _ hwritten)

theorem begins_sessions (index : Nat) (body : Transaction Unit) :
    sessionIsolation.Begins StoreStatement.execute StoreTables.apply index body := by
  intro tables hvalid _
  have hfresh : SessionsFit [] [] tables := ⟨hvalid, fun _ _ h => by contradiction⟩
  refine (keeps_carried (fun op writes locks now found _ fit h =>
    sessionsFit_statement op writes locks now found fit h)
    (fun writes locks before after => sessionsFit_beside writes locks before after)
    body hfresh).weaken fun _ _ _ _ fit => commits_sessions fit

/-- Whatever the turns, the unique indexes of the sessions hold. -/
theorem uniqueSessions_run (commands : List Command) (schedule : List Database.Turn) :
    UniqueSessions (runTransactions commands schedule).tables := by
  have hempty : UniqueSessions .empty := fun _ _ _ _ _ h => by contradiction
  have hkept : sessionIsolation.Kept StoreStatement.execute StoreTables.apply
      (launchTransactions commands) := by
    refine kept_open hempty fun index stage hstage => ?_
    rw [List.getElem?_map] at hstage
    obtain ⟨command, -, rfl⟩ := Option.map_eq_some_iff.mp hstage
    exact ⟨trivial, begins_sessions index command.body .empty hempty trivial,
      fun _ next _ => begins_sessions index next⟩
  refine (List.foldlRecOn schedule postgresTurn hkept fun before kept turn _ => ?_ :
    sessionIsolation.Kept StoreStatement.execute StoreTables.apply _).valid
  exact (kept.turn turn).1

end DispatchCore.Application
