import Mathlib.Data.List.Basic

/-! Transactions that read what has been committed and what they wrote themselves.  A statement
waits while another transaction holds a lock it needs; locks are held to the end, and what was
written is seen by the others from the commit on. -/
namespace DispatchCore.Library

/-- A statement that runs with locks and writes, or the end of its transaction. -/
inductive TransactionStep (φ ω κ : Type)
  | run (locks : List κ) (writes : List ω) (next : φ)
  | commit (next : φ)
  | rollback (next : φ)

structure Session (φ ω κ : Type) where
  stage : φ
  writes : List ω
  locks : List κ

structure Database (τ φ ω κ : Type) where
  tables : τ
  sessions : List (Session φ ω κ)

namespace Database

variable {τ φ ω κ : Type} [DecidableEq κ] (apply : τ → ω → τ)
  (statement : φ → τ → TransactionStep φ ω κ) (cancelled : φ → Option φ)

/-- What a session sees. -/
def view (tables : τ) (session : Session φ ω κ) : τ := session.writes.foldl apply tables

/-- Nobody else holds the lock. -/
def free (sessions : List (Session φ ω κ)) (index : Nat) (lock : κ) : Bool :=
  sessions.zipIdx.all fun entry => entry.2 = index || lock ∉ entry.1.locks

def perform (database : Database τ φ ω κ) (index : Nat) (session : Session φ ω κ) :
    Database τ φ ω κ :=
  match statement session.stage (view apply database.tables session) with
  | .run locks writes next =>
      if locks.all (free database.sessions index) then
        { database with
          sessions := database.sessions.set index
            ⟨next, session.writes ++ writes, session.locks ++ locks⟩ }
      else database
  | .commit next =>
      ⟨view apply database.tables session, database.sessions.set index ⟨next, [], []⟩⟩
  | .rollback next => { database with sessions := database.sessions.set index ⟨next, [], []⟩ }

/-- The next statement of a session, or the end of a transaction that fails on the way. -/
inductive Turn
  | step (index : Nat)
  | abort (index : Nat)

def turn (database : Database τ φ ω κ) : Turn → Database τ φ ω κ
  | .step index =>
      match database.sessions[index]? with
      | some session => perform apply statement database index session
      | none => database
  | .abort index =>
      match database.sessions[index]? with
      | some session =>
          match cancelled session.stage with
          | some next =>
              { database with sessions := database.sessions.set index ⟨next, [], []⟩ }
          | none => database
      | none => database

def «open» (tables : τ) (stages : List φ) : Database τ φ ω κ :=
  ⟨tables, stages.map fun stage => ⟨stage, [], []⟩⟩

/-- No lock is held twice. -/
def Exclusive (sessions : List (Session φ ω κ)) : Prop :=
  ∀ (first second : Nat) left right lock, first ≠ second → sessions[first]? = some left →
    sessions[second]? = some right → lock ∈ left.locks → lock ∉ right.locks

/-- No lock is held twice, the tables are valid, and every session may claim what it claims. -/
structure Sound (valid : τ → Prop) (claims : Session φ ω κ → τ → Prop)
    (database : Database τ φ ω κ) : Prop where
  exclusive : Exclusive database.sessions
  valid : valid database.tables
  claims : ∀ (index : Nat) session, database.sessions[index]? = some session →
    claims session database.tables

variable {apply statement cancelled} {database : Database τ φ ω κ} {index : Nat}
  {session : Session φ ω κ} {valid : τ → Prop} {claims : Session φ ω κ → τ → Prop}

omit [DecidableEq κ] in
theorem getElem?_put {sessions : List (Session φ ω κ)}
    (h : sessions[index]? = some session) (next : Session φ ω κ) (other : Nat) :
    (sessions.set index next)[other]? = if other = index then some next else sessions[other]? := by
  obtain ⟨hbound, -⟩ := List.getElem?_eq_some_iff.mp h
  by_cases hsame : other = index
  · subst hsame
    rw [if_pos rfl, List.getElem?_set_self hbound]
  · rw [if_neg hsame, List.getElem?_set_ne (Ne.symm hsame)]

theorem free_iff {sessions : List (Session φ ω κ)} {lock : κ} :
    free sessions index lock = true ↔
      ∀ (other : Nat) found, sessions[other]? = some found → other ≠ index →
        lock ∉ found.locks := by
  unfold free
  rw [List.all_eq_true]
  constructor
  · intro h other found hfound hother
    have hentry := h (found, other) (List.mem_zipIdx_iff_getElem?.mpr hfound)
    simpa [hother] using hentry
  · intro h entry hmem
    have hfound := List.mem_zipIdx_iff_getElem?.mp hmem
    by_cases hsame : entry.2 = index
    · simp [hsame]
    · simpa [hsame] using h entry.2 entry.1 hfound hsame

/-- A session that holds no lock but its own and free ones. -/
theorem Exclusive.put {sessions : List (Session φ ω κ)} (exclusive : Exclusive sessions)
    (h : sessions[index]? = some session) {next : Session φ ω κ}
    (taken : ∀ lock ∈ next.locks, lock ∈ session.locks ∨ free sessions index lock = true) :
    Exclusive (sessions.set index next) := by
  have hothers : ∀ (other : Nat) found lock, other ≠ index → sessions[other]? = some found →
      lock ∈ next.locks → lock ∉ found.locks := by
    intro other found lock hother hfound hlock
    rcases taken lock hlock with hmine | hfree
    · exact exclusive index other session found lock (Ne.symm hother) h hfound hmine
    · exact free_iff.mp hfree other found hfound hother
  intro first second left right lock hne hleft hright hlock
  rw [getElem?_put h] at hleft hright
  by_cases hfirst : first = index
  · rw [if_pos hfirst] at hleft
    rw [if_neg (hfirst ▸ Ne.symm hne)] at hright
    cases hleft
    exact hothers second right lock (hfirst ▸ Ne.symm hne) hright hlock
  · rw [if_neg hfirst] at hleft
    by_cases hsecond : second = index
    · rw [if_pos hsecond] at hright
      cases hright
      exact fun hmine => hothers first left lock hfirst hleft hmine hlock
    · rw [if_neg hsecond] at hright
      exact exclusive first second left right lock hne hleft hright hlock

/-- A change of one session that the tables do not see. -/
theorem Sound.put (sound : database.Sound valid claims)
    (h : database.sessions[index]? = some session) {next : Session φ ω κ}
    (taken : ∀ lock ∈ next.locks, lock ∈ session.locks ∨
      free database.sessions index lock = true)
    (own : claims next database.tables) :
    Sound valid claims { database with sessions := database.sessions.set index next } where
  exclusive := sound.exclusive.put h taken
  valid := sound.valid
  claims other found hfound := by
    rw [getElem?_put h] at hfound
    by_cases hsame : other = index
    · rw [if_pos hsame] at hfound
      cases hfound
      exact own
    · rw [if_neg hsame] at hfound
      exact sound.claims other found hfound

/-- A commit, after which the tables are valid and nobody has to take back a claim. -/
theorem Sound.commit (sound : database.Sound valid claims)
    (h : database.sessions[index]? = some session) {next : φ} {after : τ}
    (kept : valid after) (own : claims ⟨next, [], []⟩ after)
    (others : ∀ other, claims other database.tables →
      (∀ lock ∈ session.locks, lock ∉ other.locks) → claims other after) :
    Sound valid claims ⟨after, database.sessions.set index ⟨next, [], []⟩⟩ where
  exclusive := sound.exclusive.put h fun lock hlock => absurd hlock List.not_mem_nil
  valid := kept
  claims other found hfound := by
    rw [getElem?_put h] at hfound
    by_cases hsame : other = index
    · rw [if_pos hsame] at hfound
      cases hfound
      exact own
    · rw [if_neg hsame] at hfound
      exact others found (sound.claims other found hfound) fun lock hlock =>
        sound.exclusive index other session found lock (Ne.symm hsame) h hfound hlock

/-- A turn keeps the tables valid and every claim, where each statement keeps those of its own
session, and a commit those of the others. -/
theorem Sound.turn (sound : database.Sound valid claims) {next : Turn}
    (run : ∀ (index : Nat) session locks writes stage, next = .step index →
      database.sessions[index]? = some session →
      statement session.stage (view apply database.tables session) = .run locks writes stage →
      claims ⟨stage, session.writes ++ writes, session.locks ++ locks⟩ database.tables)
    (commit : ∀ (index : Nat) session stage, next = .step index →
      database.sessions[index]? = some session →
      statement session.stage (view apply database.tables session) = .commit stage →
      valid (view apply database.tables session) ∧
        claims ⟨stage, [], []⟩ (view apply database.tables session) ∧
        ∀ other, claims other database.tables → (∀ lock ∈ session.locks, lock ∉ other.locks) →
          claims other (view apply database.tables session))
    (rollback : ∀ (index : Nat) session stage, database.sessions[index]? = some session →
      statement session.stage (view apply database.tables session) = .rollback stage →
      claims ⟨stage, [], []⟩ database.tables)
    (cancel : ∀ (index : Nat) session stage, database.sessions[index]? = some session →
      cancelled session.stage = some stage → claims ⟨stage, [], []⟩ database.tables) :
    Sound valid claims (turn apply statement cancelled database next) := by
  cases next with
  | step index =>
      simp only [Database.turn]
      cases hsession : database.sessions[index]? with
      | none => exact sound
      | some session =>
          simp only [perform]
          cases hstatement : statement session.stage (view apply database.tables session) with
          | run locks writes stage =>
              simp only
              by_cases hfree : locks.all (free database.sessions index) = true
              · rw [if_pos hfree]
                refine sound.put hsession (fun lock hlock => ?_)
                  (run index session locks writes stage rfl hsession hstatement)
                rcases List.mem_append.mp hlock with hmine | htaken
                · exact .inl hmine
                · exact .inr (List.all_eq_true.mp hfree lock htaken)
              · rw [if_neg hfree]
                exact sound
          | commit stage =>
              obtain ⟨hvalid, hown, hothers⟩ := commit index session stage rfl hsession hstatement
              exact sound.commit hsession hvalid hown hothers
          | rollback stage =>
              exact sound.put hsession (fun lock hlock => absurd hlock List.not_mem_nil)
                (rollback index session stage hsession hstatement)
  | abort index =>
      simp only [Database.turn]
      cases hsession : database.sessions[index]? with
      | none => exact sound
      | some session =>
          simp only
          cases hcancelled : cancelled session.stage with
          | none => exact sound
          | some stage =>
              exact sound.put hsession (fun lock hlock => absurd hlock List.not_mem_nil)
                (cancel index session stage hsession hcancelled)

end Database
end DispatchCore.Library
