import Mathlib.Algebra.GroupWithZero.Nat
import Mathlib.Data.List.Nodup
import Mathlib.Data.List.Sort
import DispatchCore.Library.Runs

/-! Migrations of the schema at start-up.  Every process that starts runs the scripts of its own
directory that the database has not recorded, under one advisory lock, each script in a transaction
with its record. -/
namespace DispatchCore.Infrastructure

open DispatchCore.Library

/-- A file of the directory of migrations; its name is its version. -/
structure Migration where
  version : String
  sql : String

structure MigrationDirectory where
  files : List Migration
  distinct : (files.map Migration.version).Nodup

/-- `sorted(directory.glob("*.sql"))` -/
def MigrationDirectory.scripts (directory : MigrationDirectory) : List Migration :=
  (directory.files.filter fun file => file.version.endsWith ".sql").mergeSort
    fun left right => decide (left.version ≤ right.version)

inductive MigrationFailure (ε : Type)
  | script (failure : ε)
  | undefinedTable
  | uniqueViolation
  | interrupted

/-- Where `migrate` is, and what it has yet to go through and has applied so far.  A script that
has run is seen in its own transaction only. -/
inductive MigrationStage (σ ε : Type)
  | locking (files : List Migration)
  | creating (files : List Migration)
  | looking (files : List Migration) (applied : List String)
  | executing (file : Migration) (rest : List Migration) (applied : List String)
  | inserting (file : Migration) (rest : List Migration) (applied : List String) (changed : σ)
  | committing (file : Migration) (rest : List Migration) (applied : List String) (changed : σ)
  | unlocking (result : Except (MigrationFailure ε) (List String))
  | returned (applied : List String)
  | raised (failure : MigrationFailure ε)
  | lost

/-- The database, with the session that holds the advisory lock, and the processes that start. -/
structure MigratingDatabase (σ ε : Type) where
  holder : Option Nat
  versions : Option (List String)
  schema : σ
  stages : List (MigrationStage σ ε)

inductive MigrationTurn
  | step (index : Nat)
  | interrupt (index : Nat)
  | crash (index : Nat)

namespace MigrationStage

variable {σ ε : Type}

def ofResult : Except (MigrationFailure ε) (List String) → MigrationStage σ ε
  | .ok applied => returned applied
  | .error failure => raised failure

/-- The process holds the lock. -/
def Inside : MigrationStage σ ε → Prop
  | locking _ | returned _ | raised _ | lost => False
  | _ => True

def Ended : MigrationStage σ ε → Prop
  | returned _ | raised _ | lost => True
  | _ => False

/-- What the process has applied, as long as it remembers. -/
def applied : MigrationStage σ ε → List String
  | looking _ applied | executing _ _ applied | inserting _ _ applied _
  | committing _ _ applied _ | unlocking (.ok applied) | returned applied => applied
  | _ => []

/-- The process does not return. -/
def Fails : MigrationStage σ ε → Prop
  | unlocking (.error _) | raised _ | lost => True
  | _ => False

end MigrationStage

namespace MigratingDatabase

variable {σ ε : Type}

def put (database : MigratingDatabase σ ε) (index : Nat) (stage : MigrationStage σ ε) :
    MigratingDatabase σ ε :=
  { database with stages := database.stages.set index stage }

/-- The next statement of a process. -/
def statement (run : String → σ → Except ε σ) (database : MigratingDatabase σ ε) (index : Nat) :
    MigrationStage σ ε → MigratingDatabase σ ε
  | .locking files =>
      match database.holder with
      | some _ => database
      | none => { database.put index (.creating files) with holder := some index }
  | .creating files =>
      { database.put index (.looking files []) with
        versions := some (database.versions.getD []) }
  | .looking [] applied => database.put index (.unlocking (.ok applied))
  | .looking (file :: rest) applied =>
      match database.versions with
      | none => database.put index (.unlocking (.error .undefinedTable))
      | some versions =>
          if file.version ∈ versions then database.put index (.looking rest applied)
          else database.put index (.executing file rest applied)
  | .executing file rest applied =>
      match run file.sql database.schema with
      | .error failure => database.put index (.unlocking (.error (.script failure)))
      | .ok changed => database.put index (.inserting file rest applied changed)
  | .inserting file rest applied changed =>
      match database.versions with
      | none => database.put index (.unlocking (.error .undefinedTable))
      | some versions =>
          if file.version ∈ versions then
            database.put index (.unlocking (.error .uniqueViolation))
          else database.put index (.committing file rest applied changed)
  | .committing file rest applied changed =>
      { database.put index (.looking rest (applied ++ [file.version])) with
        versions := some (database.versions.getD [] ++ [file.version])
        schema := changed }
  | .unlocking result => { database.put index (.ofResult result) with holder := none }
  | .returned _ | .raised _ | .lost => database

/-- A statement that fails rolls its transaction back and leaves the lock to `finally`; the server
takes the lock from a session that it cannot reach. -/
def interrupted (database : MigratingDatabase σ ε) (index : Nat) :
    MigrationStage σ ε → MigratingDatabase σ ε
  | .locking _ => database.put index (.raised .interrupted)
  | .unlocking _ => { database.put index (.raised .interrupted) with holder := none }
  | .returned _ | .raised _ | .lost => database
  | _ => database.put index (.unlocking (.error .interrupted))

def crashed (database : MigratingDatabase σ ε) (index : Nat) :
    MigrationStage σ ε → MigratingDatabase σ ε
  | .locking _ => database.put index .lost
  | .returned _ | .raised _ | .lost => database
  | _ => { database.put index .lost with holder := none }

def turn (run : String → σ → Except ε σ) (database : MigratingDatabase σ ε) :
    MigrationTurn → MigratingDatabase σ ε
  | .step index =>
      match database.stages[index]? with
      | none => database
      | some stage => database.statement run index stage
  | .interrupt index =>
      match database.stages[index]? with
      | none => database
      | some stage => database.interrupted index stage
  | .crash index =>
      match database.stages[index]? with
      | none => database
      | some stage => database.crashed index stage

/-- The versions in the table, where there is one. -/
def recorded (database : MigratingDatabase σ ε) : List String := database.versions.getD []

end MigratingDatabase

/-- What a database holds before the processes start. -/
structure MigratedSchema (σ : Type) where
  versions : Option (List String)
  schema : σ
  distinct : (versions.getD []).Nodup

def launchMigrations {σ ε : Type} (first : MigratedSchema σ)
    (directories : List MigrationDirectory) : MigratingDatabase σ ε where
  holder := none
  versions := first.versions
  schema := first.schema
  stages := directories.map fun directory => .locking directory.scripts

/-- The scripts run one after the other, each on what the one before it left. -/
def runScripts {σ ε : Type} (run : String → σ → Except ε σ) (executed : List Migration)
    (schema : σ) : Except ε σ :=
  executed.foldlM (fun schema file => run file.sql schema) schema

section invariant

variable {σ ε : Type} {run : String → σ → Except ε σ} {versions : Option (List String)}
  {schema : σ} {directory : MigrationDirectory} {stage : MigrationStage σ ε}

theorem MigrationDirectory.distinct_scripts (directory : MigrationDirectory) :
    (directory.scripts.map Migration.version).Nodup := by
  have hfiltered : ((directory.files.filter fun file => file.version.endsWith ".sql").map
      Migration.version).Nodup := directory.distinct.sublist (List.filter_sublist.map _)
  exact ((List.mergeSort_perm _ _).map _).nodup_iff.mpr hfiltered

/-- The scripts before the ones that are left are recorded, and what was applied is among them. -/
def Applied (versions : Option (List String)) (directory : MigrationDirectory)
    (rest : List Migration) (applied : List String) : Prop :=
  versions.isSome ∧ ∃ done, directory.scripts = done ++ rest ∧
    (∀ file ∈ done, file.version ∈ versions.getD []) ∧
    applied.Sublist (done.map Migration.version)

/-- What holds of a process in `migrate`. -/
def Migrates (run : String → σ → Except ε σ) (versions : Option (List String)) (schema : σ)
    (directory : MigrationDirectory) : MigrationStage σ ε → Prop
  | .locking files | .creating files => files = directory.scripts
  | .looking files applied => Applied versions directory files applied
  | .executing file rest applied =>
      Applied versions directory (file :: rest) applied ∧ file.version ∉ versions.getD []
  | .inserting file rest applied changed | .committing file rest applied changed =>
      Applied versions directory (file :: rest) applied ∧ file.version ∉ versions.getD [] ∧
        run file.sql schema = .ok changed
  | .unlocking (.ok applied) | .returned applied => Applied versions directory [] applied
  | .unlocking (.error failure) | .raised failure =>
      failure ≠ .undefinedTable ∧ failure ≠ .uniqueViolation
  | .lost => True

theorem Applied.mono {rest : List Migration} {applied : List String}
    (progress : Applied versions directory rest applied) {more : Option (List String)}
    (there : versions.isSome → more.isSome) (h : versions.getD [] ⊆ more.getD []) :
    Applied more directory rest applied := by
  obtain ⟨htable, done, hfiles, hdone, happlied⟩ := progress
  exact ⟨there htable, done, hfiles, fun file hfile => h (hdone file hfile), happlied⟩

/-- The table is created where it was not. -/
theorem Migrates.created (fits : Migrates run versions schema directory stage) :
    Migrates run (some (versions.getD [])) schema directory stage := by
  have hprogress {rest : List Migration} {applied : List String}
      (progress : Applied versions directory rest applied) :
      Applied (some (versions.getD [])) directory rest applied :=
    progress.mono (fun _ => rfl) fun _ h => h
  unfold Migrates at fits ⊢
  split
  · exact fits
  · exact fits
  · exact hprogress fits
  · exact ⟨hprogress fits.1, fits.2⟩
  · exact ⟨hprogress fits.1, fits.2⟩
  · exact ⟨hprogress fits.1, fits.2⟩
  · exact hprogress fits
  · exact hprogress fits
  · exact fits
  · exact fits
  · exact trivial

/-- A process that does not hold the lock does not mind what is committed. -/
theorem Migrates.outside (fits : Migrates run versions schema directory stage)
    (outside : ¬stage.Inside)
    (version : String) (changed : σ) :
    Migrates run (some (versions.getD [] ++ [version])) changed directory stage := by
  cases stage with
  | returned applied => exact fits.mono (fun _ => rfl) (List.subset_append_left _ _)
  | locking | raised | lost => exact fits
  | creating | looking | executing | inserting | committing | unlocking =>
      exact absurd trivial outside

/-- What holds of the database with its processes, with the scripts that have run so far. -/
structure Migrating (run : String → σ → Except ε σ) (first : MigratedSchema σ)
    (directories : List MigrationDirectory) (database : MigratingDatabase σ ε)
    (executed : List Migration) : Prop where
  recorded : database.recorded = first.versions.getD [] ++ executed.map Migration.version
  distinct : database.recorded.Nodup
  schema : runScripts run executed first.schema = .ok database.schema
  origin : ∀ file ∈ executed, ∃ directory ∈ directories, file ∈ directory.scripts
  ordered : ∀ history : List Migration,
    first.versions.getD [] <+: history.map Migration.version →
      (∀ directory ∈ directories, directory.scripts <+: history) →
        database.recorded <+: history.map Migration.version
  exclusive : ∀ (index : Nat) stage, database.stages[index]? = some stage →
    (stage.Inside ↔ database.holder = some index)
  held : ∀ index, database.holder = some index → index < database.stages.length
  fits : ∀ (index : Nat) stage, database.stages[index]? = some stage →
    ∃ directory, directories[index]? = some directory ∧
      Migrates run database.versions database.schema directory stage
  mine : ∀ stage ∈ database.stages, stage.applied ⊆ executed.map Migration.version
  disjoint : ∀ (left right : Nat) mine other, left ≠ right →
    database.stages[left]? = some mine → database.stages[right]? = some other →
      mine.applied.Disjoint other.applied
  told : ∀ file ∈ executed, ∃ stage ∈ database.stages,
    file.version ∈ stage.applied ∨ stage.Fails

variable {first : MigratedSchema σ} {directories : List MigrationDirectory}
  {database : MigratingDatabase σ ε} {executed : List Migration} {index : Nat}

theorem getElem?_stages (h : database.stages[index]? = some stage)
    (next : MigrationStage σ ε) (other : Nat) :
    (database.stages.set index next)[other]? =
      if other = index then some next else database.stages[other]? := by
  obtain ⟨hbound, -⟩ := List.getElem?_eq_some_iff.mp h
  rw [List.getElem?_set]
  by_cases hsame : other = index
  · simp [hsame, hbound]
  · rw [if_neg (Ne.symm hsame), if_neg hsame]

/-- Everything holds of the process that goes on, and of the others. -/
theorem forall_stages_set {holds : Nat → MigrationStage σ ε → Prop}
    (h : database.stages[index]? = some stage) {next : MigrationStage σ ε} (own : holds index next)
    (others : ∀ other found, other ≠ index → database.stages[other]? = some found →
      holds other found) (other : Nat) (found : MigrationStage σ ε)
    (there : (database.stages.set index next)[other]? = some found) : holds other found := by
  rw [getElem?_stages h] at there
  by_cases hsame : other = index
  · rw [if_pos hsame] at there
    cases there
    rw [hsame]
    exact own
  · rw [if_neg hsame] at there
    exact others other found hsame there

/-- A process that goes on leaves to the others what they have applied. -/
theorem disjoint_set (h : database.stages[index]? = some stage) {next : MigrationStage σ ε}
    (disjoint : ∀ (left right : Nat) mine other, left ≠ right →
      database.stages[left]? = some mine → database.stages[right]? = some other →
        mine.applied.Disjoint other.applied)
    (apart : ∀ (other : Nat) found, other ≠ index → database.stages[other]? = some found →
      next.applied.Disjoint found.applied) (left right : Nat) (mine other : MigrationStage σ ε)
    (differ : left ≠ right) (there : (database.stages.set index next)[left]? = some mine)
    (beside : (database.stages.set index next)[right]? = some other) :
    mine.applied.Disjoint other.applied := by
  rw [getElem?_stages h] at there beside
  by_cases hleft : left = index
  · rw [if_pos hleft] at there
    cases there
    rw [if_neg (hleft ▸ differ.symm)] at beside
    exact apart right other (hleft ▸ differ.symm) beside
  · rw [if_neg hleft] at there
    by_cases hright : right = index
    · rw [if_pos hright] at beside
      cases beside
      exact List.disjoint_comm.mp (apart left mine hleft there)
    · rw [if_neg hright] at beside
      exact disjoint left right mine other differ there beside

/-- Who knows of a version goes on to know of it, or fails. -/
theorem told_set (h : database.stages[index]? = some stage) {next : MigrationStage σ ε}
    {version : String}
    (told : ∃ found ∈ database.stages, version ∈ found.applied ∨ found.Fails)
    (own : version ∈ stage.applied ∨ stage.Fails → version ∈ next.applied ∨ next.Fails) :
    ∃ found ∈ database.stages.set index next, version ∈ found.applied ∨ found.Fails := by
  obtain ⟨hbound, -⟩ := List.getElem?_eq_some_iff.mp h
  obtain ⟨found, hfound, htold⟩ := told
  obtain ⟨other, hother⟩ := List.mem_iff_getElem?.mp hfound
  by_cases hsame : other = index
  · subst hsame
    cases h.symm.trans hother
    exact ⟨next, List.mem_set hbound next, own htold⟩
  · refine ⟨found, List.mem_of_getElem? (i := other) ?_, htold⟩
    rw [getElem?_stages h, if_neg hsame]
    exact hother

/-- A process that goes on, and records nothing. -/
theorem Migrating.quiet (migrating : Migrating run first directories database executed)
    (h : database.stages[index]? = some stage) {next : MigrationStage σ ε}
    {holder : Option Nat} {versions : Option (List String)}
    (holds : next.Inside ↔ holder = some index)
    (others : ∀ other, other ≠ index → (database.holder = some other ↔ holder = some other))
    (table : versions = database.versions ∨ versions = some (database.versions.getD []))
    (fits : ∀ directory, Migrates run database.versions database.schema directory stage →
      Migrates run versions database.schema directory next)
    (remembers : next.applied = stage.applied ∨ next.applied = [] ∧ next.Fails)
    (fails : stage.Fails → next.Fails) :
    Migrating run first directories
      ⟨holder, versions, database.schema, database.stages.set index next⟩ executed := by
  have hrecorded : (⟨holder, versions, database.schema, database.stages.set index next⟩ :
      MigratingDatabase σ ε).recorded = database.recorded := by
    rcases table with rfl | rfl <;> rfl
  have happlied : next.applied ⊆ stage.applied := by
    rcases remembers with hsame | ⟨hnone, -⟩
    · rw [hsame]
      exact List.Subset.refl _
    · rw [hnone]
      exact List.nil_subset _
  constructor
  · exact hrecorded.trans migrating.recorded
  · rw [hrecorded]
    exact migrating.distinct
  · exact migrating.schema
  · exact migrating.origin
  · rw [hrecorded]
    exact migrating.ordered
  · exact forall_stages_set h holds fun other found hother hfound =>
      (migrating.exclusive other found hfound).trans (others other hother)
  · intro other hother
    rw [List.length_set]
    by_cases hsame : other = index
    · exact hsame ▸ (List.getElem?_eq_some_iff.mp h).1
    · exact migrating.held other ((others other hsame).mpr hother)
  · refine forall_stages_set h ?_ fun other found _ hfound => ?_
    · obtain ⟨directory, hdirectory, hfits⟩ := migrating.fits index stage h
      exact ⟨directory, hdirectory, fits directory hfits⟩
    · obtain ⟨directory, hdirectory, hfits⟩ := migrating.fits other found hfound
      refine ⟨directory, hdirectory, ?_⟩
      rcases table with rfl | rfl
      · exact hfits
      · exact hfits.created
  · intro found hfound
    rcases List.mem_or_eq_of_mem_set hfound with hold | rfl
    · exact migrating.mine found hold
    · exact List.Subset.trans happlied (migrating.mine stage (List.mem_of_getElem? h))
  · refine disjoint_set h migrating.disjoint fun other found hother hfound => ?_
    exact List.disjoint_of_subset_left happlied
      (migrating.disjoint index other stage found hother.symm h hfound)
  · intro file hfile
    refine told_set h (migrating.told file hfile) fun htold => ?_
    rcases remembers with hkept | ⟨-, hfails⟩
    · rw [hkept]
      exact htold.imp id fails
    · exact .inr hfails

/-- Where the releases add their scripts behind those of the releases before, the first script
that is not recorded is the next of the history. -/
theorem prefix_next {recorded history done rest : List String} {version : String}
    (sofar : recorded <+: history) (scripts : done ++ version :: rest <+: history)
    (distinct : (done ++ version :: rest).Nodup) (before : done ⊆ recorded)
    (new : version ∉ recorded) : recorded ++ [version] <+: history := by
  have hsame : recorded = done := by
    rcases List.prefix_or_prefix_of_prefix sofar scripts with hshort | hlong
    · rcases List.prefix_or_prefix_of_prefix hshort (List.prefix_append done _) with hless | hmore
      · refine hless.eq_of_length_le ?_
        exact (List.subperm_of_subset (List.nodup_append.mp distinct).1 before).length_le
      · obtain ⟨more, rfl⟩ := hmore
        have hmore := (List.prefix_append_right_inj done).mp hshort
        cases more with
        | nil => exact List.append_nil done
        | cons found others =>
            obtain ⟨rfl, -⟩ := List.cons_prefix_cons.mp hmore
            exact absurd (List.mem_append_right done (List.mem_cons_self ..)) new
    · exact absurd (hlong.subset (List.mem_append_right done (List.mem_cons_self ..))) new
  subst hsame
  refine List.IsPrefix.trans ?_ scripts
  exact (List.prefix_append_right_inj _).mpr (List.cons_prefix_cons.mpr ⟨rfl, List.nil_prefix⟩)

theorem runScripts_append (executed : List Migration) (file : Migration) (schema : σ) :
    runScripts run (executed ++ [file]) schema =
      (runScripts run executed schema >>= run file.sql) := by
  unfold runScripts
  rw [List.foldlM_append]
  congr 1
  funext schema
  simp

/-- A script is recorded with what it made of the schema. -/
theorem Migrating.commit (migrating : Migrating run first directories database executed)
    {file : Migration} {rest : List Migration} {applied : List String} {changed : σ}
    (h : database.stages[index]? = some (.committing file rest applied changed)) :
    Migrating run first directories
      { database.put index (.looking rest (applied ++ [file.version])) with
        versions := some (database.versions.getD [] ++ [file.version])
        schema := changed } (executed ++ [file]) := by
  obtain ⟨directory, hdirectory, hprogress, hnew, hrun⟩ := migrating.fits index _ h
  obtain ⟨htable, done, hscripts, hdone, happlied⟩ := hprogress
  have hlocked := (migrating.exclusive index _ h).mp trivial
  have hkept := List.subset_append_left (database.versions.getD []) [file.version]
  have hexecuted : ∀ version ∈ executed.map Migration.version, version ∈ database.recorded := by
    intro version hversion
    rw [migrating.recorded]
    exact List.mem_append_right _ hversion
  constructor
  · show database.recorded ++ [file.version] = _
    rw [migrating.recorded, List.map_append, List.append_assoc]
    rfl
  · show (database.recorded ++ [file.version]).Nodup
    refine List.nodup_append.mpr ⟨migrating.distinct, by simp, fun version hold other hmem => ?_⟩
    rw [List.mem_singleton.mp hmem]
    exact fun hsame => hnew (hsame ▸ hold)
  · show runScripts run (executed ++ [file]) first.schema = .ok changed
    rw [runScripts_append, migrating.schema]
    exact hrun
  · intro found hfound
    rcases List.mem_append.mp hfound with hold | hlast
    · exact migrating.origin found hold
    · rw [List.mem_singleton.mp hlast]
      refine ⟨directory, List.mem_of_getElem? hdirectory, ?_⟩
      rw [hscripts]
      exact List.mem_append_right _ (List.mem_cons_self ..)
  · intro history hfirst hdirectories
    have hhistory := (hdirectories directory (List.mem_of_getElem? hdirectory)).map
      Migration.version
    have hdistinct := directory.distinct_scripts
    rw [hscripts, List.map_append, List.map_cons] at hhistory hdistinct
    refine prefix_next (migrating.ordered history hfirst hdirectories) hhistory hdistinct
      (fun version hversion => ?_) hnew
    obtain ⟨found, hfound, rfl⟩ := List.mem_map.mp hversion
    exact hdone found hfound
  · refine forall_stages_set h (iff_of_true trivial hlocked) fun other found _ hfound => ?_
    exact migrating.exclusive other found hfound
  · intro other hother
    show other < (database.stages.set index _).length
    rw [List.length_set]
    exact migrating.held other hother
  · refine forall_stages_set h ⟨directory, hdirectory, rfl, done ++ [file], ?_, ?_, ?_⟩
      fun other found hother hfound => ?_
    · rw [hscripts, List.append_assoc]
      rfl
    · intro found hfound
      rcases List.mem_append.mp hfound with hold | hlast
      · exact hkept (hdone found hold)
      · rw [List.mem_singleton.mp hlast]
        exact List.mem_append_right _ (List.mem_singleton_self _)
    · rw [List.map_append]
      exact happlied.append (List.Sublist.refl _)
    · obtain ⟨theirs, htheirs, hfits⟩ := migrating.fits other found hfound
      refine ⟨theirs, htheirs, hfits.outside (fun inside => hother ?_) file.version changed⟩
      have hholder := (migrating.exclusive other found hfound).mp inside
      exact Option.some.inj (hholder.symm.trans hlocked)
  · intro found hfound version hversion
    rw [List.map_append]
    rcases List.mem_or_eq_of_mem_set hfound with hold | rfl
    · exact List.mem_append_left _ (migrating.mine found hold hversion)
    · rcases List.mem_append.mp hversion with hbefore | hlast
      · exact List.mem_append_left _ (migrating.mine _ (List.mem_of_getElem? h) hbefore)
      · exact List.mem_append_right _ hlast
  · refine disjoint_set h migrating.disjoint fun other found hother hfound => ?_
    refine List.disjoint_append_left.mpr ⟨?_, List.singleton_disjoint.mpr fun hversion => hnew ?_⟩
    · exact migrating.disjoint index other _ found hother.symm h hfound
    · exact hexecuted _ (migrating.mine found (List.mem_of_getElem? hfound) hversion)
  · intro found hfound
    rcases List.mem_append.mp hfound with hold | hlast
    · refine told_set h (migrating.told found hold) fun htold => .inl ?_
      rcases htold with hversion | hfails
      · exact List.mem_append_left _ hversion
      · contradiction
    · obtain ⟨hbound, -⟩ := List.getElem?_eq_some_iff.mp h
      rw [List.mem_singleton.mp hlast]
      exact ⟨_, List.mem_set hbound _,
        .inl (List.mem_append_right _ (List.mem_singleton_self _))⟩

theorem others_of_free {index : Nat} (free : database.holder = none) (other : Nat)
    (differ : other ≠ index) : database.holder = some other ↔ some index = some other := by
  simp [free, differ.symm]

theorem others_of_held {index : Nat} (held : database.holder = some index) (other : Nat)
    (differ : other ≠ index) : database.holder = some other ↔ none = some other := by
  simp [held, differ.symm]

/-- The next statement of a process. -/
theorem Migrating.statement (migrating : Migrating run first directories database executed)
    (h : database.stages[index]? = some stage) :
    ∃ more, Migrating run first directories (database.statement run index stage) more := by
  have hinside := migrating.exclusive index stage h
  obtain ⟨mine, hmine, hfits⟩ := migrating.fits index stage h
  cases stage with
  | returned applied | raised failure | lost => exact ⟨executed, migrating⟩
  | locking files =>
      unfold MigratingDatabase.statement
      cases hholder : database.holder with
      | some other => exact ⟨executed, migrating⟩
      | none =>
          exact ⟨executed, migrating.quiet h (iff_of_true trivial rfl) (others_of_free hholder)
            (.inl rfl) (fun _ fits => fits) (.inl rfl) id⟩
  | creating files =>
      refine ⟨executed, migrating.quiet h hinside (fun _ _ => Iff.rfl) (.inr rfl)
        (fun directory fits => ?_) (.inl rfl) id⟩
      exact ⟨rfl, [], fits.symm, fun file hfile => absurd hfile List.not_mem_nil,
        List.Sublist.refl _⟩
  | looking files applied =>
      obtain ⟨htable, done, hscripts, hdone, happlied⟩ := hfits
      obtain ⟨versions, hversions⟩ := Option.isSome_iff_exists.mp htable
      cases files with
      | nil =>
          exact ⟨executed, migrating.quiet h hinside (fun _ _ => Iff.rfl) (.inl rfl)
            (fun _ fits => fits) (.inl rfl) id⟩
      | cons file rest =>
          simp only [MigratingDatabase.statement, hversions]
          by_cases hthere : file.version ∈ versions
          · rw [if_pos hthere]
            refine ⟨executed, migrating.quiet h hinside (fun _ _ => Iff.rfl) (.inl rfl)
              (fun directory fits => ?_) (.inl rfl) id⟩
            obtain ⟨-, done, hscripts, hdone, happlied⟩ := fits
            refine ⟨htable, done ++ [file], ?_, fun found hfound => ?_, ?_⟩
            · rw [hscripts, List.append_assoc]
              rfl
            · rcases List.mem_append.mp hfound with hold | hlast
              · exact hdone found hold
              · rw [List.mem_singleton.mp hlast, hversions]
                exact hthere
            · rw [List.map_append]
              exact happlied.trans (List.sublist_append_left _ _)
          · rw [if_neg hthere]
            refine ⟨executed, migrating.quiet h hinside (fun _ _ => Iff.rfl) (.inl rfl)
              (fun directory fits => ⟨fits, ?_⟩) (.inl rfl) id⟩
            rw [hversions]
            exact hthere
  | executing file rest applied =>
      simp only [MigratingDatabase.statement]
      cases hrun : run file.sql database.schema with
      | error failure =>
          exact ⟨executed, migrating.quiet h hinside (fun _ _ => Iff.rfl) (.inl rfl)
            (fun _ _ => ⟨by simp, by simp⟩) (.inr ⟨rfl, trivial⟩) (fun _ => trivial)⟩
      | ok changed =>
          exact ⟨executed, migrating.quiet h hinside (fun _ _ => Iff.rfl) (.inl rfl)
            (fun _ fits => ⟨fits.1, fits.2, hrun⟩) (.inl rfl) id⟩
  | inserting file rest applied changed =>
      obtain ⟨⟨htable, -⟩, hnew, -⟩ := hfits
      obtain ⟨versions, hversions⟩ := Option.isSome_iff_exists.mp htable
      rw [hversions] at hnew
      simp only [MigratingDatabase.statement, hversions]
      rw [if_neg (show file.version ∉ versions from hnew)]
      exact ⟨executed, migrating.quiet h hinside (fun _ _ => Iff.rfl) (.inl rfl)
        (fun _ fits => fits) (.inl rfl) id⟩
  | committing file rest applied changed => exact ⟨executed ++ [file], migrating.commit h⟩
  | unlocking result =>
      have hheld := hinside.mp trivial
      cases result with
      | ok applied =>
          exact ⟨executed, migrating.quiet h (iff_of_false not_false nofun) (others_of_held hheld)
            (.inl rfl) (fun _ fits => fits) (.inl rfl) id⟩
      | error failure =>
          exact ⟨executed, migrating.quiet h (iff_of_false not_false nofun) (others_of_held hheld)
            (.inl rfl) (fun _ fits => fits) (.inl rfl) id⟩

/-- A statement that fails, or a session that is gone. -/
theorem Migrating.interrupted (migrating : Migrating run first directories database executed)
    (h : database.stages[index]? = some stage) :
    Migrating run first directories (database.interrupted index stage) executed := by
  have hinside := migrating.exclusive index stage h
  have hfits (directory) (_ : Migrates run database.versions database.schema directory stage) :
      (MigrationFailure.interrupted : MigrationFailure ε) ≠ .undefinedTable ∧
        (MigrationFailure.interrupted : MigrationFailure ε) ≠ .uniqueViolation := by
    simp
  cases stage with
  | returned applied | raised failure | lost => exact migrating
  | locking files =>
      exact migrating.quiet h hinside (fun _ _ => Iff.rfl) (.inl rfl) hfits
        (.inr ⟨rfl, trivial⟩) fun _ => trivial
  | unlocking result =>
      exact migrating.quiet h (iff_of_false not_false nofun)
        (others_of_held (hinside.mp trivial)) (.inl rfl) hfits (.inr ⟨rfl, trivial⟩)
        fun _ => trivial
  | creating | looking | executing | inserting | committing =>
      exact migrating.quiet h hinside (fun _ _ => Iff.rfl) (.inl rfl) hfits
        (.inr ⟨rfl, trivial⟩) fun _ => trivial

theorem Migrating.crashed (migrating : Migrating run first directories database executed)
    (h : database.stages[index]? = some stage) :
    Migrating run first directories (database.crashed index stage) executed := by
  have hinside := migrating.exclusive index stage h
  cases stage with
  | returned applied | raised failure | lost => exact migrating
  | locking files =>
      exact migrating.quiet h hinside (fun _ _ => Iff.rfl) (.inl rfl) (fun _ _ => trivial)
        (.inr ⟨rfl, trivial⟩) fun _ => trivial
  | creating | looking | executing | inserting | committing | unlocking =>
      exact migrating.quiet h (iff_of_false not_false nofun)
        (others_of_held (hinside.mp trivial)) (.inl rfl) (fun _ _ => trivial)
        (.inr ⟨rfl, trivial⟩) fun _ => trivial

theorem Migrating.turn (migrating : Migrating run first directories database executed)
    (next : MigrationTurn) :
    ∃ more, Migrating run first directories (database.turn run next) more := by
  cases next with
  | step index =>
      simp only [MigratingDatabase.turn]
      cases h : database.stages[index]? with
      | none => exact ⟨executed, migrating⟩
      | some stage => exact migrating.statement h
  | interrupt index =>
      simp only [MigratingDatabase.turn]
      cases h : database.stages[index]? with
      | none => exact ⟨executed, migrating⟩
      | some stage => exact ⟨executed, migrating.interrupted h⟩
  | crash index =>
      simp only [MigratingDatabase.turn]
      cases h : database.stages[index]? with
      | none => exact ⟨executed, migrating⟩
      | some stage => exact ⟨executed, migrating.crashed h⟩

theorem migrating_launch (run : String → σ → Except ε σ) (first : MigratedSchema σ)
    (directories : List MigrationDirectory) :
    Migrating run first directories (launchMigrations first directories) [] := by
  have hlocking (index : Nat) (stage : MigrationStage σ ε)
      (h : (launchMigrations first directories).stages[index]? = some stage) :
      ∃ directory, directories[index]? = some directory ∧
        stage = .locking directory.scripts := by
    change (directories.map _)[index]? = some stage at h
    rw [List.getElem?_map] at h
    obtain ⟨directory, hdirectory, rfl⟩ := Option.map_eq_some_iff.mp h
    exact ⟨directory, hdirectory, rfl⟩
  constructor
  · exact (List.append_nil _).symm
  · exact first.distinct
  · rfl
  · exact fun file hfile => absurd hfile List.not_mem_nil
  · exact fun history hfirst _ => hfirst
  · intro index stage h
    obtain ⟨directory, -, rfl⟩ := hlocking index stage h
    exact iff_of_false not_false nofun
  · exact nofun
  · intro index stage h
    obtain ⟨directory, hdirectory, rfl⟩ := hlocking index stage h
    exact ⟨directory, hdirectory, rfl⟩
  · intro stage h
    obtain ⟨index, hindex⟩ := List.mem_iff_getElem?.mp h
    obtain ⟨directory, -, rfl⟩ := hlocking index stage hindex
    exact List.Subset.refl _
  · intro left right mine other _ hleft _
    obtain ⟨directory, -, rfl⟩ := hlocking left mine hleft
    exact List.disjoint_nil_left _
  · exact fun file hfile => absurd hfile List.not_mem_nil

theorem migrating_run (run : String → σ → Except ε σ) (first : MigratedSchema σ)
    (directories : List MigrationDirectory) (turns : List MigrationTurn) :
    ∃ executed, Migrating run first directories
      (turns.foldl (MigratingDatabase.turn run) (launchMigrations first directories))
      executed := by
  refine List.foldlRecOn turns (MigratingDatabase.turn run)
    (motive := fun database => ∃ executed, Migrating run first directories database executed)
    ⟨[], migrating_launch run first directories⟩ fun database h next _ => ?_
  obtain ⟨executed, migrating⟩ := h
  exact migrating.turn next

/-! ### Every process comes to its end -/

/-- How many statements a process has before it at most. -/
def MigrationStage.left : MigrationStage σ ε → Nat
  | .locking files => 4 * files.length + 4
  | .creating files => 4 * files.length + 3
  | .looking files _ => 4 * files.length + 2
  | .executing _ rest _ => 4 * rest.length + 5
  | .inserting _ rest _ _ => 4 * rest.length + 4
  | .committing _ rest _ _ => 4 * rest.length + 3
  | .unlocking _ => 1
  | .returned _ | .raised _ | .lost => 0

theorem left_ofResult (result : Except (MigrationFailure ε) (List String)) :
    (MigrationStage.ofResult result : MigrationStage σ ε).left = 0 := by
  cases result <;> rfl

/-- A process that holds the lock, or can take it, goes on. -/
theorem left_statement (run : String → σ → Except ε σ) (database : MigratingDatabase σ ε)
    (index : Nat) (runs : stage.Inside ∨ database.holder = none ∧ ¬stage.Ended) :
    ∃ next, (database.statement run index stage).stages = database.stages.set index next ∧
      next.left < stage.left := by
  cases stage with
  | returned applied | raised failure | lost =>
      rcases runs with hinside | ⟨-, hgoes⟩
      · exact absurd hinside not_false
      · exact absurd trivial hgoes
  | locking files =>
      rcases runs with hinside | ⟨hfree, -⟩
      · exact absurd hinside not_false
      · simp only [MigratingDatabase.statement, hfree]
        exact ⟨_, rfl, by simp [MigrationStage.left]⟩
  | creating files => exact ⟨_, rfl, by simp [MigrationStage.left]⟩
  | looking files applied =>
      cases files with
      | nil => exact ⟨_, rfl, by simp [MigrationStage.left]⟩
      | cons file rest =>
          simp only [MigratingDatabase.statement]
          split
          · exact ⟨_, rfl, by simp [MigrationStage.left]⟩
          · split
            · exact ⟨_, rfl, by simp [MigrationStage.left]⟩
            · refine ⟨_, rfl, ?_⟩
              simp only [MigrationStage.left, List.length_cons]
              omega
  | executing file rest applied =>
      simp only [MigratingDatabase.statement]
      split <;> exact ⟨_, rfl, by simp [MigrationStage.left]⟩
  | inserting file rest applied changed =>
      simp only [MigratingDatabase.statement]
      split
      · exact ⟨_, rfl, by simp [MigrationStage.left]⟩
      · split <;> exact ⟨_, rfl, by simp [MigrationStage.left]⟩
  | committing file rest applied changed =>
      exact ⟨_, rfl, by simp [MigrationStage.left]⟩
  | unlocking result =>
      refine ⟨_, rfl, ?_⟩
      rw [left_ofResult]
      exact Nat.one_pos

theorem sum_set_lt (f : MigrationStage σ ε → Nat) {stages : List (MigrationStage σ ε)}
    (h : stages[index]? = some stage) {next : MigrationStage σ ε} (less : f next < f stage) :
    ((stages.set index next).map f).sum < (stages.map f).sum := by
  induction stages generalizing index with
  | nil => contradiction
  | cons first others ih =>
      cases index with
      | zero =>
          cases h
          simp only [List.set_cons_zero, List.map_cons, List.sum_cons]
          omega
      | succ index =>
          have hrest := @ih index h
          simp only [List.set_cons_succ, List.map_cons, List.sum_cons]
          omega

/-- While any process is under way, some process can go on. -/
theorem Migrating.goes_on (migrating : Migrating run first directories database executed)
    (underway : ∃ stage ∈ database.stages, ¬stage.Ended) :
    ∃ (index : Nat) (stage : MigrationStage σ ε), database.stages[index]? = some stage ∧
      (stage.Inside ∨ database.holder = none ∧ ¬stage.Ended) := by
  cases hholder : database.holder with
  | some index =>
      have hfound := List.getElem?_eq_getElem (migrating.held index hholder)
      exact ⟨index, _, hfound, .inl ((migrating.exclusive index _ hfound).mpr hholder)⟩
  | none =>
      obtain ⟨stage, hstage, hgoes⟩ := underway
      obtain ⟨index, hindex⟩ := List.mem_iff_getElem?.mp hstage
      exact ⟨index, stage, hindex, .inr ⟨rfl, hgoes⟩⟩

theorem Migrating.finishes (migrating : Migrating run first directories database executed) :
    ∃ rest : List Nat, ∀ stage ∈ ((rest.map MigrationTurn.step).foldl
      (MigratingDatabase.turn run) database).stages, stage.Ended := by
  induction hleft : (database.stages.map MigrationStage.left).sum using Nat.strong_induction_on
    generalizing database executed with
  | _ total ih =>
      by_cases hdone : ∃ stage ∈ database.stages, ¬stage.Ended
      · obtain ⟨index, stage, hstage, hruns⟩ := migrating.goes_on hdone
        obtain ⟨next, hset, hless⟩ := left_statement run database index hruns
        obtain ⟨more, hmore⟩ := migrating.statement hstage
        have hturn : database.turn run (.step index) = database.statement run index stage := by
          simp only [MigratingDatabase.turn, hstage]
        have hsmaller : ((database.statement run index stage).stages.map
            MigrationStage.left).sum < total := by
          rw [hset, ← hleft]
          exact sum_set_lt _ hstage hless
        obtain ⟨rest, hrest⟩ := ih _ hsmaller hmore rfl
        refine ⟨index :: rest, ?_⟩
        rw [List.map_cons, List.foldl_cons, hturn]
        exact hrest
      · refine ⟨[], fun stage hstage => ?_⟩
        by_contra hgoes
        exact hdone ⟨stage, hstage, hgoes⟩

/-! ### What the processes have done -/

/-- Every script that ran did so once, on what the ones before it left, and is recorded.  Who
returns has its whole directory recorded, and what it answers are the scripts it ran itself. -/
structure MigratedOnce (run : String → σ → Except ε σ) (first : MigratedSchema σ)
    (directories : List MigrationDirectory) (after : MigratingDatabase σ ε)
    (executed : List Migration) : Prop where
  recorded : after.recorded = first.versions.getD [] ++ executed.map Migration.version
  distinct : after.recorded.Nodup
  schema : runScripts run executed first.schema = .ok after.schema
  origin : ∀ file ∈ executed, ∃ directory ∈ directories, file ∈ directory.scripts
  ordered : ∀ history : List Migration,
    first.versions.getD [] <+: history.map Migration.version →
      (∀ directory ∈ directories, directory.scripts <+: history) →
        after.recorded <+: history.map Migration.version
  returned : ∀ (index : Nat) applied, after.stages[index]? = some (.returned applied) →
    ∃ directory, directories[index]? = some directory ∧
      (∀ file ∈ directory.scripts, file.version ∈ after.recorded) ∧
      applied.Sublist (directory.scripts.map Migration.version) ∧
      applied ⊆ executed.map Migration.version
  apart : ∀ (left right : Nat) mine other, left ≠ right →
    after.stages[left]? = some (.returned mine) → after.stages[right]? = some (.returned other) →
      mine.Disjoint other
  answered : (∀ stage ∈ after.stages, ∃ applied, stage = .returned applied) →
    ∀ file ∈ executed, ∃ applied, .returned applied ∈ after.stages ∧ file.version ∈ applied
  raised : ∀ failure, .raised failure ∈ after.stages →
    (∃ error, failure = .script error) ∨ failure = .interrupted

theorem Migrating.migratedOnce (migrating : Migrating run first directories database executed) :
    MigratedOnce run first directories database executed where
  recorded := migrating.recorded
  distinct := migrating.distinct
  schema := migrating.schema
  origin := migrating.origin
  ordered := migrating.ordered
  returned index applied h := by
    obtain ⟨directory, hdirectory, -, done, hscripts, hdone, happlied⟩ :=
      migrating.fits index _ h
    rw [List.append_nil] at hscripts
    subst hscripts
    exact ⟨directory, hdirectory, hdone, happlied,
      migrating.mine _ (List.mem_of_getElem? h)⟩
  apart left right mine other differ hleft hright :=
    migrating.disjoint left right _ _ differ hleft hright
  answered h file hfile := by
    obtain ⟨stage, hstage, htold⟩ := migrating.told file hfile
    obtain ⟨applied, rfl⟩ := h stage hstage
    exact ⟨applied, hstage, htold.resolve_right not_false⟩
  raised failure h := by
    obtain ⟨index, hindex⟩ := List.mem_iff_getElem?.mp h
    obtain ⟨directory, -, htable, hunique⟩ := migrating.fits index _ hindex
    cases failure with
    | script error => exact .inl ⟨error, rfl⟩
    | interrupted => exact .inr rfl
    | undefinedTable => contradiction
    | uniqueViolation => contradiction

end invariant
end DispatchCore.Infrastructure
