import DispatchCore.Packs.Catalog
import Mathlib.Data.List.Sort

/-! The revisions of an organization's pack, and the six transactions that write them.
A transaction is a program of SQL statements; it writes with its last one, which also
commits it. -/
namespace DispatchCore.Infrastructure

open DispatchCore.Library DispatchCore.Domain DispatchCore.Packs

inductive PackState
  | draft
  | active
  | archived
deriving DecidableEq, Repr

structure PackRow where
  organizationId : String
  version : Nat
  state : PackState
  definition : PackDefinition
deriving DecidableEq

/-- The rows by their place in the table: a version that was deleted comes back elsewhere. -/
abbrev PackRows := Dict Nat PackRow

structure PackRevision where
  version : Nat
  state : PackState
  definition : PackDefinition
deriving DecidableEq

def PackRow.revision (row : PackRow) : PackRevision := ⟨row.version, row.state, row.definition⟩

def PackRow.isDraft (row : PackRow) (organizationId : String) : Prop :=
  row.organizationId = organizationId ∧ row.state = .draft

def PackRow.isActive (row : PackRow) (organizationId : String) : Prop :=
  row.organizationId = organizationId ∧ row.state = .active

/-- `state IN ('active', 'archived')` -/
def PackRow.isPublished (row : PackRow) (organizationId : String) : Prop :=
  row.organizationId = organizationId ∧ (row.state = .active ∨ row.state = .archived)

instance (row : PackRow) (organizationId : String) : Decidable (row.isDraft organizationId) :=
  inferInstanceAs (Decidable (_ ∧ _))

instance (row : PackRow) (organizationId : String) : Decidable (row.isActive organizationId) :=
  inferInstanceAs (Decidable (_ ∧ _))

instance (row : PackRow) (organizationId : String) : Decidable (row.isPublished organizationId) :=
  inferInstanceAs (Decidable (_ ∧ _))

def validateDefinition (definition : PackDefinition) : Except Failure Unit :=
  if Text.strip definition.branding.name = "" then
    .error (.packValidation "нужно название бренда")
  else if definition.serviceCatalog.categories = [] then
    .error (.packValidation "нужна хотя бы одна услуга в каталоге")
  else if ¬(definition.fields.any fun field => field.fieldType = .address) ∧
      ¬(definition.fields.any fun field => field.key = "address") then
    .error (.packValidation "нужно хотя бы одно адресное поле")
  else
    .ok ()

inductive PackReply
  | definition (definition : PackDefinition)
  | updated
  | discarded (deleted : Bool)
  | version (version : Nat)
  | bootstrapped (inserted : Bool)
deriving DecidableEq

/-- A domain failure, or the database's own refusal of a row. -/
inductive PackFailure
  | failure (failure : Failure)
  | uniqueViolation
deriving DecidableEq

/-- `selectDraft` is a lookup of the draft that also locks it: the statement finds a
candidate, waits while another transaction holds it, and looks at it again.  An update or
a deletion of the draft begins the same way. -/
inductive PackTransaction
  | returned (reply : PackReply)
  | raised (failure : PackFailure)
  | select (look : PackRows → PackTransaction)
  | selectDraft (organizationId : String) (resume : Option (Nat × PackRow) → PackTransaction)
  | awaitDraft (organizationId : String) (candidate : Option Nat)
      (resume : Option (Nat × PackRow) → PackTransaction)
  | insert (row : PackRow) (inserted : PackReply) (conflict : PackTransaction)
  | commit (change : PackRows → PackRows) (reply : PackReply)

namespace PackRows

def find (rows : PackRows) (selects : PackRow → Prop) [DecidablePred selects] :
    Option (Nat × PackRow) :=
  rows.entries.find? fun entry => selects entry.2

/-- `UPDATE org_packs SET … WHERE …` -/
def update (rows : PackRows) (selects : PackRow → Prop) [DecidablePred selects]
    (change : PackRow → PackRow) : PackRows :=
  rows.mapValues fun _ row => if selects row then change row else row

/-- The primary key and the two partial unique indexes. -/
def Admits (rows : PackRows) (row : PackRow) : Prop :=
  ∀ entry ∈ rows.entries, entry.2.organizationId = row.organizationId →
    entry.2.version ≠ row.version ∧ ¬(entry.2.state = .draft ∧ row.state = .draft) ∧
      ¬(entry.2.state = .active ∧ row.state = .active)

instance (rows : PackRows) (row : PackRow) : Decidable (rows.Admits row) :=
  inferInstanceAs (Decidable (∀ entry ∈ rows.entries, _))

end PackRows

namespace PostgresPackStore

def activeRevision (rows : PackRows) (organizationId : String) : Option PackRevision :=
  (rows.find fun row => row.isActive organizationId).map fun entry => entry.2.revision

def revision (rows : PackRows) (organizationId : String) (version : Int) : Option PackRevision :=
  (rows.find fun row => row.isPublished organizationId ∧ (row.version : Int) = version).map
    fun entry => entry.2.revision

/-- `ORDER BY version DESC` -/
def revisions (rows : PackRows) (organizationId : String) : List PackRevision :=
  ((rows.values.filter fun row => row.organizationId = organizationId).map
    PackRow.revision).insertionSort fun left right => right.version ≤ left.version

def draft (rows : PackRows) (organizationId : String) : Option PackDefinition :=
  (rows.find fun row => row.isDraft organizationId).map fun entry => entry.2.definition

/-- `coalesce(max(version), 0) + 1` -/
def nextVersion (rows : PackRows) (organizationId : String) : Nat :=
  ((rows.values.filter fun row => row.organizationId = organizationId).map
    fun row => row.version).max?.getD 0 + 1

def notFound (organizationId : String) : PackTransaction :=
  .raised (.failure (.notFound s!"no draft pack for organization {Text.repr organizationId}"))

def ensureDraft (organizationId : String) (seed : PackDefinition) : PackTransaction :=
  .selectDraft organizationId fun existing =>
    match existing with
    | some (_, row) => .returned (.definition row.definition)
    | none =>
        .select fun rows =>
          .insert ⟨organizationId, nextVersion rows organizationId, .draft, seed⟩
            (.definition seed) (.raised .uniqueViolation)

def updateDraft (organizationId : String) (definition : PackDefinition) : PackTransaction :=
  .selectDraft organizationId fun existing =>
    match existing with
    | none => notFound organizationId
    | some (place, row) =>
        .commit (fun rows => rows.set place { row with definition := definition }) .updated

def discardDraft (organizationId : String) : PackTransaction :=
  .selectDraft organizationId fun existing =>
    match existing with
    | none => .returned (.discarded false)
    | some (place, _) => .commit (fun rows => rows.erase place) (.discarded true)

def restoreAsDraft (organizationId : String) (version : Int) : PackTransaction :=
  .select fun rows =>
    match revision rows organizationId version with
    | none =>
        .raised (.failure (.notFound (s!"pack version {version} was not found for " ++
          s!"organization {Text.repr organizationId}")))
    | some source =>
        .selectDraft organizationId fun existing =>
          match existing with
          | none =>
              .select fun rows =>
                .insert ⟨organizationId, nextVersion rows organizationId, .draft,
                  source.definition⟩ (.version (nextVersion rows organizationId))
                  (.raised .uniqueViolation)
          | some (_, row) =>
              .commit (fun rows =>
                rows.update (fun other =>
                  other.organizationId = organizationId ∧ other.version = row.version)
                  fun other => { other with definition := source.definition })
                (.version row.version)

/-- The two updates of a publication. -/
def activate (organizationId : String) (version : Nat) (rows : PackRows) : PackRows :=
  (rows.update (fun row => row.isActive organizationId)
      fun row => { row with state := .archived }).update
    (fun row => row.organizationId = organizationId ∧ row.version = version)
    fun row => { row with state := .active }

def publishDraft (organizationId : String) : PackTransaction :=
  .selectDraft organizationId fun existing =>
    match existing with
    | none => notFound organizationId
    | some (_, row) =>
        match validateDefinition row.definition with
        | .error failure => .raised (.failure failure)
        | .ok () => .commit (activate organizationId row.version) (.version row.version)

/-- `INSERT … WHERE NOT EXISTS … ON CONFLICT DO NOTHING` -/
def bootstrapActive (organizationId : String) (seed : PackDefinition) : PackTransaction :=
  .select fun rows =>
    if rows.values.any fun row => row.organizationId = organizationId then
      .returned (.bootstrapped false)
    else
      .insert ⟨organizationId, 1, .active, seed⟩ (.bootstrapped true)
        (.returned (.bootstrapped false))

end PostgresPackStore
end DispatchCore.Infrastructure
