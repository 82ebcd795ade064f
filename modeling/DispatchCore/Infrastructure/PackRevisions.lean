import DispatchCore.Infrastructure.PackStore

/-! What the pack transactions write: whatever they commit keeps one draft, one active
revision and everything published; the order of the versions hangs on the numbers of new
drafts. -/
namespace DispatchCore.Infrastructure

open DispatchCore.Library DispatchCore.Domain DispatchCore.Packs

/-- The rows of all organizations. -/
structure PackRows.Sound (rows : PackRows) : Prop where
  numbered : ∀ place row, rows.get? place = some row → 1 ≤ row.version
  keyed : ∀ left right first second, rows.get? left = some first → rows.get? right = some second →
    first.organizationId = second.organizationId → first.version = second.version → left = right
  oneDraft : ∀ organizationId left right first second, rows.get? left = some first →
    rows.get? right = some second → first.isDraft organizationId →
    second.isDraft organizationId → left = right
  oneActive : ∀ organizationId left right first second, rows.get? left = some first →
    rows.get? right = some second → first.isActive organizationId →
    second.isActive organizationId → left = right
  /-- Nothing is published without an active revision. -/
  led : ∀ organizationId place row, rows.get? place = some row →
    row.isPublished organizationId →
    ∃ place row, rows.get? place = some row ∧ row.isActive organizationId

/-- What a commit does at one place: a new row, or something to the draft. -/
inductive PackChange (rows : PackRows) (place : Nat) : PackRows → Prop
  | insert {row : PackRow} (fresh : rows.get? place = none) (admitted : rows.Admits row)
      (shape : (row.state = .draft ∧ 1 ≤ row.version) ∨ (row.state = .active ∧ row.version = 1)) :
      PackChange rows place (rows.set place row)
  | rewrite {after : PackRows} {row : PackRow} (definition : PackDefinition)
      (found : rows.get? place = some row) (drafted : row.state = .draft)
      (written : ∀ other, after.get? other =
        if other = place then some { row with definition := definition } else rows.get? other) :
      PackChange rows place after
  | remove {row : PackRow} (found : rows.get? place = some row) (drafted : row.state = .draft) :
      PackChange rows place (rows.erase place)
  | publish {after : PackRows} {row : PackRow} (found : rows.get? place = some row)
      (drafted : row.state = .draft)
      (written : ∀ other, after.get? other =
        if other = place then some { row with state := .active }
        else (rows.get? other).map fun old =>
          if old.isActive row.organizationId then { old with state := .archived } else old) :
      PackChange rows place after

/-- A draft is ahead of every other version, the active version of every published one. -/
structure PackRows.Ordered (rows : PackRows) (organizationId : String) : Prop where
  draftGreatest : ∀ left right first second, rows.get? left = some first →
    rows.get? right = some second → first.isDraft organizationId →
    second.organizationId = organizationId → left ≠ right → second.version < first.version
  activeGreatest : ∀ left right first second, rows.get? left = some first →
    rows.get? right = some second → first.isActive organizationId →
    second.isPublished organizationId → second.version ≤ first.version

/-- A draft that comes in is numbered by the rows it comes to, or above. -/
def PackRows.NumbersOn (rows after : PackRows) (organizationId : String) : Prop :=
  ∀ place row, rows.get? place = none → after.get? place = some row →
    row.isDraft organizationId →
    PostgresPackStore.nextVersion rows organizationId ≤ row.version

namespace PackRows

variable {rows after : PackRows} {organizationId : String} {place : Nat} {row : PackRow}

theorem find_some {selects : PackRow → Prop} [DecidablePred selects] {entry : Nat × PackRow}
    (found : rows.find selects = some entry) :
    rows.get? entry.1 = some entry.2 ∧ selects entry.2 := by
  refine ⟨(Dict.get?_eq_some ..).mpr (List.mem_of_find?_eq_some found), ?_⟩
  have hselected := List.find?_some found
  exact of_decide_eq_true hselected

theorem find_none {selects : PackRow → Prop} [DecidablePred selects]
    (missing : rows.find selects = none) (stored : rows.get? place = some row) : ¬selects row := by
  have hmem := (Dict.get?_eq_some ..).mp stored
  have hnone := List.find?_eq_none.mp missing _ hmem
  simpa using hnone

theorem get?_update {selects : PackRow → Prop} [DecidablePred selects]
    {change : PackRow → PackRow} (place : Nat) :
    (rows.update selects change).get? place =
      (rows.get? place).map fun row => if selects row then change row else row :=
  Dict.get?_mapValues ..

theorem Admits.get? {other : PackRow} (admitted : rows.Admits row)
    (stored : rows.get? place = some other) (same : other.organizationId = row.organizationId) :
    other.version ≠ row.version ∧ ¬(other.state = .draft ∧ row.state = .draft) ∧
      ¬(other.state = .active ∧ row.state = .active) :=
  admitted _ ((Dict.get?_eq_some ..).mp stored) same

theorem nextVersion_le_iff {version : Nat} (positive : 1 ≤ version) :
    PostgresPackStore.nextVersion rows organizationId ≤ version ↔
      ∀ place row, rows.get? place = some row → row.organizationId = organizationId →
        row.version < version := by
  unfold PostgresPackStore.nextVersion
  generalize hversions : (rows.values.filter fun row => row.organizationId = organizationId).map
    (fun row => row.version) = versions
  have hmem : ∀ number, number ∈ versions ↔ ∃ place row, rows.get? place = some row ∧
      row.organizationId = organizationId ∧ row.version = number := by
    intro number
    simp only [← hversions, List.mem_map, List.mem_filter, Dict.mem_values, decide_eq_true_eq]
    constructor
    · rintro ⟨row, ⟨⟨place, hrow⟩, horganization⟩, hnumber⟩
      exact ⟨place, row, hrow, horganization, hnumber⟩
    · rintro ⟨place, row, hrow, horganization, hnumber⟩
      exact ⟨row, ⟨⟨place, hrow⟩, horganization⟩, hnumber⟩
  cases hmax : versions.max? with
  | none =>
      have hnil : versions = [] := List.max?_eq_none_iff.mp hmax
      simp only [Option.getD_none, Nat.zero_add, positive, true_iff]
      intro place row hrow horganization
      have hmember := (hmem row.version).mpr ⟨place, row, hrow, horganization, rfl⟩
      rw [hnil] at hmember
      contradiction
  | some greatest =>
      obtain ⟨hin, hbound⟩ := List.max?_eq_some_iff.mp hmax
      simp only [Option.getD_some]
      constructor
      · intro hle place row hrow horganization
        have hrowLe := hbound _ ((hmem row.version).mpr ⟨place, row, hrow, horganization, rfl⟩)
        omega
      · intro hall
        obtain ⟨place, row, hrow, horganization, hversion⟩ := (hmem greatest).mp hin
        have hlt := hall place row hrow horganization
        omega

end PackRows

/-- What a row was before a change that kept it. -/
def PackRow.Evolves (old row : PackRow) : Prop :=
  row.organizationId = old.organizationId ∧ row.version = old.version ∧
    ((row.state = old.state ∧ (row.definition = old.definition ∨ old.state = .draft)) ∨
      (old.state = .draft ∧ row.state = .active) ∨
      (row.definition = old.definition ∧ old.state = .active ∧ row.state = .archived))

/-- Nothing becomes a draft. -/
theorem PackRow.Evolves.draft {organizationId : String} {old row : PackRow}
    (same : old.Evolves row) (draft : row.isDraft organizationId) : old.isDraft organizationId := by
  obtain ⟨horganization, _, ⟨hstate, _⟩ | ⟨_, hstate⟩ | ⟨_, _, hstate⟩⟩ := same
  · exact ⟨horganization ▸ draft.1, hstate ▸ draft.2⟩
  · rw [draft.2] at hstate
    contradiction
  · rw [draft.2] at hstate
    contradiction

theorem PackRow.Evolves.active {old row : PackRow} (same : old.Evolves row)
    (active : row.state = .active) : old.state = .draft ∨ old.state = .active := by
  obtain ⟨_, _, ⟨hstate, _⟩ | ⟨hstate, _⟩ | ⟨_, hstate, _⟩⟩ := same
  · exact .inr (hstate.symm.trans active)
  · exact .inl hstate
  · exact .inr hstate

theorem PackRow.Evolves.archived {old row : PackRow} (same : old.Evolves row)
    (archived : row.state = .archived) : old.state = .active ∨ old.state = .archived := by
  obtain ⟨_, _, ⟨hstate, _⟩ | ⟨_, hstate⟩ | ⟨_, hstate, _⟩⟩ := same
  · exact .inr (hstate.symm.trans archived)
  · rw [archived] at hstate
    contradiction
  · exact .inl hstate

namespace PackChange
variable {rows after : PackRows} {organizationId : String} {touched place : Nat} {row : PackRow}

/-- A row after a change is a new one, or comes from the row that stood there. -/
theorem origin (change : PackChange rows touched after) (found : after.get? place = some row) :
    (∃ old, rows.get? place = some old ∧ old.Evolves row) ∨
      (rows.get? place = none ∧ rows.Admits row ∧ after = rows.set place row ∧
        ((row.state = .draft ∧ 1 ≤ row.version) ∨ (row.state = .active ∧ row.version = 1))) := by
  cases change with
  | insert fresh admitted shape =>
      rw [Dict.get?_set] at found
      split at found
      · rename_i hplace
        cases found
        rw [hplace]
        exact .inr ⟨fresh, admitted, rfl, shape⟩
      · exact .inl ⟨row, found, rfl, rfl, .inl ⟨rfl, .inl rfl⟩⟩
  | rewrite definition stored drafted written =>
      rw [written] at found
      split at found
      · rename_i hplace
        cases found
        rw [hplace]
        exact .inl ⟨_, stored, rfl, rfl, .inl ⟨rfl, .inr drafted⟩⟩
      · exact .inl ⟨row, found, rfl, rfl, .inl ⟨rfl, .inl rfl⟩⟩
  | remove stored drafted =>
      rw [Dict.get?_erase] at found
      split at found
      · cases found
      · exact .inl ⟨row, found, rfl, rfl, .inl ⟨rfl, .inl rfl⟩⟩
  | publish stored drafted written =>
      rw [written] at found
      split at found
      · rename_i hplace
        cases found
        rw [hplace]
        exact .inl ⟨_, stored, rfl, rfl, .inr (.inl ⟨drafted, rfl⟩)⟩
      · obtain ⟨old, hold, hrow⟩ := Option.map_eq_some_iff.mp found
        refine .inl ⟨old, hold, ?_⟩
        split at hrow
        · rename_i hactive
          subst hrow
          exact ⟨rfl, rfl, .inr (.inr ⟨rfl, hactive.2, rfl⟩)⟩
        · subst hrow
          exact ⟨rfl, rfl, .inl ⟨rfl, .inl rfl⟩⟩

private theorem numbered (change : PackChange rows touched after) (sound : rows.Sound)
    (found : after.get? place = some row) : 1 ≤ row.version := by
  rcases change.origin found with ⟨old, hold, hsame⟩ | ⟨_, _, _, hshape⟩
  · have hold := sound.numbered place old hold
    have hversion := hsame.2.1
    omega
  · rcases hshape with ⟨_, hversion⟩ | ⟨_, hversion⟩ <;> omega

/-- Two rows after a change that may not both be there: neither is new, or they are one. -/
private theorem both_old {left right : Nat} {first second : PackRow}
    (change : PackChange rows touched after) (foundLeft : after.get? left = some first)
    (foundRight : after.get? right = some second)
    (same : first.organizationId = second.organizationId)
    (clash : first.version = second.version ∨ (first.state = .draft ∧ second.state = .draft) ∨
      (first.state = .active ∧ second.state = .active)) :
    left = right ∨ ((∃ old, rows.get? left = some old ∧ old.Evolves first) ∧
      ∃ old, rows.get? right = some old ∧ old.Evolves second) := by
  have hnew : ∀ {left right : Nat} {first second : PackRow}, rows.Admits first →
      after = rows.set left first → after.get? right = some second →
      first.organizationId = second.organizationId →
      (first.version = second.version ∨ (first.state = .draft ∧ second.state = .draft) ∨
        (first.state = .active ∧ second.state = .active)) → left = right := by
    intro left right first second hadmitted hafter hright hsame hclash
    rw [hafter, Dict.get?_set] at hright
    split at hright
    · rename_i hplace
      exact hplace.symm
    · obtain ⟨hversion, hdraft, hactive⟩ := hadmitted.get? hright hsame.symm
      rcases hclash with hclash | hclash | hclash
      · exact absurd hclash.symm hversion
      · exact absurd hclash.symm hdraft
      · exact absurd hclash.symm hactive
  rcases change.origin foundLeft with hleft | ⟨_, hadmitted, hafter, _⟩
  · rcases change.origin foundRight with hright | ⟨_, hadmitted, hafter, _⟩
    · exact .inr ⟨hleft, hright⟩
    · refine .inl (hnew hadmitted hafter foundLeft same.symm ?_).symm
      tauto
  · exact .inl (hnew hadmitted hafter foundRight same clash)

private theorem keyed {left right : Nat} {first second : PackRow}
    (change : PackChange rows touched after) (sound : rows.Sound) (foundLeft : after.get? left = some first)
    (foundRight : after.get? right = some second)
    (same : first.organizationId = second.organizationId)
    (version : first.version = second.version) : left = right := by
  rcases change.both_old foundLeft foundRight same (.inl version) with
    hplace | ⟨⟨before, hbefore, hfirst⟩, ⟨other, hother, hsecond⟩⟩
  · exact hplace
  · refine sound.keyed left right before other hbefore hother ?_ ?_
    · rw [← hfirst.1, ← hsecond.1, same]
    · rw [← hfirst.2.1, ← hsecond.2.1, version]

private theorem oneDraft {left right : Nat} {first second : PackRow}
    (change : PackChange rows touched after) (sound : rows.Sound) (foundLeft : after.get? left = some first)
    (foundRight : after.get? right = some second) (firstDraft : first.isDraft organizationId)
    (secondDraft : second.isDraft organizationId) : left = right := by
  rcases change.both_old foundLeft foundRight (firstDraft.1.trans secondDraft.1.symm)
      (.inr (.inl ⟨firstDraft.2, secondDraft.2⟩)) with
    hplace | ⟨⟨before, hbefore, hfirst⟩, ⟨other, hother, hsecond⟩⟩
  · exact hplace
  · exact sound.oneDraft organizationId left right before other hbefore hother
      (hfirst.draft firstDraft) (hsecond.draft secondDraft)

/-- A published row stays; if it was the active one, another may take its place. -/
theorem forward (change : PackChange rows touched after) (found : rows.get? place = some row)
    (published : row.isPublished organizationId) :
    after.get? place = some row ∨
      (row.state = .active ∧ after.get? place = some { row with state := .archived } ∧
        ∃ place row, after.get? place = some row ∧ row.isActive organizationId) := by
  have hdraft : row.state ≠ .draft := by
    rcases published.2 with hstate | hstate <;> rw [hstate] <;> decide
  cases change with
  | @insert inserted missing admitted shape =>
      have hplace : place ≠ touched := by
        rintro rfl
        rw [missing] at found
        contradiction
      exact .inl ((Dict.get?_set_of_ne rows inserted hplace).trans found)
  | rewrite definition stored drafted written =>
      rw [written]
      split
      · rename_i hplace
        rw [hplace, stored] at found
        cases found
        exact absurd drafted hdraft
      · exact .inl found
  | remove stored drafted =>
      rw [Dict.get?_erase]
      split
      · rename_i hplace
        rw [hplace, stored] at found
        cases found
        exact absurd drafted hdraft
      · exact .inl found
  | @publish _ drafted stored hdrafted written =>
      have hplace : place ≠ touched := by
        rintro rfl
        rw [stored] at found
        cases found
        exact absurd hdrafted hdraft
      have hafter := written place
      rw [if_neg hplace, found, Option.map_some] at hafter
      rw [hafter]
      split
      · rename_i hactive
        refine .inr ⟨hactive.2, rfl, touched, { drafted with state := .active }, ?_, ?_⟩
        · rw [written, if_pos rfl]
        · exact ⟨hactive.1.symm.trans published.1, rfl⟩
      · exact .inl rfl

/-- A draft that becomes active is the only active revision there is. -/
private theorem activated {old : PackRow} (change : PackChange rows touched after)
    (found : rows.get? place = some old) (draft : old.state = .draft)
    (there : after.get? place = some row) (active : row.state = .active) {other : Nat}
    {second : PackRow} (foundSecond : after.get? other = some second)
    (secondActive : second.isActive old.organizationId) : other = place := by
  cases change with
  | @insert inserted missing admitted shape =>
      have hplace : place ≠ touched := by
        rintro rfl
        rw [missing] at found
        contradiction
      rw [Dict.get?_set_of_ne rows inserted hplace, found] at there
      cases there
      rw [draft] at active
      contradiction
  | rewrite definition stored drafted written =>
      rw [written] at there
      split at there
      · cases there
        rw [drafted] at active
        contradiction
      · rw [found] at there
        cases there
        rw [draft] at active
        contradiction
  | remove stored drafted =>
      rw [Dict.get?_erase] at there
      split at there
      · cases there
      · rw [found] at there
        cases there
        rw [draft] at active
        contradiction
  | @publish _ drafted stored hdrafted written =>
      have hgone : place = touched := by
        by_contra hplace
        rw [written, if_neg hplace, found, Option.map_some] at there
        have hpassive : ¬old.isActive drafted.organizationId := fun hactive => by
          rw [hactive.2] at draft
          contradiction
        rw [if_neg hpassive] at there
        cases there
        rw [draft] at active
        contradiction
      subst hgone
      rw [stored] at found
      cases found
      by_contra hplace
      rw [written, if_neg hplace] at foundSecond
      obtain ⟨before, _, hsecond⟩ := Option.map_eq_some_iff.mp foundSecond
      split at hsecond
      · subst hsecond
        exact absurd secondActive.2 (by simp)
      · rename_i hpassive
        subst hsecond
        exact hpassive secondActive

private theorem oneActive {left right : Nat} {first second : PackRow}
    (change : PackChange rows touched after) (sound : rows.Sound) (foundLeft : after.get? left = some first)
    (foundRight : after.get? right = some second) (firstActive : first.isActive organizationId)
    (secondActive : second.isActive organizationId) : left = right := by
  rcases change.both_old foundLeft foundRight (firstActive.1.trans secondActive.1.symm)
      (.inr (.inr ⟨firstActive.2, secondActive.2⟩)) with
    hplace | ⟨⟨before, hbefore, hfirst⟩, ⟨other, hother, hsecond⟩⟩
  · exact hplace
  · have hbeforeOrganization := hfirst.1.symm.trans firstActive.1
    have hotherOrganization := hsecond.1.symm.trans secondActive.1
    rcases hfirst.active firstActive.2 with hdraft | hactive
    · refine (change.activated hbefore hdraft foundLeft firstActive.2 foundRight ?_).symm
      rwa [hbeforeOrganization]
    · rcases hsecond.active secondActive.2 with hotherDraft | hotherActive
      · refine change.activated hother hotherDraft foundRight secondActive.2 foundLeft ?_
        rwa [hotherOrganization]
      · exact sound.oneActive organizationId left right before other hbefore hother
          ⟨hbeforeOrganization, hactive⟩ ⟨hotherOrganization, hotherActive⟩

private theorem led (change : PackChange rows touched after) (sound : rows.Sound)
    (found : after.get? place = some row) (published : row.isPublished organizationId) :
    ∃ place row, after.get? place = some row ∧ row.isActive organizationId := by
  rcases published.2 with hactive | harchived
  · exact ⟨place, row, found, published.1, hactive⟩
  · rcases change.origin found with ⟨old, hold, hsame⟩ | ⟨_, _, _, hshape⟩
    · have hbefore : old.isPublished organizationId :=
        ⟨hsame.1.symm.trans published.1, hsame.archived harchived⟩
      obtain ⟨leader, leading, hleader, hleads⟩ := sound.led organizationId place old hold hbefore
      rcases change.forward hleader ⟨hleads.1, .inl hleads.2⟩ with hstays | ⟨_, _, hnext⟩
      · exact ⟨leader, leading, hstays, hleads⟩
      · exact hnext
    · rw [harchived] at hshape
      rcases hshape with ⟨hstate, _⟩ | ⟨hstate, _⟩ <;> contradiction

theorem sound (change : PackChange rows touched after) (sound : rows.Sound) : after.Sound where
  numbered _ _ := change.numbered sound
  keyed _ _ _ _ := change.keyed sound
  oneDraft _ _ _ _ _ := change.oneDraft sound
  oneActive _ _ _ _ _ := change.oneActive sound
  led _ _ _ := change.led sound

theorem numbersOn_of_ordered (change : PackChange rows touched after)
    (ordered : after.Ordered organizationId) :
    rows.NumbersOn after organizationId := by
  intro place row hnew hrow hdraft
  rcases change.origin hrow with ⟨old, hold, _⟩ | ⟨_, _, hafter, hshape⟩
  · rw [hnew] at hold
    contradiction
  · have hpositive : 1 ≤ row.version := by
      rcases hshape with ⟨_, hversion⟩ | ⟨_, hversion⟩ <;> omega
    rw [PackRows.nextVersion_le_iff hpositive]
    intro other second hsecond horganization
    have hplace : other ≠ place := by
      rintro rfl
      rw [hnew] at hsecond
      contradiction
    have hstays : after.get? other = some second := by
      rw [hafter, Dict.get?_set_of_ne rows row hplace]
      exact hsecond
    exact ordered.draftGreatest place other row second hrow hstays hdraft horganization hplace.symm

private theorem draft_greatest (change : PackChange rows touched after) (sound : rows.Sound)
    (ordered : rows.Ordered organizationId) (numbered : rows.NumbersOn after organizationId)
    {left right : Nat} {first second : PackRow} (foundLeft : after.get? left = some first)
    (foundRight : after.get? right = some second) (draft : first.isDraft organizationId)
    (same : second.organizationId = organizationId) (apart : left ≠ right) :
    second.version < first.version := by
  have hafter := change.sound sound
  rcases change.origin foundRight with ⟨other, hother, hsecond⟩ | ⟨_, _, _, hshape⟩
  · rcases change.origin foundLeft with ⟨before, hbefore, hfirst⟩ | ⟨hnew, _, _, _⟩
    · have hless := ordered.draftGreatest left right before other hbefore hother
        (hfirst.draft draft) (hsecond.1.symm.trans same) apart
      rwa [hfirst.2.1, hsecond.2.1]
    · have hpositive := hafter.numbered left first foundLeft
      have hnext := numbered left first hnew foundLeft draft
      rw [hsecond.2.1]
      exact (PackRows.nextVersion_le_iff hpositive).mp hnext right other hother
        (hsecond.1.symm.trans same)
  · rcases hshape with ⟨hstate, _⟩ | ⟨_, hversion⟩
    · exact absurd (hafter.oneDraft organizationId left right first second foundLeft foundRight
        draft ⟨same, hstate⟩) apart
    · have hpositive := hafter.numbered left first foundLeft
      have hne : first.version ≠ second.version := fun hversions =>
        apart (hafter.keyed left right first second foundLeft foundRight
          (draft.1.trans same.symm) hversions)
      omega

private theorem active_greatest (change : PackChange rows touched after) (sound : rows.Sound)
    (ordered : rows.Ordered organizationId) {left right : Nat} {first second : PackRow}
    (foundLeft : after.get? left = some first) (foundRight : after.get? right = some second)
    (active : first.isActive organizationId) (published : second.isPublished organizationId) :
    second.version ≤ first.version := by
  have hafter := change.sound sound
  by_cases hactive : second.isActive organizationId
  · have hplace := hafter.oneActive organizationId left right first second foundLeft foundRight
      active hactive
    rw [hplace, foundRight] at foundLeft
    cases foundLeft
    exact Nat.le_refl _
  · have harchived : second.state = .archived :=
      published.2.resolve_left fun hstate => hactive ⟨published.1, hstate⟩
    have hapart : left ≠ right := by
      rintro rfl
      rw [foundRight] at foundLeft
      cases foundLeft
      exact hactive active
    rcases change.origin foundRight with ⟨other, hother, hsecond⟩ | ⟨_, _, _, hshape⟩
    · have hotherPublished : other.isPublished organizationId :=
        ⟨hsecond.1.symm.trans published.1, hsecond.archived harchived⟩
      rcases change.origin foundLeft with ⟨before, hbefore, hfirst⟩ | ⟨_, hadmitted, _, _⟩
      · rw [hfirst.2.1, hsecond.2.1]
        have horganization := hfirst.1.symm.trans active.1
        rcases hfirst.active active.2 with hdraft | hbeforeActive
        · exact (ordered.draftGreatest left right before other hbefore hother
            ⟨horganization, hdraft⟩ hotherPublished.1 hapart).le
        · exact ordered.activeGreatest left right before other hbefore hother
            ⟨horganization, hbeforeActive⟩ hotherPublished
      · obtain ⟨leader, leading, hleader, hleads⟩ :=
          sound.led organizationId right other hother hotherPublished
        have hclash := (hadmitted.get? hleader (hleads.1.trans active.1.symm)).2.2
        exact absurd ⟨hleads.2, active.2⟩ hclash
    · rw [harchived] at hshape
      rcases hshape with ⟨hstate, _⟩ | ⟨hstate, _⟩ <;> contradiction

/-- A draft somewhere else stays as it is. -/
theorem elsewhere (change : PackChange rows touched after) (apart : place ≠ touched)
    (found : rows.get? place = some row) (draft : row.state = .draft) :
    after.get? place = some row := by
  cases change with
  | insert fresh admitted shape => exact (Dict.get?_set_of_ne rows _ apart).trans found
  | rewrite definition stored drafted written => exact (written place).trans ((if_neg apart).trans found)
  | remove stored drafted => exact (Dict.get?_erase rows touched place).trans ((if_neg apart).trans found)
  | publish stored drafted written =>
      rw [written, if_neg apart, found, Option.map_some, if_neg]
      intro hactive
      rw [hactive.2] at draft
      contradiction

/-- No other place comes to hold a row. -/
theorem placed (change : PackChange rows touched after) (found : after.get? place = some row) :
    place = touched ∨ ∃ old, rows.get? place = some old := by
  by_cases hplace : place = touched
  · exact .inl hplace
  · rcases change.origin found with ⟨old, hold, _⟩ | ⟨_, _, hafter, _⟩
    · exact .inr ⟨old, hold⟩
    · cases change with
      | insert fresh admitted shape =>
          rw [Dict.get?_set_of_ne rows _ hplace] at found
          exact .inr ⟨row, found⟩
      | rewrite definition stored drafted written =>
          rw [written, if_neg hplace] at found
          exact .inr ⟨row, found⟩
      | remove stored drafted =>
          rw [Dict.get?_erase, if_neg hplace] at found
          exact .inr ⟨row, found⟩
      | publish stored drafted written =>
          rw [written, if_neg hplace] at found
          obtain ⟨old, hold, _⟩ := Option.map_eq_some_iff.mp found
          exact .inr ⟨old, hold⟩

/-- The order of the versions hangs on the numbers of the drafts that come in. -/
theorem ordered_iff (change : PackChange rows touched after) (sound : rows.Sound)
    (ordered : rows.Ordered organizationId) :
    after.Ordered organizationId ↔ rows.NumbersOn after organizationId :=
  ⟨change.numbersOn_of_ordered, fun numbered =>
    { draftGreatest := fun _ _ _ _ => change.draft_greatest sound ordered numbered
      activeGreatest := fun _ _ _ _ => change.active_greatest sound ordered }⟩

end PackChange

end DispatchCore.Infrastructure
