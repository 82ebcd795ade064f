import DispatchCore.Packs.ConfigEdits

/-! Edits made twice.  An edit that names what it wants is the same the second time; one that
says how to change what it finds may go further. -/
namespace DispatchCore.Packs

open DispatchCore.Library DispatchCore.Domain

/-! ### Moving an item -/

section moves

variable {α β : Type} {keyOf : α → String} {items : List α} {key : String} {index : Nat}
  {item other : α}

/-- The item that a key finds, and where. -/
structure FoundAt (keyOf : α → String) (items : List α) (key : String) (index : Nat) (item : α) :
    Prop where
  there : items[index]? = some item
  keyed : keyOf item = key
  first : ∀ place earlier, place < index → items[place]? = some earlier → keyOf earlier ≠ key

theorem findIdx?_eq_some_iff :
    (items.findIdx? fun item => keyOf item = key) = some index ↔
      ∃ item, FoundAt keyOf items key index item := by
  rw [List.findIdx?_eq_some_iff_getElem]
  constructor
  · rintro ⟨hbound, hkeyed, hfirst⟩
    refine ⟨items[index], List.getElem?_eq_getElem hbound, of_decide_eq_true hkeyed, ?_⟩
    intro place earlier hplace hearlier
    obtain ⟨hlt, rfl⟩ := List.getElem?_eq_some_iff.mp hearlier
    have hother := hfirst place hplace
    simpa using hother
  · rintro ⟨item, hthere, hkeyed, hfirst⟩
    obtain ⟨hbound, rfl⟩ := List.getElem?_eq_some_iff.mp hthere
    refine ⟨hbound, decide_eq_true hkeyed, fun place hplace => ?_⟩
    have hother := hfirst place _ hplace (List.getElem?_eq_getElem (hplace.trans hbound))
    simpa using hother

theorem moveItem_missing (missing : (items.findIdx? fun item => keyOf item = key) = none)
    (direction : String) : moveItem keyOf items key direction = items := by
  unfold moveItem
  rw [missing]

theorem moveItem_still {direction : String} (still : ¬(direction = "up" ∨ direction = "down")) :
    moveItem keyOf items key direction = items := by
  unfold moveItem
  split
  · rfl
  · rw [if_pos (.inl still)]

/-- Where a direction leads. -/
def movedTo (direction : String) (index : Nat) : Int :=
  if direction = "up" then (index : Int) - 1 else index + 1

theorem moveItem_within (found : FoundAt keyOf items key index item) {direction : String}
    (way : direction = "up" ∨ direction = "down") {target : Nat}
    (leads : movedTo direction index = target) (there : items[target]? = some other) :
    moveItem keyOf items key direction = (items.set index other).set target item := by
  have hbound := (List.getElem?_eq_some_iff.mp there).1
  change (if direction = "up" then (index : Int) - 1 else index + 1) = target at leads
  unfold moveItem
  rw [findIdx?_eq_some_iff.mpr ⟨item, found⟩]
  simp only [leads, way, not_true_eq_false, false_or, Int.toNat_natCast, found.there, there]
  rw [if_neg]
  omega

theorem moveItem_beyond (found : FoundAt keyOf items key index item) {direction : String}
    (beyond : movedTo direction index < 0 ∨ movedTo direction index ≥ items.length) :
    moveItem keyOf items key direction = items := by
  unfold moveItem
  rw [findIdx?_eq_some_iff.mpr ⟨item, found⟩]
  exact if_pos (.inr beyond)

/-- A list with two of its items exchanged. -/
theorem getElem?_exchanged {left right : Nat}
    (leftBound : left < items.length) (rightBound : right < items.length) (place : Nat) :
    ((items.set left other).set right item)[place]? =
      if place = right then some item else if place = left then some other else items[place]? := by
  simp only [List.getElem?_set, List.length_set]
  grind

theorem moveItem_map {face : α → β} {faceKey : β → String}
    (kept : ∀ item, faceKey (face item) = keyOf item) (direction : String) :
    moveItem faceKey (items.map face) key direction =
      (moveItem keyOf items key direction).map face := by
  unfold moveItem
  have hfind : ((items.map face).findIdx? fun item => faceKey item = key) =
      items.findIdx? fun item => keyOf item = key := by
    rw [List.findIdx?_map]
    congr 1
    funext item
    simp only [Function.comp_apply, kept]
  rw [hfind]
  cases items.findIdx? fun item => keyOf item = key with
  | none => rfl
  | some index =>
      dsimp only
      generalize (if direction = "up" then (index : Int) - 1 else index + 1) = target
      rw [List.length_map, List.getElem?_map, List.getElem?_map]
      split
      · rfl
      · cases items[index]? with
        | none => rfl
        | some item =>
            cases items[target.toNat]? with
            | none => rfl
            | some other => simp only [Option.map_some, List.map_set]

/-- An exchange is seen, unless the items are the same. -/
theorem exchanged_eq_iff {left right : Nat} (atLeft : items[left]? = some item)
    (atRight : items[right]? = some other) :
    (items.set left other).set right item = items ↔ other = item := by
  have hleft := (List.getElem?_eq_some_iff.mp atLeft).1
  have hright := (List.getElem?_eq_some_iff.mp atRight).1
  constructor
  · intro hsame
    have hplace := @getElem?_exchanged _ _ item other _ _ hleft hright right
    rw [hsame, atRight, if_pos rfl] at hplace
    exact Option.some.inj hplace
  · rintro rfl
    apply List.ext_getElem?
    intro place
    rw [getElem?_exchanged hleft hright]
    split
    · next hplace => rw [hplace, atRight]
    · split
      · next hplace => rw [hplace, atLeft]
      · rfl

/-- The item is found where a second move in the same direction takes it further. -/
def MovesOn (keyOf : α → String) (items : List α) (key direction : String) : Prop :=
  ∃ index item, FoundAt keyOf items key index item ∧
    ((direction = "up" ∧ 2 ≤ index) ∨
      (direction = "down" ∧ ∃ other, items[index + 1]? = some other ∧
        if keyOf other = key then other ≠ item
        else ∃ third, items[index + 2]? = some third ∧ third ≠ item))

theorem FoundAt.unique {place : Nat} (found : FoundAt keyOf items key index item)
    (again : FoundAt keyOf items key place other) : index = place ∧ item = other := by
  have hindex := findIdx?_eq_some_iff.mpr ⟨item, found⟩
  have hplace := findIdx?_eq_some_iff.mpr ⟨other, again⟩
  obtain rfl := Option.some.inj (hindex.symm.trans hplace)
  exact ⟨rfl, Option.some.inj (found.there.symm.trans again.there)⟩

/-- An item that went up is found at its new place. -/
theorem FoundAt.raised (found : FoundAt keyOf items key (index + 1) item) (other : α) :
    FoundAt keyOf ((items.set (index + 1) other).set index item) key index item := by
  have hbound := (List.getElem?_eq_some_iff.mp found.there).1
  have hplace := @getElem?_exchanged _ _ item other (index + 1) index hbound (by omega)
  refine ⟨?_, found.keyed, fun place earlier hbefore hearlier => ?_⟩
  · rw [hplace, if_pos rfl]
  · rw [hplace, if_neg (by omega), if_neg (by omega)] at hearlier
    exact found.first place earlier (by omega) hearlier

/-- What is found after an item went down: the item, or one of its key that it passed. -/
theorem FoundAt.lowered (found : FoundAt keyOf items key index item)
    (below : items[index + 1]? = some other) :
    let moved := (items.set index other).set (index + 1) item
    (keyOf other = key → FoundAt keyOf moved key index other) ∧
      (keyOf other ≠ key → FoundAt keyOf moved key (index + 1) item) := by
  have hbound := (List.getElem?_eq_some_iff.mp below).1
  have hplace := @getElem?_exchanged _ _ item other index (index + 1) (by omega) hbound
  refine ⟨fun hother => ⟨?_, hother, fun place earlier hbefore hearlier => ?_⟩,
    fun hother => ⟨?_, found.keyed, fun place earlier hbefore hearlier => ?_⟩⟩
  · rw [hplace, if_neg (by omega), if_pos rfl]
  · rw [hplace, if_neg (by omega), if_neg (by omega)] at hearlier
    exact found.first place earlier hbefore hearlier
  · rw [hplace, if_pos rfl]
  · rw [hplace, if_neg (by omega)] at hearlier
    split at hearlier
    · cases hearlier
      exact hother
    · exact found.first place earlier (by omega) hearlier

theorem moveItem_up_twice (found : FoundAt keyOf items key index item) :
    moveItem keyOf (moveItem keyOf items key "up") key "up" = moveItem keyOf items key "up" ↔
      ¬2 ≤ index := by
  cases index with
  | zero =>
      rw [moveItem_beyond found (.inl (by decide)), moveItem_beyond found (.inl (by decide))]
      simp
  | succ above =>
      have hbound := (List.getElem?_eq_some_iff.mp found.there).1
      obtain ⟨other, hother⟩ : ∃ other, items[above]? = some other :=
        ⟨_, List.getElem?_eq_getElem (by omega)⟩
      have hleads : movedTo "up" (above + 1) = above := by
        unfold movedTo
        rw [if_pos rfl]
        omega
      rw [moveItem_within found (.inl rfl) hleads hother]
      have hraised := found.raised other
      cases above with
      | zero =>
          rw [moveItem_beyond hraised (.inl (by decide))]
          simp
      | succ top =>
          obtain ⟨third, hthird⟩ : ∃ third, items[top]? = some third :=
            ⟨_, List.getElem?_eq_getElem (by omega)⟩
          have hstays : ((items.set (top + 1 + 1) other).set (top + 1) item)[top]? = some third := by
            rw [getElem?_exchanged hbound (by omega), if_neg (by omega), if_neg (by omega), hthird]
          have hagain : movedTo "up" (top + 1) = top := by
            unfold movedTo
            rw [if_pos rfl]
            omega
          rw [moveItem_within hraised (.inl rfl) hagain hstays,
            exchanged_eq_iff hraised.there hstays]
          have hapart : third ≠ item := by
            rintro rfl
            exact found.first top third (by omega) hthird found.keyed
          simp [hapart]

theorem moveItem_down_twice (found : FoundAt keyOf items key index item) :
    moveItem keyOf (moveItem keyOf items key "down") key "down" = moveItem keyOf items key "down" ↔
      ¬∃ other, items[index + 1]? = some other ∧
        if keyOf other = key then other ≠ item
        else ∃ third, items[index + 2]? = some third ∧ third ≠ item := by
  have hleads : ∀ place : Nat, movedTo "down" place = (place + 1 : Nat) := fun place => by
    unfold movedTo
    rw [if_neg (by decide)]
    omega
  cases hother : items[index + 1]? with
  | none =>
      have hbound := List.getElem?_eq_none_iff.mp hother
      have hbeyond : movedTo "down" index < 0 ∨ movedTo "down" index ≥ items.length := by
        rw [hleads]
        omega
      rw [moveItem_beyond found hbeyond, moveItem_beyond found hbeyond]
      simp
  | some other =>
      have hbound := (List.getElem?_eq_some_iff.mp hother).1
      have hplace := @getElem?_exchanged _ _ item other index (index + 1) (by omega) hbound
      rw [moveItem_within found (.inr rfl) (hleads index) hother]
      obtain ⟨hpassed, hlowered⟩ := found.lowered hother
      by_cases hkey : keyOf other = key
      · have hbelow := (hplace (index + 1)).trans (if_pos rfl)
        rw [moveItem_within (hpassed hkey) (.inr rfl) (hleads index) hbelow,
          exchanged_eq_iff (hpassed hkey).there hbelow]
        simp [hkey, eq_comm]
      · have hfound := hlowered hkey
        have hsecond : ((items.set index other).set (index + 1) item)[index + 1 + 1]? =
            items[index + 2]? := by
          rw [hplace, if_neg (by omega), if_neg (by omega)]
        cases hthird : items[index + 2]? with
        | none =>
            have hend := List.getElem?_eq_none_iff.mp hthird
            rw [moveItem_beyond hfound]
            · simp [hkey]
            · rw [hleads, List.length_set, List.length_set]
              omega
        | some third =>
            rw [hthird] at hsecond
            rw [moveItem_within hfound (.inr rfl) (hleads _) hsecond,
              exchanged_eq_iff hfound.there hsecond]
            simp [hkey]

theorem moveItem_twice_iff (direction : String) :
    moveItem keyOf (moveItem keyOf items key direction) key direction =
        moveItem keyOf items key direction ↔ ¬MovesOn keyOf items key direction := by
  cases hfound : items.findIdx? fun item => keyOf item = key with
  | none =>
      rw [moveItem_missing hfound, moveItem_missing hfound]
      simp only [true_iff]
      rintro ⟨index, item, hitem, -⟩
      rw [findIdx?_eq_some_iff.mpr ⟨item, hitem⟩] at hfound
      cases hfound
  | some index =>
      obtain ⟨item, hitem⟩ := findIdx?_eq_some_iff.mp hfound
      have hmoves : MovesOn keyOf items key direction ↔
          ((direction = "up" ∧ 2 ≤ index) ∨
            (direction = "down" ∧ ∃ other, items[index + 1]? = some other ∧
              if keyOf other = key then other ≠ item
              else ∃ third, items[index + 2]? = some third ∧ third ≠ item)) := by
        constructor
        · rintro ⟨place, other, hother, hway⟩
          obtain ⟨rfl, rfl⟩ := hitem.unique hother
          exact hway
        · exact fun hway => ⟨index, item, hitem, hway⟩
      rw [hmoves]
      by_cases hup : direction = "up"
      · subst hup
        rw [moveItem_up_twice hitem]
        simp
      · by_cases hdown : direction = "down"
        · subst hdown
          rw [moveItem_down_twice hitem]
          simp
        · have hstill : ¬(direction = "up" ∨ direction = "down") := by simp [hup, hdown]
          rw [moveItem_still hstill, moveItem_still hstill]
          simp [hup, hdown]

theorem moveItem_perm (direction : String) :
    (moveItem keyOf items key direction).Perm items := by
  unfold moveItem
  split
  · exact .refl _
  · dsimp only
    generalize (if direction = "up" then _ else _) = target
    split
    · exact .refl _
    · split
      · rename_i item other hitem hother
        obtain ⟨hfirst, rfl⟩ := List.getElem?_eq_some_iff.mp hitem
        obtain ⟨hsecond, rfl⟩ := List.getElem?_eq_some_iff.mp hother
        exact List.set_set_perm hfirst hsecond
      · exact .refl _

end moves

/-! ### Fields in their order -/

section fields

/-- A field without its place. -/
def FieldDefinition.face (field : FieldDefinition) : FieldDefinition := { field with order := 0 }

theorem renumbered_face (fields : List FieldDefinition) :
    (ConfigEdits.renumbered fields).map FieldDefinition.face = fields.map FieldDefinition.face := by
  unfold ConfigEdits.renumbered
  apply List.ext_getElem?
  intro place
  rw [List.getElem?_map, List.getElem?_map, List.getElem?_mapIdx]
  cases fields[place]? with
  | none => rfl
  | some field => rfl

theorem renumbered_eq_iff {left right : List FieldDefinition} :
    ConfigEdits.renumbered left = ConfigEdits.renumbered right ↔
      left.map FieldDefinition.face = right.map FieldDefinition.face := by
  constructor
  · intro hsame
    rw [← renumbered_face left, hsame, renumbered_face]
  · intro hsame
    have hnumbered : ∀ fields : List FieldDefinition, ConfigEdits.renumbered fields =
        ConfigEdits.renumbered (fields.map FieldDefinition.face) := by
      intro fields
      unfold ConfigEdits.renumbered
      apply List.ext_getElem?
      intro place
      rw [List.getElem?_mapIdx, List.getElem?_mapIdx, List.getElem?_map]
      cases fields[place]? with
      | none => rfl
      | some field => rfl
    rw [hnumbered left, hnumbered right, hsame]

theorem renumbered_pairwise (fields : List FieldDefinition) :
    (ConfigEdits.renumbered fields).Pairwise fun left right => left.order < right.order := by
  unfold ConfigEdits.renumbered
  rw [List.pairwise_iff_getElem]
  intro left right hleft hright hbefore
  rw [List.getElem_mapIdx, List.getElem_mapIdx]
  show (left : Int) + 1 < right + 1
  omega

/-- Fields numbered by their places are in order. -/
theorem orderedFields_renumbered (draft : PackDefinition) (fields : List FieldDefinition) :
    PackDefinition.orderedFields { draft with fields := ConfigEdits.renumbered fields } =
      ConfigEdits.renumbered fields :=
  ((renumbered_pairwise fields).imp fun hbefore => .inl hbefore).insertionSort_eq

theorem moveItem_face (fields : List FieldDefinition) (key direction : String) :
    moveItem FieldDefinition.key (fields.map FieldDefinition.face) key direction =
      (moveItem FieldDefinition.key fields key direction).map FieldDefinition.face :=
  moveItem_map (fun _ => rfl) direction

end fields

/-! ### Edits -/

theorem ServiceCatalog.make_eq {categories : List ServiceCategory} (multiSelect : Bool)
    (distinct : (categories.map fun category => category.key).Nodup) :
    ServiceCatalog.make categories multiSelect = .ok ⟨categories, multiSelect, distinct⟩ :=
  dif_pos distinct

namespace ConfigEdits

/-- The evidence that a button asks for is what it asks for the second time. -/
def EvidenceAction.Settled (evidence : EvidenceRequirements) : EvidenceAction → Prop
  | photoInc => 9 ≤ evidence.minimumPhotos
  | photoDec => evidence.minimumPhotos ≤ 1
  | comment => False
  | signature => False
  | code => False

theorem toggled_twice_iff (action : EvidenceAction) (evidence : EvidenceRequirements) :
    toggled action (toggled action evidence) = toggled action evidence ↔ action.Settled evidence := by
  have hcount := evidence.nonNegative
  cases action with
  | photoInc =>
      simp only [toggled, EvidenceAction.Settled, EvidenceRequirements.mk.injEq, and_true]
      omega
  | photoDec =>
      simp only [toggled, EvidenceAction.Settled, EvidenceRequirements.mk.injEq, and_true]
      omega
  | comment => simp [toggled, EvidenceAction.Settled]
  | signature => simp [toggled, EvidenceAction.Settled]
  | code => simp [toggled, EvidenceAction.Settled]

end ConfigEdits

namespace ConfigEdit

variable {unicode : Unicode} {draft : PackDefinition}

/-- The edit changes nothing the second time. -/
def Settles (unicode : Unicode) (edit : ConfigEdit) (draft : PackDefinition) : Prop :=
  edit.apply unicode (edit.apply unicode draft) = edit.apply unicode draft

theorem apply_serviceDelete (key : String) :
    (serviceDelete key).apply unicode draft = { draft with
      serviceCatalog :=
        { categories := draft.serviceCatalog.categories.filter fun category => category.key ≠ key
          multiSelect := draft.serviceCatalog.multiSelect
          distinct := draft.serviceCatalog.distinct.sublist (List.filter_sublist.map _) } } := by
  apply apply_of_stored
  show ConfigEdits.serviceDelete key draft = _
  unfold ConfigEdits.serviceDelete
  dsimp only
  rw [ServiceCatalog.make_eq]
  rfl

theorem apply_serviceMove (key direction : String) :
    (serviceMove key direction).apply unicode draft = { draft with
      serviceCatalog :=
        { categories :=
            moveItem ServiceCategory.key draft.serviceCatalog.categories key direction
          multiSelect := draft.serviceCatalog.multiSelect
          distinct := ((moveItem_perm direction).map _).nodup_iff.mpr
            draft.serviceCatalog.distinct } } := by
  apply apply_of_stored
  show ConfigEdits.serviceMove key direction draft = _
  unfold ConfigEdits.serviceMove
  dsimp only
  rw [ServiceCatalog.make_eq]
  rfl

theorem settles_serviceDelete (key : String) : (serviceDelete key).Settles unicode draft := by
  unfold Settles
  rw [apply_serviceDelete, apply_serviceDelete]
  simp

theorem settles_serviceMove (key direction : String) :
    (serviceMove key direction).Settles unicode draft ↔
      ¬MovesOn ServiceCategory.key draft.serviceCatalog.categories key direction := by
  rw [← moveItem_twice_iff]
  unfold Settles
  rw [apply_serviceMove, apply_serviceMove]
  simp only [PackDefinition.mk.injEq, ServiceCatalog.mk.injEq, and_true, true_and]

theorem settles_fieldDelete (key : String) : (fieldDelete key).Settles unicode draft := by
  unfold Settles apply outcome ConfigEdits.fieldDelete
  simp

theorem settles_fieldMove (key direction : String) :
    (fieldMove key direction).Settles unicode draft ↔
      ¬MovesOn FieldDefinition.key (draft.orderedFields.map FieldDefinition.face) key direction := by
  rw [← moveItem_twice_iff, moveItem_face, moveItem_face]
  have hfirst : (fieldMove key direction).apply unicode draft = { draft with
      fields := ConfigEdits.renumbered
        (moveItem FieldDefinition.key draft.orderedFields key direction) } := rfl
  have hsecond : ∀ fields, (fieldMove key direction).apply unicode
      { draft with fields := ConfigEdits.renumbered fields } = { draft with
      fields := ConfigEdits.renumbered (moveItem FieldDefinition.key
        (ConfigEdits.renumbered fields) key direction) } := by
    intro fields
    show PackDefinition.mk _ _ (ConfigEdits.renumbered (moveItem FieldDefinition.key
      (PackDefinition.orderedFields _) key direction)) _ _ _ = _
    rw [orderedFields_renumbered]
  unfold Settles
  rw [hfirst, hsecond]
  simp only [PackDefinition.mk.injEq, and_true, true_and]
  rw [renumbered_eq_iff, ← moveItem_face, renumbered_face, moveItem_face]

theorem settles_poolMode (mode : PoolMode) : (poolMode mode).Settles unicode draft := rfl

theorem settles_serviceMultiSelect : ¬serviceMultiSelect.Settles unicode draft := by
  unfold Settles apply outcome ConfigEdits.serviceMultiSelect
  simp

theorem settles_evidenceToggle (action : ConfigEdits.EvidenceAction) :
    (evidenceToggle action).Settles unicode draft ↔ action.Settled draft.evidence := by
  rw [← ConfigEdits.toggled_twice_iff]
  unfold Settles apply outcome ConfigEdits.evidenceToggle
  simp only [PackDefinition.mk.injEq, and_true, true_and]

end ConfigEdit
end DispatchCore.Packs
