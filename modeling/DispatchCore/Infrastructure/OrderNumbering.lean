import DispatchCore.Domain.OrderNumbers
import DispatchCore.Library.Dict
import DispatchCore.Library.Instant
import DispatchCore.Library.Runs
import Mathlib.Algebra.Group.Nat.Defs
import Mathlib.Data.List.Dedup
import Mathlib.Data.List.Sort

/-! The numbers that a migration gives to the orders there are, the counters it leaves
behind, and the orders that are numbered from these afterwards. -/
namespace DispatchCore.Infrastructure

open DispatchCore.Library DispatchCore.Domain

/-! ### The number of a row, in SQL -/

/-- `substr(text, start, length)` -/
def substr (text : List Char) (start length : Nat) : List Char :=
  (text.drop (start - 1)).take length

/-- `lpad(text, width, fill)`, which also cuts off what is longer than the width. -/
def lpad (text : List Char) (width : Nat) (fill : Char) : List Char :=
  if width ≤ text.length then text.take width
  else List.replicate (width - text.length) fill ++ text

/-- The loop of `dispatch_core_base36`. -/
def encodeBase36 (currentValue : Nat) (encoded : List Char) : List Char :=
  if _h : 0 < currentValue then
    encodeBase36 (currentValue / 36) (substr alphabet (currentValue % 36 + 1) 1 ++ encoded)
  else encoded
termination_by currentValue

def dispatchCoreBase36 (value : Nat) : List Char := encodeBase36 value []

def assignedNumber (sequence : Nat) : String :=
  if sequence ≤ 26000 then
    String.ofList (Char.ofNat (65 + (sequence - 1) / 1000) ::
      lpad (toString ((sequence - 1) % 1000)).toList 3 '0')
  else String.ofList ('X' :: lpad (dispatchCoreBase36 sequence) 6 '0')

/-! ### The two encodings -/

theorem substr_alphabet {digit : Nat} (h : digit < 36) :
    substr alphabet (digit + 1) 1 = [alphabet.getD digit '0'] := by
  have hall : ∀ digit : Fin 36,
      substr alphabet (digit + 1) 1 = [alphabet.getD digit '0'] := by decide
  exact hall ⟨digit, h⟩

theorem base36_zero : base36 0 = [] := by
  unfold base36
  rfl

theorem base36_of_pos {value : Nat} (positive : 0 < value) :
    base36 value = base36 (value / 36) ++ [alphabet.getD (value % 36) '0'] := by
  rw [base36, dif_neg positive.ne']

theorem encodeBase36_eq (value : Nat) (encoded : List Char) :
    encodeBase36 value encoded = base36 value ++ encoded := by
  induction value using Nat.strong_induction_on generalizing encoded with
  | h value ih =>
      unfold encodeBase36
      by_cases hpositive : 0 < value
      · rw [dif_pos hpositive, ih (value / 36) (by omega), substr_alphabet (by omega),
          base36_of_pos hpositive, List.append_assoc]
      · have hzero : value = 0 := by omega
        rw [dif_neg hpositive, hzero, base36_zero, List.nil_append]

theorem dispatchCoreBase36_eq (value : Nat) : dispatchCoreBase36 value = base36 value := by
  rw [dispatchCoreBase36, encodeBase36_eq, List.append_nil]

theorem length_base36_le {value count : Nat} :
    (base36 value).length ≤ count ↔ value < 36 ^ count := by
  induction count generalizing value with
  | zero =>
      rcases Nat.eq_zero_or_pos value with rfl | hpositive
      · simp [base36_zero]
      · rw [base36_of_pos hpositive]
        simp
        omega
  | succ count ih =>
      rcases Nat.eq_zero_or_pos value with rfl | hpositive
      · simp [base36_zero, Nat.pow_pos]
      · rw [base36_of_pos hpositive, List.length_append, List.length_singleton,
          Nat.add_le_add_iff_right, ih, Nat.div_lt_iff_lt_mul (by omega), Nat.pow_succ]

/-- A power of the base has one digit more than its exponent, and begins as the power
before it. -/
theorem base36_mul {value : Nat} (positive : 0 < value) :
    base36 (value * 36) = base36 value ++ ['0'] := by
  rw [base36_of_pos (by omega), Nat.mul_div_cancel _ (by omega), Nat.mul_mod_left]
  rfl

theorem lpad_of_le {text : List Char} {width : Nat} {fill : Char} (short : text.length ≤ width) :
    lpad text width fill = (Text.padLeft width fill (String.ofList text)).toList := by
  rw [toList_padLeft, String.toList_ofList, Text.size, String.toList_ofList]
  unfold lpad
  by_cases h : width ≤ text.length
  · have hwidth : width = text.length := by omega
    rw [if_pos h, hwidth, List.take_length, Nat.sub_self, List.replicate_zero, List.nil_append]
  · rw [if_neg h]

theorem length_lpad_le (text : List Char) (width : Nat) (fill : Char) :
    (lpad text width fill).length = width := by
  unfold lpad
  split
  · rw [List.length_take]
    omega
  · rw [List.length_append, List.length_replicate]
    omega

theorem assignedNumber_short {sequence : Nat} (short : sequence ≤ 26000) :
    assignedNumber sequence = shortNumber (sequence - 1) := by
  have hdigits : (toString ((sequence - 1) % 1000)).toList.length ≤ 3 := by
    have hbound : (sequence - 1) % 1000 < 10 ^ 3 := Nat.mod_lt _ (by decide)
    have hlength := (Nat.length_toDigits_le_iff (by decide) (by decide)).mpr hbound
    simpa [toString, Nat.repr] using hlength
  rw [assignedNumber, if_pos short, lpad_of_le hdigits, String.ofList_toList, shortNumber,
    ← String.toList_inj, String.toList_append, String.toList_ofList, String.toList_ofList]
  rfl

theorem assignedNumber_long {sequence : Nat} (long : 26000 < sequence) :
    assignedNumber sequence = longNumber sequence ↔ sequence < 36 ^ 6 := by
  rw [assignedNumber, if_neg (by omega), dispatchCoreBase36_eq, ← length_base36_le]
  constructor
  · intro heq
    have hsize := congrArg (fun text => text.toList.length) heq
    simp only [String.toList_ofList, List.length_cons, length_lpad_le] at hsize
    have hpadded := size_padLeft 6 '0' (String.ofList (base36 sequence))
    unfold Text.size at hpadded
    rw [String.toList_ofList] at hpadded
    rw [longNumber, String.toList_append, List.length_append, hpadded] at hsize
    have hletter : "X".toList.length = 1 := rfl
    omega
  · intro hlength
    rw [lpad_of_le hlength, longNumber, ← String.toList_inj, String.toList_ofList,
      String.toList_append]
    rfl

/-- The migration writes the number of a sequence as the code does up to the last number of
six digits. -/
theorem assignedNumber_iff {sequence : Nat} (positive : 1 ≤ sequence) :
    formatOrderNumber sequence = .ok (assignedNumber sequence) ↔ sequence < 36 ^ 6 := by
  rw [formatOrderNumber_eq positive, Except.ok.injEq, eq_comm]
  have hcapacity : shortCapacity = 26000 := rfl
  by_cases hshort : sequence ≤ 26000
  · rw [if_pos (by omega), assignedNumber_short hshort]
    simp
    omega
  · rw [if_neg (by omega), assignedNumber_long (by omega)]

/-- Cut off at six digits, two numbers become one. -/
theorem assignedNumber_collides : assignedNumber (36 ^ 5) = assignedNumber (36 ^ 6) := by
  have hpower : 36 ^ 6 = 36 ^ 5 * 36 := by decide
  have hlength : (base36 (36 ^ 5)).length = 6 := by
    have hle : (base36 (36 ^ 5)).length ≤ 6 := length_base36_le.mpr (by decide)
    have hgt : ¬(base36 (36 ^ 5)).length ≤ 5 := length_base36_le.not.mpr (by decide)
    omega
  have hfirst : lpad (dispatchCoreBase36 (36 ^ 5)) 6 '0' = base36 (36 ^ 5) := by
    rw [dispatchCoreBase36_eq, lpad, if_pos hlength.ge, List.take_of_length_le hlength.le]
  have hlast : lpad (dispatchCoreBase36 (36 ^ 6)) 6 '0' = base36 (36 ^ 5) := by
    rw [dispatchCoreBase36_eq, hpower, base36_mul (by decide), lpad,
      if_pos (by rw [List.length_append]; omega), List.take_append_of_le_length hlength.ge,
      List.take_of_length_le hlength.le]
  unfold assignedNumber
  rw [if_neg (by decide), if_neg (by decide), hfirst, hlast]

/-! ### The tables -/

/-- The columns of `work_orders` that numbering orders reads and writes. -/
structure NumberedRow where
  organizationId : String
  id : String
  createdAt : Instant
  publicNumber : Option String
deriving DecidableEq

/-- The primary key of `work_orders`. -/
def NumberedRow.key (row : NumberedRow) : String × String := (row.organizationId, row.id)

/-- The columns of the unique index on `work_orders`. -/
def NumberedRow.indexed (row : NumberedRow) : String × Option String :=
  (row.organizationId, row.publicNumber)

structure NumberingTables where
  orders : List NumberedRow
  keyed : (orders.map NumberedRow.key).Nodup
  counters : Dict String Nat

/-- What the database answers instead. -/
inductive NumberingError
  | notNullViolation
  | uniqueViolation
  | numericValueOutOfRange
  | concurrencyConflict
  | valueError (failure : Failure)
deriving DecidableEq

/-- `ORDER BY created_at, id`, where a collation orders the texts. -/
def NumberedRow.upTo (collation : String → String → Bool) (left right : NumberedRow) : Bool :=
  left.createdAt < right.createdAt ||
    (left.createdAt = right.createdAt && collation left.id right.id)

namespace NumberingTables

/-! ### The migration -/

section Migration

variable (collation : String → String → Bool) (tables : NumberingTables)

/-- `PARTITION BY organization_id` of the rows that have no number. -/
def partition (organizationId : String) : List NumberedRow :=
  (tables.orders.filter fun row => row.publicNumber = none ∧
    row.organizationId = organizationId).mergeSort (NumberedRow.upTo collation)

/-- `row_number()` -/
def rowNumber (row : NumberedRow) : Nat :=
  (tables.partition collation row.organizationId).idxOf row + 1

/-- The query `numbered`. -/
def numbered : List (NumberedRow × Nat) :=
  (tables.orders.filter fun row => row.publicNumber = none).map fun row =>
    (row, tables.rowNumber collation row)

/-- A row as the update leaves it. -/
def updated (row : NumberedRow) : NumberedRow :=
  match (tables.numbered collation).find? fun entry => entry.1.key = row.key with
  | none => row
  | some (_, sequence) => { row with publicNumber := some (assignedNumber sequence) }

def countOrders (organizationId : String) : Nat :=
  tables.orders.countP fun row => row.organizationId = organizationId

/-- The counter after the insertion of the number of orders that an organization has. -/
def counted (counters : Dict String Nat) (organizationId : String) : Nat :=
  match counters.get? organizationId with
  | none => tables.countOrders organizationId
  | some lastValue => max lastValue (tables.countOrders organizationId)

def migratedCounters : Dict String Nat :=
  (tables.orders.map NumberedRow.organizationId).dedup.foldl (fun counters organizationId =>
    counters.set organizationId (tables.counted counters organizationId)) tables.counters

theorem key_updated (row : NumberedRow) : (tables.updated collation row).key = row.key := by
  unfold updated
  split <;> rfl

/-- The tables before the constraints are added. -/
def migrated : NumberingTables where
  orders := tables.orders.map (tables.updated collation)
  keyed := by
    have hkeys : NumberedRow.key ∘ tables.updated collation = NumberedRow.key :=
      funext (tables.key_updated collation)
    rw [List.map_map, hkeys]
    exact tables.keyed
  counters := tables.migratedCounters

def migrate : Except NumberingError NumberingTables :=
  let after := tables.migrated collation
  if ∃ row ∈ after.orders, row.publicNumber = none then .error .notNullViolation
  else if (after.orders.map NumberedRow.indexed).Nodup then .ok after
  else .error .uniqueViolation

end Migration

/-! ### Orders from then on -/

/-- What is given of an order before it is numbered. -/
structure Arrival where
  organizationId : String
  id : String
  createdAt : Instant

def Arrival.row (arrival : Arrival) (number : String) : NumberedRow :=
  ⟨arrival.organizationId, arrival.id, arrival.createdAt, some number⟩

/-- The values of a `bigint` end here. -/
def bigintLimit : Nat := 2 ^ 63

def allocatePublicNumber (organizationId : String) (counters : Dict String Nat) :
    Except NumberingError (String × Dict String Nat) :=
  let sequence := ((counters.get? organizationId).map (· + 1)).getD 1
  if sequence < bigintLimit then
    match formatOrderNumber sequence with
    | .error failure => .error (.valueError failure)
    | .ok number => .ok (number, counters.set organizationId sequence)
  else .error .numericValueOutOfRange

theorem lawful_key : LawfulBEq (String × String) := inferInstance

def createOrder (tables : NumberingTables) (arrival : Arrival) :
    Except NumberingError NumberingTables := do
  let (number, counters) ← allocatePublicNumber arrival.organizationId tables.counters
  haveI := lawful_key
  if fresh : (arrival.row number).key ∉ tables.orders.map NumberedRow.key then
    if ((tables.orders ++ [arrival.row number]).map NumberedRow.indexed).Nodup then
      return {
        orders := tables.orders ++ [arrival.row number]
        keyed := by
          rw [List.map_append, List.map_singleton]
          exact List.nodup_append_comm.mp (List.nodup_cons.mpr ⟨fresh, tables.keyed⟩)
        counters := counters }
    else throw .uniqueViolation
  else throw .concurrencyConflict

/-- A transaction that fails leaves nothing behind. -/
def transaction (tables : NumberingTables) (arrival : Arrival) : NumberingTables :=
  match tables.createOrder arrival with
  | .ok after => after
  | .error _ => tables

/-- However many orders follow, no two of an organization have one number, and none is refused
since its number is another's. -/
def NeverCollides (tables : NumberingTables) : Prop :=
  ∀ arrivals : List Arrival,
    ((arrivals.foldl transaction tables).orders.map NumberedRow.indexed).Nodup ∧
      ∀ arrival, (arrivals.foldl transaction tables).createOrder arrival ≠
        .error .uniqueViolation

/-! ### Numbers that the counters account for -/

/-- Every order has the number of a sequence up to its organization's counter, and no other
has it. -/
structure Sequenced (tables : NumberingTables) : Prop where
  reached : ∀ row ∈ tables.orders, ∃ sequence number, 1 ≤ sequence ∧
    sequence ≤ (tables.counters.get? row.organizationId).getD 0 ∧
    formatOrderNumber sequence = .ok number ∧ row.publicNumber = some number
  distinct : (tables.orders.map NumberedRow.indexed).Nodup

theorem allocated {organizationId number : String} {counters after : Dict String Nat}
    (h : allocatePublicNumber organizationId counters = .ok (number, after)) :
    formatOrderNumber ((counters.get? organizationId).getD 0 + 1) = .ok number ∧
      after = counters.set organizationId ((counters.get? organizationId).getD 0 + 1) := by
  have hsequence : ((counters.get? organizationId).map (· + 1)).getD 1 =
      (counters.get? organizationId).getD 0 + 1 := by
    cases counters.get? organizationId <;> rfl
  simp only [allocatePublicNumber, hsequence] at h
  by_cases hlimit : (counters.get? organizationId).getD 0 + 1 < bigintLimit
  · rw [if_pos hlimit] at h
    cases hformat : formatOrderNumber ((counters.get? organizationId).getD 0 + 1) with
    | error failure =>
        rw [hformat] at h
        contradiction
    | ok given =>
        rw [hformat] at h
        obtain ⟨rfl, rfl⟩ := Prod.mk.inj (Except.ok.inj h)
        exact ⟨rfl, rfl⟩
  · rw [if_neg hlimit] at h
    contradiction

namespace Sequenced

variable {tables : NumberingTables} {arrival : Arrival}

/-- The number after the counter is nobody's yet. -/
theorem fresh (sequenced : Sequenced tables) {organizationId number : String}
    (h : formatOrderNumber ((tables.counters.get? organizationId).getD 0 + 1) = .ok number) :
    (organizationId, some number) ∉ tables.orders.map NumberedRow.indexed := by
  intro hmem
  obtain ⟨row, hrow, hindexed⟩ := List.mem_map.mp hmem
  obtain ⟨sequence, other, hpositive, hle, hformat, hnumber⟩ := sequenced.reached row hrow
  obtain ⟨horganization, hother⟩ := Prod.mk.inj hindexed
  rw [hnumber] at hother
  rw [Option.some.inj hother] at hformat
  have hsame := formatOrderNumber_injective hformat h
  rw [horganization] at hle
  omega

theorem distinct_concat (sequenced : Sequenced tables) {number : String}
    (h : formatOrderNumber ((tables.counters.get? arrival.organizationId).getD 0 + 1) =
      .ok number) :
    ((tables.orders ++ [arrival.row number]).map NumberedRow.indexed).Nodup := by
  rw [List.map_append, List.map_singleton]
  exact List.nodup_append_comm.mp
    (List.nodup_cons.mpr ⟨sequenced.fresh h, sequenced.distinct⟩)

/-- Creating an order ends with the order in the table, or is refused for another reason than
its number. -/
theorem createOrder_cases (sequenced : Sequenced tables) (arrival : Arrival) :
    (∃ number after, tables.createOrder arrival = .ok after ∧
      formatOrderNumber ((tables.counters.get? arrival.organizationId).getD 0 + 1) = .ok number ∧
      after.orders = tables.orders ++ [arrival.row number] ∧
      after.counters = tables.counters.set arrival.organizationId
        ((tables.counters.get? arrival.organizationId).getD 0 + 1)) ∨
    ∃ failure, tables.createOrder arrival = .error failure ∧ failure ≠ .uniqueViolation := by
  cases hallocate : allocatePublicNumber arrival.organizationId tables.counters with
  | error failure =>
      refine .inr ⟨failure, by rw [createOrder, hallocate]; rfl, ?_⟩
      rintro rfl
      simp only [allocatePublicNumber] at hallocate
      split at hallocate
      · split at hallocate <;> cases hallocate
      · cases hallocate
  | ok allocation =>
      obtain ⟨number, counters⟩ := allocation
      obtain ⟨hformat, rfl⟩ := allocated hallocate
      have hdistinct := sequenced.distinct_concat hformat
      by_cases hfresh : (arrival.row number).key ∉ tables.orders.map NumberedRow.key
      · refine .inl ⟨number, ⟨tables.orders ++ [arrival.row number], ?_, _⟩, ?_, hformat, rfl, rfl⟩
        · rw [List.map_append, List.map_singleton]
          exact List.nodup_append_comm.mp (List.nodup_cons.mpr ⟨hfresh, tables.keyed⟩)
        · rw [createOrder, hallocate]
          simp only [bind, Except.bind]
          rw [dif_pos hfresh, if_pos hdistinct]
          rfl
      · refine .inr ⟨.concurrencyConflict, ?_, by decide⟩
        rw [createOrder, hallocate]
        simp only [bind, Except.bind]
        rw [dif_neg hfresh]
        rfl

theorem transaction (sequenced : Sequenced tables) (arrival : Arrival) :
    Sequenced (tables.transaction arrival) := by
  unfold NumberingTables.transaction
  rcases sequenced.createOrder_cases arrival with
    ⟨number, after, hcreate, hformat, horders, hcounters⟩ | ⟨failure, hcreate, -⟩
  · simp only [hcreate]
    refine ⟨fun row hrow => ?_, horders ▸ sequenced.distinct_concat hformat⟩
    rw [horders, List.mem_append, List.mem_singleton] at hrow
    rw [hcounters, Dict.get?_set]
    rcases hrow with hrow | rfl
    · obtain ⟨sequence, other, hpositive, hle, hother, hnumber⟩ := sequenced.reached row hrow
      refine ⟨sequence, other, hpositive, ?_, hother, hnumber⟩
      split
      · rename_i heq
        rw [heq] at hle
        rw [Option.getD_some]
        omega
      · exact hle
    · exact ⟨_, number, by omega, by simp [Arrival.row], hformat, rfl⟩
  · simp only [hcreate]
    exact sequenced

theorem neverCollides (sequenced : Sequenced tables) : tables.NeverCollides := by
  intro arrivals
  have hlater : Sequenced (arrivals.foldl NumberingTables.transaction tables) := by
    induction arrivals generalizing tables with
    | nil => exact sequenced
    | cons first rest ih => exact ih (sequenced.transaction first)
  refine ⟨hlater.distinct, fun arrival hcreate => ?_⟩
  rcases hlater.createOrder_cases arrival with
    ⟨number, after, hok, -⟩ | ⟨failure, herror, hne⟩
  · rw [hcreate] at hok
    contradiction
  · rw [hcreate] at herror
    exact hne (Except.error.inj herror).symm

end Sequenced

/-! ### The numbers of the migration -/

/-- The column is new: no order has a number yet. -/
def Unnumbered (tables : NumberingTables) : Prop :=
  ∀ row ∈ tables.orders, row.publicNumber = none

section Unnumbered

variable (collation : String → String → Bool) {tables : NumberingTables}

theorem rows_nodup (tables : NumberingTables) : tables.orders.Nodup :=
  List.Nodup.of_map _ tables.keyed

theorem eq_of_key {left right : NumberedRow} (hleft : left ∈ tables.orders)
    (hright : right ∈ tables.orders) (h : left.key = right.key) : left = right :=
  List.inj_on_of_nodup_map tables.keyed hleft hright h

theorem nodup_partition (organizationId : String) :
    (tables.partition collation organizationId).Nodup :=
  (List.mergeSort_perm ..).nodup_iff.mpr (tables.rows_nodup.filter _)

theorem countOrders_le_migrated (organizationId : String)
    (h : organizationId ∈ tables.orders.map NumberedRow.organizationId) :
    tables.countOrders organizationId ≤ (tables.migratedCounters.get? organizationId).getD 0 := by
  have hrun : ∀ (organizations : List String) (counters : Dict String Nat),
      (organizationId ∈ organizations ∨
        tables.countOrders organizationId ≤ (counters.get? organizationId).getD 0) →
      tables.countOrders organizationId ≤ ((organizations.foldl (fun counters other =>
        counters.set other (tables.counted counters other)) counters).get?
          organizationId).getD 0 := by
    intro organizations
    induction organizations with
    | nil =>
        intro counters hcount
        exact hcount.resolve_left List.not_mem_nil
    | cons first rest ih =>
        intro counters hcount
        apply ih
        rw [Dict.get?_set]
        by_cases hfirst : organizationId = first
        · right
          rw [if_pos hfirst, Option.getD_some, ← hfirst, counted]
          split <;> omega
        · rw [if_neg hfirst]
          rwa [List.mem_cons, or_iff_right hfirst] at hcount
  exact hrun _ _ (.inl (List.mem_dedup.mpr h))

variable (unnumbered : tables.Unnumbered)
include unnumbered

theorem mem_partition {organizationId : String} {row : NumberedRow} :
    row ∈ tables.partition collation organizationId ↔
      row ∈ tables.orders ∧ row.organizationId = organizationId := by
  have hnone := unnumbered row
  rw [partition, List.mem_mergeSort, List.mem_filter, decide_eq_true_eq]
  tauto

theorem length_partition (organizationId : String) :
    (tables.partition collation organizationId).length = tables.countOrders organizationId := by
  rw [partition, List.length_mergeSort, countOrders, List.countP_eq_length_filter]
  congr 1
  apply List.filter_congr
  intro row hrow
  simp [unnumbered row hrow]

theorem rowNumber_le {row : NumberedRow} (hrow : row ∈ tables.orders) :
    tables.rowNumber collation row ≤ tables.countOrders row.organizationId := by
  have hmem := (mem_partition collation unnumbered).mpr ⟨hrow, rfl⟩
  rw [← length_partition collation unnumbered]
  exact List.idxOf_lt_length_of_mem hmem

theorem rowNumber_injective {left right : NumberedRow} (hleft : left ∈ tables.orders)
    (organization : left.organizationId = right.organizationId)
    (h : tables.rowNumber collation left = tables.rowNumber collation right) : left = right := by
  have hmem := (mem_partition collation unnumbered).mpr ⟨hleft, organization⟩
  unfold rowNumber at h
  rw [organization] at h
  exact (List.idxOf_inj hmem).mp (Nat.add_right_cancel h)

/-- Every number up to the count is a row's. -/
theorem rowNumber_surjective {organizationId : String} {sequence : Nat} (positive : 1 ≤ sequence)
    (h : sequence ≤ tables.countOrders organizationId) :
    ∃ row ∈ tables.orders, row.organizationId = organizationId ∧
      tables.rowNumber collation row = sequence := by
  have hlength : sequence - 1 < (tables.partition collation organizationId).length := by
    rw [length_partition collation unnumbered]
    omega
  have hmem := List.getElem_mem hlength
  obtain ⟨hrow, horganization⟩ := (mem_partition collation unnumbered).mp hmem
  refine ⟨_, hrow, horganization, ?_⟩
  rw [rowNumber, horganization, (nodup_partition collation organizationId).idxOf_getElem]
  omega

theorem updated_eq {row : NumberedRow} (hrow : row ∈ tables.orders) :
    tables.updated collation row =
      { row with publicNumber := some (assignedNumber (tables.rowNumber collation row)) } := by
  have hfound : (tables.numbered collation).find? (fun entry => entry.1.key = row.key) =
      some (row, tables.rowNumber collation row) := by
    cases hfind : (tables.numbered collation).find? fun entry => entry.1.key = row.key with
    | none =>
        have hmem : (row, tables.rowNumber collation row) ∈ tables.numbered collation :=
          List.mem_map.mpr ⟨row, List.mem_filter.mpr ⟨hrow, by simp [unnumbered row hrow]⟩, rfl⟩
        have hnone := List.find?_eq_none.mp hfind _ hmem
        simp at hnone
    | some entry =>
        obtain ⟨other, hother, rfl⟩ := List.mem_map.mp (List.mem_of_find?_eq_some hfind)
        have hkey := List.find?_some hfind
        rw [eq_of_key (List.mem_filter.mp hother).1 hrow (of_decide_eq_true hkey)]
  unfold updated
  rw [hfound]

theorem updated_numbered {row : NumberedRow} (hrow : row ∈ tables.orders) :
    (tables.updated collation row).publicNumber ≠ none := by
  rw [updated_eq collation unnumbered hrow]
  exact Option.some_ne_none _

end Unnumbered

/-- The migration numbers an order as the code numbers its position. -/
def NumbersAsCoded (collation : String → String → Bool) (tables : NumberingTables) : Prop :=
  ∀ row ∈ tables.orders, ∃ number,
    formatOrderNumber (tables.rowNumber collation row) = .ok number ∧
      (tables.updated collation row).publicNumber = some number

section Migrated

variable (collation : String → String → Bool) {tables : NumberingTables}
  (unnumbered : tables.Unnumbered)
include unnumbered

theorem numbersAsCoded_iff : tables.NumbersAsCoded collation ↔
    ∀ organizationId, tables.countOrders organizationId < 36 ^ 6 := by
  constructor
  · intro coded organizationId
    by_contra hcount
    obtain ⟨row, hrow, -, hnumber⟩ := rowNumber_surjective collation unnumbered
      (by decide : 1 ≤ 36 ^ 6) (not_lt.mp hcount)
    obtain ⟨number, hformat, hupdated⟩ := coded row hrow
    rw [updated_eq collation unnumbered hrow, hnumber] at hupdated
    rw [hnumber, ← Option.some.inj hupdated, assignedNumber_iff (by decide)] at hformat
    exact hformat.false
  · intro hcount row hrow
    have hlimit := (rowNumber_le collation unnumbered hrow).trans_lt (hcount row.organizationId)
    refine ⟨assignedNumber (tables.rowNumber collation row), ?_, ?_⟩
    · exact (assignedNumber_iff (Nat.le_add_left ..)).mpr hlimit
    · rw [updated_eq collation unnumbered hrow]

/-- Two of the numbers, cut off, are one. -/
theorem not_nodup_of_crowded {organizationId : String}
    (crowded : 36 ^ 6 ≤ tables.countOrders organizationId) :
    ¬((tables.migrated collation).orders.map NumberedRow.indexed).Nodup := by
  intro hnodup
  obtain ⟨early, hearly, hfirst, hearlyNumber⟩ := rowNumber_surjective collation unnumbered
    (by decide : 1 ≤ 36 ^ 5) (le_trans (by decide) crowded)
  obtain ⟨late, hlate, hlast, hlateNumber⟩ := rowNumber_surjective collation unnumbered
    (by decide : 1 ≤ 36 ^ 6) crowded
  have hindexed : (tables.updated collation early).indexed =
      (tables.updated collation late).indexed := by
    rw [updated_eq collation unnumbered hearly, updated_eq collation unnumbered hlate, hearlyNumber,
      hlateNumber, assignedNumber_collides]
    exact Prod.ext (hfirst.trans hlast.symm) rfl
  rw [migrated, List.map_map] at hnodup
  have hsame : early = late := List.inj_on_of_nodup_map hnodup hearly hlate hindexed
  rw [hsame, hlateNumber] at hearlyNumber
  exact absurd hearlyNumber (by decide)

theorem not_null : ¬∃ row ∈ (tables.migrated collation).orders, row.publicNumber = none := by
  rintro ⟨_, hmem, hnull⟩
  obtain ⟨row, hrow, rfl⟩ := List.mem_map.mp hmem
  exact updated_numbered collation unnumbered hrow hnull

theorem migrate_crowded {organizationId : String}
    (crowded : 36 ^ 6 ≤ tables.countOrders organizationId) :
    tables.migrate collation = .error .uniqueViolation := by
  unfold migrate
  rw [if_neg (not_null collation unnumbered),
    if_neg (not_nodup_of_crowded collation unnumbered crowded)]

theorem migrate_ok (hcount : ∀ organizationId, tables.countOrders organizationId < 36 ^ 6) :
    tables.migrate collation = .ok (tables.migrated collation) ∧
      (tables.migrated collation).Sequenced := by
  have hcoded := (numbersAsCoded_iff collation unnumbered).mpr hcount
  have hdistinct : ((tables.migrated collation).orders.map NumberedRow.indexed).Nodup := by
    rw [migrated, List.map_map]
    refine List.Nodup.map_on (fun left hleft right hright hindexed => ?_) tables.rows_nodup
    obtain ⟨first, hfirst, hleftNumber⟩ := hcoded left hleft
    obtain ⟨second, hsecond, hrightNumber⟩ := hcoded right hright
    obtain ⟨horganization, hnumber⟩ := Prod.mk.inj hindexed
    rw [hleftNumber, hrightNumber] at hnumber
    rw [← Option.some.inj hnumber] at hsecond
    rw [updated_eq collation unnumbered hleft, updated_eq collation unnumbered hright]
      at horganization
    exact rowNumber_injective collation unnumbered hleft horganization
      (formatOrderNumber_injective hfirst hsecond)
  refine ⟨?_, ?_, hdistinct⟩
  · unfold migrate
    rw [if_neg (not_null collation unnumbered), if_pos hdistinct]
  · intro row hmem
    obtain ⟨before, hbefore, rfl⟩ := List.mem_map.mp hmem
    obtain ⟨number, hformat, hnumber⟩ := hcoded before hbefore
    refine ⟨_, number, Nat.le_add_left .., ?_, hformat, hnumber⟩
    rw [updated_eq collation unnumbered hbefore]
    exact (rowNumber_le collation unnumbered hbefore).trans
      (countOrders_le_migrated _ (List.mem_map_of_mem hbefore))

end Migrated

/-- Numbers are given out at most once, and the migration gives an order the number that the
code has for its position, up to the last number of six digits: so the orders there were and
the orders that follow never collide exactly when no organization has more of them. -/
theorem public_numbers_iff (collation : String → String → Bool) {tables : NumberingTables}
    (unnumbered : tables.Unnumbered) :
    (∀ left right, 1 ≤ left → 1 ≤ right →
      formatOrderNumber left = formatOrderNumber right → left = right) ∧
    (∀ sequence, 1 ≤ sequence →
      (formatOrderNumber sequence = .ok (assignedNumber sequence) ↔ sequence < 36 ^ 6)) ∧
    ((tables.NumbersAsCoded collation ∧
        ∃ after, tables.migrate collation = .ok after ∧ after.NeverCollides) ↔
      ∀ organizationId, tables.countOrders organizationId < 36 ^ 6) := by
  refine ⟨fun left right hleft _ h => ?_, fun sequence hpositive => assignedNumber_iff hpositive, ?_⟩
  · rw [formatOrderNumber_eq hleft] at h
    exact formatOrderNumber_injective (formatOrderNumber_eq hleft) h.symm
  · constructor
    · rintro ⟨hcoded, -⟩
      exact (numbersAsCoded_iff collation unnumbered).mp hcoded
    · intro hcount
      obtain ⟨hmigrate, hsequenced⟩ := migrate_ok collation unnumbered hcount
      exact ⟨(numbersAsCoded_iff collation unnumbered).mpr hcount, _, hmigrate,
        hsequenced.neverCollides⟩

def byText (left right : String) : Bool := left ≤ right

/-- Two organizations, and two orders of one of them that came at one instant. -/
def threeOrders : NumberingTables where
  orders := [⟨"acme", "o2", ⟨5⟩, none⟩, ⟨"acme", "o1", ⟨5⟩, none⟩, ⟨"other", "o1", ⟨0⟩, none⟩]
  keyed := by decide
  counters := .empty

theorem threeOrders_numbered : threeOrders.NumbersAsCoded byText ∧
    ∃ after, threeOrders.migrate byText = .ok after ∧ after.NeverCollides := by
  have hunnumbered : threeOrders.Unnumbered := by
    unfold Unnumbered
    decide
  refine (public_numbers_iff byText hunnumbered).2.2.mpr fun organizationId => ?_
  exact List.countP_le_length.trans_lt (by decide)

/-- An organization with many orders, one an instant. -/
def crowd (size : Nat) : NumberingTables where
  orders := (List.range size).map fun position : Nat => ⟨"acme", toString position, ⟨position⟩, none⟩
  keyed := by
    rw [List.map_map]
    refine List.nodup_range.map fun left right hkey => ?_
    have hid : toString left = toString right := congrArg Prod.snd hkey
    exact padLeft_toString_injective (congrArg (Text.padLeft 0 '0') hid)
  counters := .empty

theorem crowd_unnumbered (size : Nat) : (crowd size).Unnumbered := by
  intro row hrow
  obtain ⟨position, -, rfl⟩ := List.mem_map.mp hrow
  rfl

theorem countOrders_crowd (size : Nat) : (crowd size).countOrders "acme" = size := by
  rw [countOrders, crowd, List.countP_map]
  simp [Function.comp_def]

/-- The last of 36 ^ 6 orders gets the number of an earlier one, and the index refuses them. -/
theorem crowd_collides : (crowd (36 ^ 6)).migrate byText = .error .uniqueViolation ∧
    ∃ row ∈ (crowd (36 ^ 6)).orders, (crowd (36 ^ 6)).rowNumber byText row = 36 ^ 6 ∧
      formatOrderNumber (36 ^ 6) = .ok "X1000000" ∧
      ((crowd (36 ^ 6)).updated byText row).publicNumber = some "X100000" := by
  have hunnumbered := crowd_unnumbered (36 ^ 6)
  have hcount := countOrders_crowd (36 ^ 6)
  refine ⟨migrate_crowded byText hunnumbered hcount.ge, ?_⟩
  obtain ⟨row, hrow, -, hnumber⟩ := rowNumber_surjective byText hunnumbered
    (by decide : 1 ≤ 36 ^ 6) hcount.ge
  have hdigits : base36 (36 ^ 6) = "1000000".toList := by
    have hpower : 36 ^ 6 = 1 * 36 * 36 * 36 * 36 * 36 * 36 := by decide
    rw [hpower, base36_mul (by decide), base36_mul (by decide), base36_mul (by decide),
      base36_mul (by decide), base36_mul (by decide), base36_mul (by decide),
      base36_of_pos (by decide), Nat.div_eq_of_lt (by decide), base36_zero]
    rfl
  refine ⟨row, hrow, hnumber, ?_, ?_⟩
  · rw [formatOrderNumber_eq (by decide), if_neg (by decide), longNumber, hdigits]
    rfl
  · rw [updated_eq byText hunnumbered hrow, hnumber, assignedNumber, if_neg (by decide),
      dispatchCoreBase36_eq, hdigits]
    rfl

end NumberingTables
end DispatchCore.Infrastructure
