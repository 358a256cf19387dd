import Mathlib.Logic.Function.Basic
import SpatialColumns.Proofs.Column.DenseUnion
import SpatialColumns.Proofs.Column.UnionArms
import SpatialColumns.Proofs.Column.Validity

/-!
# Dense unions, drafted entry by entry

The builder of a dense union keeps entries and no values. Whoever drafts a union keeps the
arms beside it: an entry is recorded at the length that its arm has, and then the value is
appended to the arm. Each step keeps the two in agreement, so after any number of them every
entry points at its own value, in whatever order the arms were taken.
-/

namespace SpatialColumns

open DenseUnion

/-- The entries of a union under construction, and the values of its `k` arms. -/
structure UnionDraft (k : Nat) (α : Type) where
  entries : UnionEntries
  values : Fin k → List α

namespace UnionDraft

variable {k : Nat} {α : Type}

/-- The type id of an arm, which comes behind the null markers. -/
def armId (arm : Fin k) : Int8 := Int8.ofNat (arm + 1)

/-- The type id of the entry of an item: an absent one, or a value for an arm. -/
def typeIdOf : Option (Fin k × α) → Int8
  | none => nullMarkersTypeId
  | some (arm, _) => armId arm

/-- The value of an item that goes to the given arm. -/
def select (arm : Fin k) : Option (Fin k × α) → Option α
  | none => none
  | some (target, value) => if target = arm then some value else none

def start (capacity : Nat) : UnionDraft k α := ⟨.withCapacity capacity, fun _ => []⟩

/-- Records the entry of an item, and then appends its value to its arm. -/
def add (d : UnionDraft k α) : Option (Fin k × α) → Except ColumnError Unit × UnionDraft k α
  | none =>
    let (result, entries) := d.entries.appendNull
    (result, { d with entries })
  | some (arm, value) =>
    match d.entries.append (armId arm) (d.values arm).length with
    | (.error e, entries) => (.error e, { d with entries })
    | (.ok (), entries) =>
      (.ok (), ⟨entries, Function.update d.values arm (d.values arm ++ [value])⟩)

/-- Adds items up to the first one that is refused. -/
def addAll (d : UnionDraft k α) :
    List (Option (Fin k × α)) → Except ColumnError Unit × UnionDraft k α
  | [] => (.ok (), d)
  | item :: items =>
    match d.add item with
    | (.error e, d) => (.error e, d)
    | (.ok (), d) => d.addAll items

/-! ## Type ids -/

theorem toInt_armId (hk : k ≤ 126) (arm : Fin k) : (armId arm).toInt = arm + 1 :=
  Int8.toInt_ofNat_of_lt (by omega)

theorem armId_ne (hk : k ≤ 126) (arm : Fin k) : armId arm ≠ nullMarkersTypeId := by
  intro h
  have hint := toInt_armId hk arm
  rw [h] at hint
  have hzero : nullMarkersTypeId.toInt = 0 := rfl
  omega

theorem armId_inj (hk : k ≤ 126) {a b : Fin k} : armId a = armId b ↔ a = b := by
  refine ⟨fun h => ?_, congrArg armId⟩
  have ha := toInt_armId hk a
  have hb := toInt_armId hk b
  rw [h] at ha
  omega

theorem typeIdOf_eq_armId (hk : k ≤ 126) (arm : Fin k) (item : Option (Fin k × α)) :
    typeIdOf item = armId arm ↔ (select arm item).isSome = true := by
  rcases item with _ | ⟨target, value⟩
  · simp [typeIdOf, select, (armId_ne hk arm).symm]
  · simp [typeIdOf, select, armId_inj hk]

/-! ## The draft of a list of items -/

/-- The draft that was given a list of items. -/
def holding (items : List (Option (Fin k × α))) : UnionDraft k α :=
  ⟨.holding (items.map typeIdOf), fun arm => items.filterMap (select arm)⟩

/-- Before a value is appended, its arm has as many values as there are entries of that arm. -/
theorem length_values_holding (hk : k ≤ 126) (items : List (Option (Fin k × α))) (arm : Fin k) :
    ((holding items).values arm).length = (items.map typeIdOf).count (armId arm) := by
  rw [← length_slotsOf (typeIdOf_eq_armId hk arm), slotsOf, List.length_map]
  rfl

/-- An item is added as long as an offset can count the items before it. -/
theorem add_holding (hk : k ≤ 126) {items : List (Option (Fin k × α))}
    (item : Option (Fin k × α)) (hlength : items.length ≤ maxOffset) :
    (holding items).add item = (.ok (), holding (items ++ [item])) := by
  have hroom : Countable (items.map typeIdOf) := countable_map hlength
  -- The entry is recorded at the length of its arm, which is the number of entries of that arm.
  rcases item with _ | ⟨arm, value⟩
  · have happend : (holding items).entries.appendNull =
        (.ok (), (holding items).entries.recordNull) :=
      UnionEntries.appendNull_of_le_maxOffset (hroom nullMarkersTypeId)
    have hentry : (holding items).entries.recordNull = (holding (items ++ [none])).entries := by
      simpa [holding, typeIdOf] using UnionEntries.recordNull_holding (items.map typeIdOf)
    have hvalues : (holding items).values = (holding (items ++ [none])).values := by
      funext arm
      simp [holding, List.filterMap_append, select]
    simp only [add, happend, hentry, hvalues]
  · have hcount : ((holding items).values arm).length ≤ maxOffset := by
      rw [length_values_holding hk]
      exact hroom (armId arm)
    have happend := (holding items).entries.append_of_le_maxOffset (armId arm) hcount
    have hentry : (holding items).entries.record (armId arm) ((holding items).values arm).length =
        (holding (items ++ [some (arm, value)])).entries := by
      rw [length_values_holding hk]
      simpa [holding, typeIdOf] using
        UnionEntries.record_holding (items.map typeIdOf) (armId_ne hk arm)
    have hvalues : Function.update (holding items).values arm
        ((holding items).values arm ++ [value]) =
          (holding (items ++ [some (arm, value)])).values := by
      funext other
      by_cases hother : other = arm
      · subst hother
        simp [holding, select]
      · simp [holding, select, Function.update_of_ne hother, Ne.symm hother]
    simp only [add, happend, hentry, hvalues]

/-- All items are added, whatever arms they go to. -/
theorem addAll_holding (hk : k ≤ 126) (items more : List (Option (Fin k × α)))
    (hlength : items.length + more.length ≤ maxOffset) :
    (holding items).addAll more = (.ok (), holding (items ++ more)) := by
  -- On what is still to be added: the draft is at every step the one that holds what was added.
  induction more generalizing items with
  | nil => simp [addAll]
  | cons item more ih =>
      rw [List.length_cons] at hlength
      have hrest : (items ++ [item]).length + more.length ≤ maxOffset := by
        rw [List.length_append, List.length_singleton]
        omega
      rw [addAll, add_holding hk item (by omega)]
      simpa using ih (items ++ [item]) hrest

/-! ## Finishing and reading -/

theorem typeIds_holding (items : List (Option (Fin k × α))) :
    (holding items).entries.typeIds.toList = items.map typeIdOf := rfl

/-- The offset of an entry is the number of earlier entries of its type id. -/
theorem offsets_holding {items : List (Option (Fin k × α))} (hlength : items.length ≤ maxOffset) :
    (holding items).entries.offsets.toList.map Int32.toInt = items.mapIdx fun entry item =>
      (((items.take entry).map typeIdOf).count (typeIdOf item) : Int) := by
  apply List.ext_getElem
  · simp [holding, UnionEntries.holding]
  · intro entry hoffset hitem
    have hlt : entry < items.length := by simpa using hitem
    have hcount : ((items.take entry).map typeIdOf).count (typeIdOf items[entry]) < 2 ^ 31 := by
      calc
        _ ≤ ((items.take entry).map typeIdOf).length := List.count_le_length
        _ ≤ items.length := by simp
        _ < 2 ^ 31 := Nat.lt_succ_of_le hlength
    have hrecorded := getElem_offsetsOf (items.map typeIdOf) (by simpa using hlt)
      (by simpa using hlt)
    rw [List.getElem_map, ← List.map_take] at hrecorded
    rw [List.getElem_map, List.getElem_mapIdx, ← Int32.toInt_ofNat_of_lt hcount]
    exact congrArg Int32.toInt hrecorded

theorem count_nullMarkers (hk : k ≤ 126) (items : List (Option (Fin k × α))) :
    (items.map typeIdOf).count nullMarkersTypeId = items.countP Option.isNone := by
  rw [List.count, List.countP_map]
  congr 1
  funext item
  rcases item with _ | ⟨arm, value⟩
  · rfl
  · simp [typeIdOf, armId_ne hk arm]

/-- Children of the lengths of the arms, whose parts fit together and can be counted. -/
structure Children (d : UnionDraft k α) (children : List Column) : Prop where
  lengths : children.map Column.length = List.ofFn fun arm => (d.values arm).length
  aligned : ∀ child ∈ children, child.Throughout Column.Aligned
  countable : ∀ child ∈ children, child.Throughout fun part => part.length ≤ Size.limit

theorem countsEntries_children {fields : List Field} (hk : fields.length ≤ 126)
    {items : List (Option (Fin fields.length × α))} (hlength : items.length ≤ maxOffset)
    {children : List Column} (h : (holding items).Children children) :
    List.Forall₂ (Column.CountsEntries (items.map typeIdOf)) (arms fields)
      (.null ((items.map typeIdOf).count nullMarkersTypeId) :: children) := by
  have hcount (typeId : Int8) : (items.map typeIdOf).count typeId ≤ maxOffset :=
    countable_map hlength typeId
  have hchildren : children.length = fields.length := by
    simpa using congrArg List.length h.lengths
  rw [List.forall₂_iff_get]
  refine ⟨by simp [length_arms hk, hchildren], fun arm harm hchild => ?_⟩
  rw [List.get_eq_getElem, List.get_eq_getElem,
    getElem_arms hk harm (by rwa [List.length_cons, ← length_arms hk])]
  cases arm with
  | zero => exact ⟨rfl, hcount _⟩
  | succ arm =>
      have hlt : arm < children.length := Nat.lt_of_succ_lt_succ hchild
      have hvalues : children[arm].length = (items.map typeIdOf).count (Int8.ofNat (arm + 1)) := by
        have hlengths := List.getElem_of_eq h.lengths (by rwa [List.length_map])
        rwa [List.getElem_map, List.getElem_ofFn, length_values_holding hk] at hlengths
      exact ⟨hvalues, hvalues ▸ hcount _⟩

/-- The type id of an item is that of the null markers or of an arm behind them. -/
theorem typeIdOf_mem_arms {fields : List Field} (hk : fields.length ≤ 126)
    (item : Option (Fin fields.length × α)) : typeIdOf item ∈ (arms fields).map (·.1) := by
  have hmem {arm : Nat} (harm : arm < fields.length + 1) :
      Int8.ofNat arm ∈ (arms fields).map (·.1) := by
    have hlt : arm < (arms fields).length := by rwa [length_arms hk]
    exact List.mem_map.mpr
      ⟨(arms fields)[arm], List.getElem_mem hlt, by rw [getElem_arms hk hlt harm]⟩
  rcases item with _ | ⟨arm, _⟩
  · exact hmem (Nat.succ_pos _)
  · exact hmem (Nat.succ_lt_succ arm.isLt)

/-- The entries and the children of the arms make up a union, to which the null markers add as
many slots as there are absent items. -/
theorem finish_holding {fields : List Field} (hk : fields.length ≤ 126)
    {items : List (Option (Fin fields.length × α))} (hlength : items.length ≤ maxOffset)
    {children : List Column} (h : (holding items).Children children) :
    ∃ whole, List.Forall₂ (fun child part => child.fitted? = some part) children whole ∧
      (holding items).entries.finish (arms fields) children =
        (.ok (.union (arms fields) .dense (items.map typeIdOf) (offsetsOf (items.map typeIdOf))
          (.null (items.countP Option.isNone) :: whole)), {}) := by
  obtain ⟨whole, hwhole⟩ := Column.exists_cutAll?_of_aligned none children
    fun child hchild => ⟨h.aligned child hchild, h.countable child hchild, by simp⟩
  have hids : ∀ typeId ∈ items.map typeIdOf, typeId ∈ (arms fields).map (·.1) := by
    rintro _ hmem
    obtain ⟨item, -, rfl⟩ := List.mem_map.mp hmem
    exact typeIdOf_mem_arms hk item
  have hcut : Column.cutAll? none (.null (items.countP Option.isNone) :: children) =
      some (.null (items.countP Option.isNone) :: whole) := by
    simp [Column.cutAll?, hwhole]
  have hunion := Column.union?_of_countsEntries (count_nullMarkers hk items ▸
    countsEntries_children hk hlength h) hids hcut
  refine ⟨whole, Column.fitted?_of_cutAll? hwhole, ?_⟩
  rw [holding, UnionEntries.finish_holding, count_nullMarkers hk, hunion]
  rfl

/-- Resolved against the values of the arms, the entries give back all items. -/
theorem unionValues_holding (hk : k ≤ 126) {items : List (Option (Fin k × α))}
    (hlength : items.length ≤ maxOffset) {name : String}
    {resolve : Int8 → Nat → Option (Except DecodeError α)}
    (hresolve : ∀ arm slot, resolve (armId arm) slot =
      some (Column.armValue (((holding items).values arm).map some).toArray slot name)) :
    Column.unionValues name (Column.unionEntries .dense (items.map typeIdOf)
      (offsetsOf (items.map typeIdOf))) resolve = .ok (items.map (Option.map (·.2))) := by
  refine Column.unionValues_of_resolve (countable_map hlength) rfl
    (fun item => armId_ne hk item.1) ?_
  rintro entry hentry ⟨arm, value⟩ hitem
  have hvalue : select arm items[entry] = some value := by simp [hitem, select]
  have hfound := armValue_slotsOf (typeIdOf_eq_armId hk arm) hentry hvalue name
  rw [typeIdOf, hresolve, ← hfound]
  rfl

/-- A union that is drafted from items over finished children: the items are added one after
the other, and the entries that are left make up the union with the children. -/
def Drafts (items : List (Option (Fin k × α))) (fields : List Field) (children : List Column)
    (made : Column) : Prop :=
  ∀ capacity, ∃ draft : UnionDraft k α, (start capacity).addAll items = (.ok (), draft) ∧
    draft.entries.finish (arms fields) children = (.ok made, {})

/-- Values as items, each for the arm that it goes to. -/
def tagged (tag : α → Fin k) (values : List (Option α)) : List (Option (Fin k × α)) :=
  values.map (Option.map fun value => (tag value, value))

section Tagged

variable {tag : α → Fin k} {idOf : Option α → Int8}
  (hid : ∀ value : Option α, typeIdOf (value.map fun value => (tag value, value)) = idOf value)

include hid

theorem typeIds_tagged (values : List (Option α)) :
    (tagged tag values).map typeIdOf = values.map idOf := by
  rw [tagged, List.map_map]
  exact List.map_congr_left fun value _ => hid value

theorem count_nullMarkers_tagged (hk : k ≤ 126) (values : List (Option α)) :
    (values.map idOf).count nullMarkersTypeId = values.countP Option.isNone := by
  rw [← typeIds_tagged hid, count_nullMarkers hk, tagged, List.countP_map]
  congr 1
  funext value
  cases value <;> rfl

/-- What is made of the type ids of values is drafted from the values. -/
theorem drafts_of_union? (hk : k ≤ 126) {values : List (Option α)}
    (hlength : values.length ≤ maxOffset) {fields : List Field} {children : List Column}
    {made : Column}
    (h : Column.union? (arms fields) .dense (values.map idOf) (offsetsOf (values.map idOf))
      (.null ((values.map idOf).count nullMarkersTypeId) :: children) = .ok made) :
    Drafts (tagged tag values) fields children made := by
  intro capacity
  refine ⟨holding (tagged tag values), addAll_holding hk [] _ (by simpa [tagged] using hlength), ?_⟩
  rw [holding, typeIds_tagged hid, UnionEntries.finish_holding, h]
  rfl

end Tagged

end UnionDraft

end SpatialColumns
