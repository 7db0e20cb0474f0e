import ChartScript.Candle.Ring
import Mathlib.Data.Nat.ModEq

/-!
# The candle ring as a bounded list

A ring behaves as the list of its latest candles, newest first, cut at a capacity. The capacity
is the least power of two that the request fits in. `Ring.Represents` is the invariant: the slots
walked back from the head hold the list, and while the ring fills up the next slot is the first
one that is not there yet. Slots depend on the head only modulo the capacity, which divides the
range of the 64-bit count, so nothing changes when the count wraps around.
-/

set_option autoImplicit false

namespace ChartScript

structure IsLeastPower (bound power : Nat) : Prop where
  isPower : ∃ exponent, power = Numeral.twoTo exponent
  enough : bound ≤ power
  least : ∀ exponent, bound ≤ Numeral.twoTo exponent → power ≤ Numeral.twoTo exponent

theorem twoTo_eq_pow (exponent : Nat) : Numeral.twoTo exponent = 2 ^ exponent := rfl

theorem twoTo_pos (exponent : Nat) : 0 < Numeral.twoTo exponent :=
  Nat.two_pow_pos exponent

theorem twoTo_le_twoTo {smaller larger : Nat} (ordered : smaller ≤ larger) :
    Numeral.twoTo smaller ≤ Numeral.twoTo larger :=
  Nat.pow_le_pow_right (by omega) ordered

theorem twoTo_dvd_twoTo {smaller larger : Nat} (ordered : smaller ≤ larger) :
    Numeral.twoTo smaller ∣ Numeral.twoTo larger :=
  Nat.pow_dvd_pow 2 ordered

namespace Ring

theorem isLeastPower_capacityFor (requested : Nat) :
    IsLeastPower (max requested 1) (capacityFor requested) := by
  unfold capacityFor
  by_cases few : requested ≤ 1
  · rw [if_pos few, Nat.max_eq_right few]
    exact ⟨⟨0, rfl⟩, Nat.le_refl 1, fun exponent _ => twoTo_pos exponent⟩
  · rw [if_neg few, Nat.max_eq_left (by omega)]
    have nonzero : requested - 1 ≠ 0 := by omega
    refine ⟨⟨_, rfl⟩, ?_, ?_⟩
    · have below : requested - 1 < Numeral.twoTo ((requested - 1).log2 + 1) :=
        Nat.lt_log2_self
      omega
    · intro exponent enough
      have below : requested - 1 < 2 ^ exponent := by
        rw [← twoTo_eq_pow]
        omega
      exact twoTo_le_twoTo ((Nat.log2_lt nonzero).mpr below)

/-- The capacity is a power of two whose slots a 64-bit word can name. -/
def HasPowerCapacity (ring : Ring) : Prop :=
  ∃ exponent ≤ 63, ring.capacity = Numeral.twoTo exponent

section Slots

variable (ring : Ring) (power : ring.HasPowerCapacity)

include power

theorem capacity_le : ring.capacity ≤ Numeral.twoTo 63 := by
  obtain ⟨exponent, small, same⟩ := power
  rw [same]
  exact twoTo_le_twoTo small

theorem capacity_dvd : ring.capacity ∣ 2 ^ 64 := by
  obtain ⟨exponent, small, same⟩ := power
  rw [same]
  exact twoTo_dvd_twoTo (by omega)

theorem slotOf_eq_mod (count : UInt64) : ring.slotOf count = count.toNat % ring.capacity := by
  obtain ⟨exponent, _, same⟩ := power
  have masked : ring.mask.toNat = 2 ^ exponent - 1 := by
    rw [← twoTo_eq_pow, ← same]
    rfl
  rw [slotOf, UInt64.toNat_and, masked, Nat.and_two_pow_sub_one_eq_mod, same, twoTo_eq_pow]

theorem slotOf_lt (count : UInt64) : ring.slotOf count < ring.capacity := by
  rw [ring.slotOf_eq_mod power]
  exact Nat.mod_lt _ (Nat.succ_pos _)

/-- Going back from the head is going forward, since whole turns of the ring do not count. -/
theorem slotBefore_eq_mod (index : Nat) (inside : index < ring.capacity) :
    ring.slotBefore index = (ring.head.toNat + (ring.capacity - 1 - index)) % ring.capacity := by
  have bounded := ring.capacity_le power
  obtain ⟨turns, whole⟩ := ring.capacity_dvd power
  have limit : Numeral.twoTo 63 < 2 ^ 64 := by decide
  have back : (1 + UInt64.ofNat index).toNat = 1 + index := by
    rw [UInt64.toNat_add, UInt64.toNat_ofNat']
    rw [Nat.mod_eq_of_lt (show index < 2 ^ 64 by omega)]
    exact Nat.mod_eq_of_lt (by simp; omega)
  rw [slotBefore, ring.slotOf_eq_mod power, UInt64.toNat_sub, back,
    Nat.mod_mod_of_dvd _ (ring.capacity_dvd power)]
  have positive : 0 < turns := by
    apply Nat.pos_of_ne_zero
    rintro rfl
    omega
  obtain ⟨others, rfl⟩ := Nat.exists_eq_succ_of_ne_zero positive.ne'
  have regrouped : 2 ^ 64 - (1 + index) + ring.head.toNat =
      ring.head.toNat + (ring.capacity - 1 - index) + ring.capacity * others := by
    rw [whole, Nat.mul_succ]
    omega
  rw [regrouped, Nat.add_mul_mod_self_left]

theorem slotBefore_inj {first second : Nat} (firstInside : first < ring.capacity)
    (secondInside : second < ring.capacity)
    (same : ring.slotBefore first = ring.slotBefore second) : first = second := by
  rw [ring.slotBefore_eq_mod power first firstInside,
    ring.slotBefore_eq_mod power second secondInside] at same
  have forward := Nat.ModEq.add_left_cancel' _ same
  rw [Nat.ModEq, Nat.mod_eq_of_lt (by omega), Nat.mod_eq_of_lt (by omega)] at forward
  omega

theorem slotOf_head : ring.slotOf ring.head = ring.slotBefore (ring.capacity - 1) := by
  have positive : 0 < ring.capacity := Nat.succ_pos _
  rw [ring.slotOf_eq_mod power, ring.slotBefore_eq_mod power _ (by omega), Nat.sub_self,
    Nat.add_zero]

theorem slotOf_succ (below : ring.slotOf ring.head + 1 < ring.capacity) :
    ring.slotOf (ring.head + 1) = ring.slotOf ring.head + 1 := by
  rw [ring.slotOf_eq_mod power] at below ⊢
  rw [ring.slotOf_eq_mod power, UInt64.toNat_add, Nat.mod_mod_of_dvd _ (ring.capacity_dvd power),
    Nat.add_mod, UInt64.toNat_one, Nat.mod_eq_of_lt (show 1 < ring.capacity by omega)]
  exact Nat.mod_eq_of_lt below

end Slots

inductive Operation where
  | push (candle : Candle)
  | updateLatest (candle : Candle)
  | extend (candles : List Candle)
  | clear

inductive Answer where
  | evicted (candle : Option Candle)
  | updated (done : Bool)
  | done

def perform (ring : Ring) : Operation → Ring × Answer
  | .push candle => ((ring.push candle).1, .evicted (ring.push candle).2)
  | .updateLatest candle => ((ring.updateLatest candle).1, .updated (ring.updateLatest candle).2)
  | .extend candles => (ring.extend candles, .done)
  | .clear => (ring.clear, .done)

def performAll (ring : Ring) : List Operation → Ring × List Answer
  | [] => (ring, [])
  | operation :: rest =>
    let (next, answer) := ring.perform operation
    let (final, answers) := next.performAll rest
    (final, answer :: answers)

end Ring

/-! The same operations on the latest candles themselves, newest first. -/

namespace Latest

/-- Puts a candle in front. The oldest one goes where the capacity is reached. -/
def push (capacity : Nat) (latest : List Candle) (candle : Candle) :
    List Candle × Option Candle :=
  if latest.length < capacity then (candle :: latest, none)
  else (candle :: latest.dropLast, latest.getLast?)

def updateLatest (latest : List Candle) (candle : Candle) : List Candle × Bool :=
  match latest with
  | [] => ([], false)
  | _ :: older => (candle :: older, true)

def extend (capacity : Nat) (latest : List Candle) (candles : List Candle) : List Candle :=
  candles.foldl (fun latest candle => (push capacity latest candle).1) latest

def perform (capacity : Nat) (latest : List Candle) :
    Ring.Operation → List Candle × Ring.Answer
  | .push candle => ((push capacity latest candle).1, .evicted (push capacity latest candle).2)
  | .updateLatest candle =>
    ((updateLatest latest candle).1, .updated (updateLatest latest candle).2)
  | .extend candles => (extend capacity latest candles, .done)
  | .clear => ([], .done)

def performAll (capacity : Nat) (latest : List Candle) :
    List Ring.Operation → List Candle × List Ring.Answer
  | [] => (latest, [])
  | operation :: rest =>
    let (next, answer) := perform capacity latest operation
    let (final, answers) := performAll capacity next rest
    (final, answer :: answers)

end Latest

namespace Ring

/-! ## The invariant -/

/-- A ring that holds a list of candles, newest first. -/
structure Represents (ring : Ring) (latest : List Candle) : Prop where
  power : ring.HasPowerCapacity
  size : ring.size = latest.length
  slots : ring.slots.size = latest.length
  fits : latest.length ≤ ring.capacity
  /-- While the ring fills up, the next slot is the first missing one. -/
  filling : latest.length < ring.capacity → ring.slotOf ring.head = latest.length
  held : ∀ index < latest.length, ring.slots[ring.slotBefore index]? = latest[index]?

theorem withCapacity_represents (requested : Nat) (representable : requested ≤ Numeral.twoTo 63) :
    (withCapacity requested).Represents [] ∧
      (withCapacity requested).capacity = capacityFor requested := by
  obtain ⟨⟨exponent, isPower⟩, _, least⟩ := isLeastPower_capacityFor requested
  have bounded : capacityFor requested ≤ Numeral.twoTo 63 :=
    least 63 (Nat.max_le.mpr ⟨representable, by decide⟩)
  have positive : 0 < capacityFor requested := by
    rw [isPower]
    exact twoTo_pos exponent
  have limit : Numeral.twoTo 63 < 2 ^ 64 := by decide
  have capacity : (withCapacity requested).capacity = capacityFor requested := by
    show (UInt64.ofNat (capacityFor requested - 1)).toNat + 1 = capacityFor requested
    rw [UInt64.toNat_ofNat', Nat.mod_eq_of_lt (by omega)]
    omega
  have small : exponent ≤ 63 := by
    rw [isPower] at bounded
    exact (Nat.pow_le_pow_iff_right (by omega)).mp bounded
  have power : (withCapacity requested).HasPowerCapacity :=
    ⟨exponent, small, capacity.trans isPower⟩
  refine ⟨⟨power, rfl, rfl, Nat.zero_le _, fun _ => ?_, ?_⟩, capacity⟩
  · rw [slotOf_eq_mod _ power]
    exact Nat.zero_mod _
  · intro index inside
    exact absurd inside (Nat.not_lt_zero _)

section Steps

variable (ring : Ring) (latest : List Candle) (candle : Candle)

theorem Represents.slotBefore_lt_size (represents : ring.Represents latest) (index : Nat)
    (inside : index < latest.length) : ring.slotBefore index < ring.slots.size := by
  have found := represents.held index inside
  rw [List.getElem?_eq_getElem inside] at found
  exact (Array.getElem?_eq_some_iff.mp found).1

theorem push_of_growing (growing : ring.slots.size < ring.capacity) :
    ring.push candle = ({ ring with
      slots := ring.slots.push candle, head := ring.head + 1, size := ring.size + 1 }, none) := by
  rw [push, if_pos growing]

theorem push_of_grown (grown : ¬ ring.slots.size < ring.capacity) :
    ring.push candle = ({ ring with
      slots := ring.slots.setIfInBounds (ring.slotOf ring.head) candle, head := ring.head + 1 },
      ring.slots[ring.slotOf ring.head]?) := by
  rw [push, if_neg grown]

theorem mask_push : (ring.push candle).1.mask = ring.mask := by
  unfold push
  split <;> rfl

theorem head_push : (ring.push candle).1.head = ring.head + 1 := by
  unfold push
  split <;> rfl

theorem capacity_push : (ring.push candle).1.capacity = ring.capacity := by
  rw [capacity, mask_push, capacity]

theorem slotOf_push (count : UInt64) :
    (ring.push candle).1.slotOf count = ring.slotOf count := by
  rw [slotOf, mask_push, slotOf]

theorem slotBefore_push_zero : (ring.push candle).1.slotBefore 0 = ring.slotOf ring.head := by
  rw [slotBefore, slotOf_push, head_push]
  congr 1
  grind

/-- A push moves every candle one bar further back. -/
theorem slotBefore_push_succ (index : Nat) :
    (ring.push candle).1.slotBefore (index + 1) = ring.slotBefore index := by
  rw [slotBefore, slotOf_push, head_push, slotBefore, UInt64.ofNat_add]
  congr 1
  grind

theorem push_of_filling (represents : ring.Represents latest)
    (room : latest.length < ring.capacity) :
    (ring.push candle).1.Represents (candle :: latest) ∧ (ring.push candle).2 = none := by
  have pushed := ring.push_of_growing candle (represents.slots ▸ room)
  have slots : (ring.push candle).1.slots = ring.slots.push candle := by rw [pushed]
  have capacity := ring.capacity_push candle
  refine ⟨⟨?_, ?_, ?_, capacity ▸ room, ?_, ?_⟩, by rw [pushed]⟩
  · obtain ⟨exponent, small, same⟩ := represents.power
    exact ⟨exponent, small, capacity.trans same⟩
  · rw [pushed, List.length_cons, ← represents.size]
  · rw [slots, Array.size_push, represents.slots, List.length_cons]
  · intro below
    rw [capacity] at below
    have here := represents.filling room
    rw [head_push, slotOf_push, ring.slotOf_succ represents.power (here ▸ below), here]
    rfl
  · intro index inside
    cases index with
    | zero =>
      rw [slots, slotBefore_push_zero, represents.filling room, ← represents.slots]
      exact Array.getElem?_push_size
    | succ index =>
      have older : index < latest.length := Nat.lt_of_succ_lt_succ inside
      have kept := represents.slotBefore_lt_size ring latest index older
      rw [slots, slotBefore_push_succ, Array.getElem?_push_lt kept,
        ← Array.getElem?_eq_getElem kept]
      exact represents.held index older

/-- Where the ring is full, the newest candle overwrites the oldest. -/
theorem push_of_full (represents : ring.Represents latest)
    (full : latest.length = ring.capacity) :
    (ring.push candle).1.Represents (candle :: latest.dropLast) ∧
      (ring.push candle).2 = latest.getLast? := by
  have pushed := ring.push_of_grown candle (by rw [represents.slots, full]; exact Nat.lt_irrefl _)
  have slots : (ring.push candle).1.slots =
      ring.slots.setIfInBounds (ring.slotOf ring.head) candle := by rw [pushed]
  have capacity := ring.capacity_push candle
  have positive : 0 < ring.capacity := Nat.succ_pos _
  have length : (candle :: latest.dropLast).length = latest.length := by
    rw [List.length_cons, List.length_dropLast]
    omega
  have oldest := ring.slotOf_head represents.power
  refine ⟨⟨?_, ?_, ?_, ?_, ?_, ?_⟩, ?_⟩
  · obtain ⟨exponent, small, same⟩ := represents.power
    exact ⟨exponent, small, capacity.trans same⟩
  · rw [pushed, length, ← represents.size]
  · rw [slots, Array.size_setIfInBounds, length, represents.slots]
  · rw [length, capacity]
    exact represents.fits
  · intro below
    rw [length, capacity, full] at below
    exact absurd below (Nat.lt_irrefl _)
  · intro index inside
    cases index with
    | zero =>
      have headInside : ring.slotOf ring.head < ring.slots.size := by
        rw [represents.slots, full]
        exact ring.slotOf_lt represents.power _
      rw [slots, slotBefore_push_zero]
      exact Array.getElem?_setIfInBounds_self_of_lt headInside
    | succ index =>
      rw [length] at inside
      have apart : ring.slotOf ring.head ≠ ring.slotBefore index := by
        rw [oldest]
        intro same
        have := ring.slotBefore_inj represents.power (by omega) (by omega) same
        omega
      rw [slots, slotBefore_push_succ, Array.getElem?_setIfInBounds_ne apart,
        represents.held index (by omega), List.getElem?_cons_succ, List.getElem?_dropLast,
        if_pos (by omega)]
  · rw [pushed, oldest, represents.held _ (by omega), ← full, List.getLast?_eq_getElem?]

theorem push_represents (represents : ring.Represents latest) :
    (ring.push candle).1.Represents (Latest.push ring.capacity latest candle).1 ∧
      (ring.push candle).2 = (Latest.push ring.capacity latest candle).2 := by
  by_cases room : latest.length < ring.capacity
  · rw [Latest.push, if_pos room]
    exact ring.push_of_filling latest candle represents room
  · rw [Latest.push, if_neg room]
    exact ring.push_of_full latest candle represents
      (Nat.le_antisymm represents.fits (Nat.le_of_not_lt room))

theorem updateLatest_represents (represents : ring.Represents latest) :
    (ring.updateLatest candle).1.Represents (Latest.updateLatest latest candle).1 ∧
      (ring.updateLatest candle).2 = (Latest.updateLatest latest candle).2 := by
  cases latest with
  | nil =>
    have empty : ring.isEmpty = true := decide_eq_true represents.size
    rw [updateLatest, if_pos empty]
    exact ⟨represents, rfl⟩
  | cons newest older =>
    have filled : ¬ ring.isEmpty = true := by
      rw [isEmpty, represents.size, decide_eq_true_eq]
      exact Nat.succ_ne_zero _
    rw [updateLatest, if_neg filled]
    have slot : ring.slotOf (ring.head - 1) = ring.slotBefore 0 := rfl
    refine ⟨⟨represents.power, represents.size, ?_, represents.fits, represents.filling, ?_⟩, rfl⟩
    · rw [Array.size_setIfInBounds, represents.slots]
      rfl
    · intro index inside
      have kept := represents.slotBefore_lt_size ring _ index inside
      rw [slot]
      cases index with
      | zero => exact Array.getElem?_setIfInBounds_self_of_lt kept
      | succ index =>
        have apart : ring.slotBefore 0 ≠ ring.slotBefore (index + 1) := by
          intro same
          have bounded := represents.fits
          have := ring.slotBefore_inj represents.power (Nat.succ_pos _)
            (Nat.lt_of_lt_of_le inside bounded) same
          omega
        exact (Array.getElem?_setIfInBounds_ne apart).trans (represents.held _ inside)

theorem clear_represents (represents : ring.Represents latest) : ring.clear.Represents [] := by
  refine ⟨represents.power, rfl, rfl, Nat.zero_le _, fun _ => ?_, ?_⟩
  · exact (ring.slotOf_eq_mod represents.power 0).trans (Nat.zero_mod _)
  · intro index inside
    exact absurd inside (Nat.not_lt_zero _)

theorem capacity_updateLatest : (ring.updateLatest candle).1.capacity = ring.capacity := by
  unfold updateLatest
  split <;> rfl

end Steps

theorem extend_represents (ring : Ring) (latest candles : List Candle)
    (represents : ring.Represents latest) :
    (ring.extend candles).Represents (Latest.extend ring.capacity latest candles) ∧
      (ring.extend candles).capacity = ring.capacity := by
  induction candles generalizing ring latest with
  | nil => exact ⟨represents, rfl⟩
  | cons candle rest ih =>
    have step := (ring.push_represents latest candle represents).1
    have capacity := ring.capacity_push candle
    have later := ih (ring.push candle).1 _ step
    rw [capacity] at later
    exact later

/-! ## Histories -/

/-- One operation does to the ring what it does to the list, and answers the same. -/
theorem perform_represents (ring : Ring) (latest : List Candle) (operation : Operation)
    (represents : ring.Represents latest) :
    (ring.perform operation).1.Represents (Latest.perform ring.capacity latest operation).1 ∧
      (ring.perform operation).2 = (Latest.perform ring.capacity latest operation).2 ∧
      (ring.perform operation).1.capacity = ring.capacity := by
  cases operation with
  | push candle =>
    obtain ⟨next, evicted⟩ := ring.push_represents latest candle represents
    exact ⟨next, congrArg Answer.evicted evicted, ring.capacity_push candle⟩
  | updateLatest candle =>
    obtain ⟨next, updated⟩ := ring.updateLatest_represents latest candle represents
    exact ⟨next, congrArg Answer.updated updated, ring.capacity_updateLatest candle⟩
  | extend candles =>
    obtain ⟨next, capacity⟩ := ring.extend_represents latest candles represents
    exact ⟨next, rfl, capacity⟩
  | clear => exact ⟨ring.clear_represents latest represents, rfl, rfl⟩

theorem performAll_represents (ring : Ring) (latest : List Candle) (operations : List Operation)
    (represents : ring.Represents latest) :
    (ring.performAll operations).1.Represents
        (Latest.performAll ring.capacity latest operations).1 ∧
      (ring.performAll operations).2 = (Latest.performAll ring.capacity latest operations).2 ∧
      (ring.performAll operations).1.capacity = ring.capacity := by
  induction operations generalizing ring latest with
  | nil => exact ⟨represents, rfl, rfl⟩
  | cons operation rest ih =>
    obtain ⟨next, answer, capacity⟩ := ring.perform_represents latest operation represents
    obtain ⟨final, answers, finalCapacity⟩ := ih _ _ next
    rw [capacity] at final answers finalCapacity
    exact ⟨final, congrArg₂ List.cons answer answers, finalCapacity⟩

theorem Represents.candle? {ring : Ring} {latest : List Candle}
    (represents : ring.Represents latest) (index : Nat) : ring.candle? index = latest[index]? := by
  unfold Ring.candle?
  rw [represents.size]
  by_cases inside : index < latest.length
  · rw [if_pos inside]
    exact represents.held index inside
  · rw [if_neg inside]
    exact (List.getElem?_eq_none (Nat.le_of_not_lt inside)).symm

theorem Represents.window {ring : Ring} {latest : List Candle}
    (represents : ring.Represents latest) : ring.window = latest := by
  have view : ring.candle? = (latest[·]?) := funext represents.candle?
  rw [Ring.window, represents.size, view]
  clear represents view
  induction latest with
  | nil => rfl
  | cons newest older ih =>
    rw [List.length_cons, List.range_succ_eq_map]
    show newest :: List.filterMap _ (List.map Nat.succ _) = newest :: older
    rw [List.filterMap_map]
    exact congrArg (newest :: ·) ih

/-- Every slot that an operation or a look-up goes to is there. -/
structure SlotsInRange (ring : Ring) : Prop where
  overwritten : ¬ ring.slots.size < ring.capacity → ring.slotOf ring.head < ring.slots.size
  updated : ring.isEmpty = false → ring.slotOf (ring.head - 1) < ring.slots.size
  read : ∀ index < ring.size, ring.slotBefore index < ring.slots.size

theorem Represents.slotsInRange {ring : Ring} {latest : List Candle}
    (represents : ring.Represents latest) : ring.SlotsInRange := by
  refine ⟨?_, ?_, ?_⟩
  · intro grown
    exact Nat.lt_of_lt_of_le (ring.slotOf_lt represents.power _) (Nat.le_of_not_lt grown)
  · intro filled
    have nonempty : 0 < latest.length := by
      rw [isEmpty, represents.size, decide_eq_false_iff_not] at filled
      exact Nat.pos_of_ne_zero filled
    exact represents.slotBefore_lt_size ring latest 0 nonempty
  · intro index inside
    rw [represents.size] at inside
    exact represents.slotBefore_lt_size ring latest index inside

/-- After any history a ring is the list of its latest candles: it has answered every operation
as the list does, holds what the list holds, and names no slot that is not there. -/
theorem performAll_as_bounded_list (requested : Nat) (operations : List Operation)
    (representable : requested ≤ Numeral.twoTo 63) :
    ∃ capacity, IsLeastPower (max requested 1) capacity ∧
      let ring := ((withCapacity requested).performAll operations).1
      let latest := (Latest.performAll capacity [] operations).1
      ((withCapacity requested).performAll operations).2 =
          (Latest.performAll capacity [] operations).2 ∧
        ring.capacity = capacity ∧ ring.size = latest.length ∧ latest.length ≤ capacity ∧
        (∀ index, ring.candle? index = latest[index]?) ∧ ring.SlotsInRange := by
  obtain ⟨empty, capacity⟩ := withCapacity_represents requested representable
  refine ⟨capacityFor requested, isLeastPower_capacityFor requested, ?_⟩
  obtain ⟨final, answers, finalCapacity⟩ :=
    performAll_represents (withCapacity requested) [] operations empty
  rw [capacity] at final answers finalCapacity
  exact ⟨answers, finalCapacity, final.size, finalCapacity ▸ final.fits, final.candle?,
    final.slotsInRange⟩

/-- A ring for three candles has room for four; of five it gives the first one back. -/
theorem performAll_five_candles :
    3 ≤ Numeral.twoTo 63 ∧
      let first : Candle := ⟨60, 1.0, 2.0, 0.5, 1.5, 10.0⟩
      let second : Candle := ⟨120, 1.5, 2.5, 1.0, 2.0, 20.0⟩
      let result := (withCapacity 3).performAll
        [.extend [first, second, first, second], .push first, .updateLatest second]
      result.2 = [.done, .evicted (some first), .updated true] ∧ result.1.size = 4 ∧
        result.1.candle? 0 = some second ∧ result.1.candle? 3 = some second ∧
        result.1.candle? 4 = none ∧ result.1.SlotsInRange := by
  refine ⟨by decide, ?_⟩
  intro first second result
  obtain ⟨capacity, -, answers, same, size, -, held, inRange⟩ :=
    performAll_as_bounded_list 3
      [.extend [first, second, first, second], .push first, .updateLatest second] (by decide)
  obtain rfl : 4 = capacity := same
  exact ⟨answers, size, held 0, held 3, held 4, inRange⟩

end Ring

end ChartScript
