import Mathlib
import Runbook.Plan

/-! The times of a plan. A number that is read from a plan is never undefined: its digits give a
number, and no step that scales it makes an undefined value of one. So every time is either
positive or at most zero. -/
namespace Runbook

namespace Json.Number

open Float.Model Float.Model.UnpackedFloat

variable {x : Float} {significand exponent : Nat}

theorem isNaN_eq_false_iff : x.isNaN = false ↔ x.toModel.unpack ≠ .notANumber := by
  unfold Float.isNaN Float.Model.isNaN UnpackedFloat.isNaN
  split <;> simp_all

/-- Only the greatest exponent, with a mantissa, packs an undefined value. -/
theorem unpack_packComponents {sign : Sign} {exponent : BitVec Format.binary64.exponentBits}
    {mantissa : BitVec Format.binary64.mantissaBitsWithoutImplicit}
    (number : exponent ≠ -1#_ ∨ mantissa = 0#_) :
    UnpackedFloat.unpack Format.binary64 (packComponents Format.binary64 sign exponent mantissa) ≠
      .notANumber := by
  unfold UnpackedFloat.unpack
  simp only [unpackMantissa_packComponents, unpackExponent_packComponents]
  split_ifs <;> simp_all

theorem unpack_pack {value : UnpackedFloat} (number : value ≠ .notANumber) :
    (Float.Model.pack value).unpack ≠ .notANumber := by
  unfold Float.Model.unpack Float.Model.pack
  dsimp only
  cases value with
  | notANumber => contradiction
  | infinity sign => exact unpack_packComponents (.inr rfl)
  | zero sign => exact unpack_packComponents (.inr rfl)
  | finite sign mantissa exponent positive =>
    rw [UnpackedFloat.pack]
    dsimp only
    split_ifs with large normal
    · exact unpack_packComponents (.inr rfl)
    · refine unpack_packComponents (.inl fun same => ?_)
      have value := congrArg BitVec.toNat same
      simp at value large
      omega
    · exact unpack_packComponents (.inl (by decide))

/-- Rounding gives a number again. -/
theorem roundWithAccuracy_number (sign : Sign) (mantissa : Nat) (exponent : Int)
    (accuracy : Accuracy) :
    roundWithAccuracy Format.binary64 sign mantissa exponent accuracy ≠ .notANumber := by
  unfold roundWithAccuracy
  dsimp only
  split_ifs <;> simp

theorem isNaN_toFloat (n : UInt64) : n.toFloat.isNaN = false := by
  apply isNaN_eq_false_iff.mpr
  apply unpack_pack
  unfold UnpackedFloat.ofUInt64 UnpackedFloat.ofNat UnpackedFloat.ofInt UnpackedFloat.normalize
    UnpackedFloat.round
  split
  · exact roundWithAccuracy_number _ _ _ _
  · simp
  · exact roundWithAccuracy_number _ _ _ _

theorem isNaN_neg (number : x.isNaN = false) : (-x).isNaN = false := by
  rw [isNaN_eq_false_iff] at number ⊢
  apply unpack_pack
  unfold UnpackedFloat.neg
  split <;> simp_all

/-- The powers that numbers are scaled by are neither zero nor infinite. -/
theorem powerOfTen_finite : (List.range 309).all (fun e =>
    match (powerOfTen e).toModel.unpack with
    | .finite .. => true
    | _ => false) = true := by
  decide +kernel

theorem exists_powerOfTen (small : exponent ≤ 308) : ∃ sign mantissa power positive,
    (powerOfTen exponent).toModel.unpack = .finite sign mantissa power positive := by
  have finite := List.all_eq_true.mp powerOfTen_finite exponent (List.mem_range.mpr (by omega))
  split at finite
  · rename_i sign mantissa power positive unpacked
    exact ⟨sign, mantissa, power, positive, unpacked⟩
  · contradiction

theorem isNaN_mul (number : x.isNaN = false) (small : exponent ≤ 308) :
    (x * powerOfTen exponent).isNaN = false := by
  rw [isNaN_eq_false_iff] at number ⊢
  obtain ⟨sign, mantissa, power, positive, unpacked⟩ := exists_powerOfTen small
  apply unpack_pack
  rw [unpacked]
  unfold UnpackedFloat.mul
  split <;> simp_all [roundWithAccuracy_number]

theorem isNaN_div (number : x.isNaN = false) (small : exponent ≤ 308) :
    (x / powerOfTen exponent).isNaN = false := by
  rw [isNaN_eq_false_iff] at number ⊢
  obtain ⟨sign, mantissa, power, positive, unpacked⟩ := exists_powerOfTen small
  apply unpack_pack
  rw [unpacked]
  unfold UnpackedFloat.div
  split <;> simp_all [roundWithAccuracy_number]

theorem isNaN_scaleDown (steps : Nat) (number : x.isNaN = false) :
    (scaleDown x exponent steps).isNaN = false := by
  induction steps generalizing x exponent with
  | zero => exact number
  | succ steps ih =>
    rw [scaleDown]
    split
    · rename_i small
      exact isNaN_div number small
    · split
      · exact number
      · exact ih (isNaN_div number (by omega))

theorem isNaN_scaleUp {scaled : Float} (number : x.isNaN = false)
    (found : scaleUp x exponent = some scaled) : scaled.isNaN = false := by
  unfold scaleUp at found
  split at found
  · rename_i small
    dsimp only at found
    split at found
    · contradiction
    · exact Option.some.inj found ▸ isNaN_mul number small
  · split at found
    · exact Option.some.inj found ▸ number
    · contradiction

section Readers

variable {negative : Bool} {power : Int} {text rest : Text} {value : Float}

theorem isNaN_scaled (found : scaled negative significand power = some value) :
    value.isNaN = false := by
  obtain ⟨magnitude, read, rfl⟩ := Option.map_eq_some_iff.mp found
  have number : magnitude.isNaN = false := by
    split at read
    · exact isNaN_scaleUp (isNaN_toFloat _) read
    · exact Option.some.inj read ▸ isNaN_scaleDown 4 (isNaN_toFloat _)
  split
  · exact isNaN_neg number
  · exact number

theorem isNaN_scaled_map (found : (scaled negative significand power).map (fun x => (x, text)) =
    some (value, rest)) : value.isNaN = false := by
  obtain ⟨x, read, same⟩ := Option.map_eq_some_iff.mp found
  exact (Prod.mk.inj same).1 ▸ isNaN_scaled read

theorem isNaN_exponent? (read : exponent? negative significand power text = some (value, rest)) :
    value.isNaN = false := by
  unfold exponent? at read
  split at read
  dsimp only at read
  split at read
  · contradiction
  · split at read
    · split at read
      · contradiction
      · rw [← (Prod.mk.inj (Option.some.inj read)).1]
        cases negative <;> decide
    · exact isNaN_scaled_map read

theorem isNaN_finish? (read : finish? negative significand power text = some (value, rest)) :
    value.isNaN = false := by
  unfold finish? at read
  split at read
  · exact isNaN_exponent? read
  · exact isNaN_exponent? read
  · exact isNaN_scaled_map read

theorem isNaN_continue? {digits : Digits} (read : continue? negative digits = some (value, rest)) :
    value.isNaN = false := by
  unfold continue? at read
  split at read
  · extract_lets places at read
    split at read
    · contradiction
    · exact isNaN_finish? read
  · exact isNaN_finish? read
  · exact isNaN_finish? read
  · split at read
    · rw [← (Prod.mk.inj (Option.some.inj read)).1]
      unfold whole
      dsimp only
      split
      · exact isNaN_neg (isNaN_toFloat _)
      · exact isNaN_toFloat _
    · exact isNaN_scaled_map read

theorem isNaN_read? (read : read? text = some (value, rest)) : value.isNaN = false := by
  unfold read? at read
  split at read
  split at read
  · split at read
    · contradiction
    · exact isNaN_continue? read
  · split at read
    · exact isNaN_continue? read
    · contradiction
  · contradiction

end Readers

end Json.Number

namespace Json

/-- No number in the value is undefined. -/
inductive IsDefined : Json → Prop
  | null : IsDefined null
  | bool (value : Bool) : IsDefined (bool value)
  | number {value : Float} : value.isNaN = false → IsDefined (number value)
  | string (value : Text) : IsDefined (string value)
  | array {items : List Json} : (∀ item ∈ items, IsDefined item) → IsDefined (array items)
  | object {fields : List (Text × Json)} : (∀ field ∈ fields, IsDefined field.2) →
      IsDefined (object fields)

namespace IsDefined

variable {json value : Json} {name : Text}

theorem field? (whole : json.IsDefined) (found : json.field? name = some value) :
    value.IsDefined := by
  unfold Json.field? at found
  split at found
  · obtain ⟨field, member, rfl⟩ := Option.map_eq_some_iff.mp found
    cases whole with
    | object fields => exact fields field (List.mem_reverse.mp (List.mem_of_find?_eq_some member))
  · contradiction

theorem first? (whole : json.IsDefined) (found : json.first? = some value) : value.IsDefined := by
  unfold Json.first? at found
  split at found
  · cases whole with
    | array items => exact items value (List.mem_of_mem_head? found)
  · contradiction

theorem number? {x : Float} (whole : json.IsDefined) (found : json.number? = some x) :
    x.isNaN = false := by
  unfold Json.number? at found
  split at found
  · cases whole with
    | number number => exact Option.some.inj found ▸ number
  · contradiction

end IsDefined

section Readers

variable {fuel depth : Nat} {text rest : Text}

theorem isDefined_readValue {value : Json}
    (items : ∀ depth text items rest, readItems fuel depth text = some (items, rest) →
      ∀ item ∈ items, IsDefined item)
    (fields : ∀ depth text fields rest, readFields fuel depth text = some (fields, rest) →
      ∀ field ∈ fields, IsDefined field.2)
    (read : readValue (fuel + 1) depth text = some (value, rest)) : value.IsDefined := by
  unfold readValue at read
  split at read
  · obtain ⟨part, -, same⟩ := Option.map_eq_some_iff.mp read
    exact (Prod.mk.inj same).1 ▸ .string part.1
  · split at read
    · contradiction
    · split at read
      · exact (Prod.mk.inj (Option.some.inj read)).1 ▸ .array (by simp)
      · obtain ⟨part, found, same⟩ := Option.map_eq_some_iff.mp read
        exact (Prod.mk.inj same).1 ▸ .array (items _ _ _ _ found)
  · split at read
    · contradiction
    · split at read
      · exact (Prod.mk.inj (Option.some.inj read)).1 ▸ .object (by simp)
      · obtain ⟨part, found, same⟩ := Option.map_eq_some_iff.mp read
        exact (Prod.mk.inj same).1 ▸ .object (fields _ _ _ _ found)
  · split at read
    · exact (Prod.mk.inj (Option.some.inj read)).1 ▸ .null
    · exact (Prod.mk.inj (Option.some.inj read)).1 ▸ .bool true
    · exact (Prod.mk.inj (Option.some.inj read)).1 ▸ .bool false
    · obtain ⟨part, found, same⟩ := Option.map_eq_some_iff.mp read
      exact (Prod.mk.inj same).1 ▸ .number (Number.isNaN_read? found)

theorem isDefined_readItems {found : List Json}
    (values : ∀ depth text value rest, readValue fuel depth text = some (value, rest) →
      IsDefined value)
    (items : ∀ depth text items rest, readItems fuel depth text = some (items, rest) →
      ∀ item ∈ items, IsDefined item)
    (read : readItems (fuel + 1) depth text = some (found, rest)) :
    ∀ item ∈ found, IsDefined item := by
  unfold readItems at read
  split at read
  · contradiction
  · rename_i item behind first
    have head := values _ _ _ _ first
    split at read
    · obtain ⟨part, others, same⟩ := Option.map_eq_some_iff.mp read
      rw [← (Prod.mk.inj same).1]
      exact List.forall_mem_cons.mpr ⟨head, items _ _ _ _ others⟩
    · rw [← (Prod.mk.inj (Option.some.inj read)).1]
      exact List.forall_mem_singleton.mpr head
    · contradiction

theorem isDefined_readFields {found : List (Text × Json)}
    (values : ∀ depth text value rest, readValue fuel depth text = some (value, rest) →
      IsDefined value)
    (fields : ∀ depth text fields rest, readFields fuel depth text = some (fields, rest) →
      ∀ field ∈ fields, IsDefined field.2)
    (read : readFields (fuel + 1) depth text = some (found, rest)) :
    ∀ field ∈ found, IsDefined field.2 := by
  unfold readFields at read
  split at read
  · split at read
    · contradiction
    · split at read
      · split at read
        · contradiction
        · rename_i value last first
          have head := values _ _ _ _ first
          split at read
          · obtain ⟨part, others, same⟩ := Option.map_eq_some_iff.mp read
            rw [← (Prod.mk.inj same).1]
            exact List.forall_mem_cons.mpr ⟨head, fields _ _ _ _ others⟩
          · rw [← (Prod.mk.inj (Option.some.inj read)).1]
            exact List.forall_mem_singleton.mpr head
          · contradiction
      · contradiction
  · contradiction

theorem isDefined_read (fuel : Nat) :
    (∀ depth text value rest, readValue fuel depth text = some (value, rest) → IsDefined value) ∧
    (∀ depth text items rest, readItems fuel depth text = some (items, rest) →
      ∀ item ∈ items, IsDefined item) ∧
    ∀ depth text fields rest, readFields fuel depth text = some (fields, rest) →
      ∀ field ∈ fields, IsDefined field.2 := by
  induction fuel with
  | zero => simp [readValue, readItems, readFields]
  | succ fuel ih =>
    obtain ⟨values, items, fields⟩ := ih
    exact ⟨fun _ _ _ _ read => isDefined_readValue items fields read,
      fun _ _ _ _ read => isDefined_readItems values items read,
      fun _ _ _ _ read => isDefined_readFields values fields read⟩

end Readers

theorem isDefined_of_parse? {text : Text} {value : Json} (read : parse? text = some value) :
    value.IsDefined := by
  unfold parse? at read
  split at read
  · rename_i whole
    split at read
    · exact Option.some.inj read ▸ (isDefined_read _).1 _ _ _ _ whole
    · contradiction
  · contradiction

end Json

namespace Plan

/-- Every time that the plan gives is a number. -/
inductive IsDefined : Plan → Prop
  | node {operation : PlanNode} {children : List Plan} :
      (∀ time, operation.time = some time → time.isNaN = false) →
      (∀ child ∈ children, IsDefined child) → IsDefined (.node operation children)

theorem isDefined_ofNode {json : Json} (whole : json.IsDefined) : (ofNode json).IsDefined := by
  rw [ofNode_eq]
  refine .node (fun time given => ?_) fun child member => ?_
  · obtain ⟨value, found, read⟩ := Option.bind_eq_some_iff.mp given
    exact (whole.field? found).number? read
  · obtain ⟨entry, listed, rfl⟩ := List.mem_map.mp member
    have smaller := sizeOf_subplans listed
    have part : entry.IsDefined := by
      unfold subplans at listed
      cases found : json.field? "Plans" with
      | none =>
        rw [found] at listed
        contradiction
      | some value =>
        rw [found] at listed
        cases whole.field? found with
        | array items => exact items entry listed
        | _ => contradiction
    exact isDefined_ofNode part
termination_by sizeOf json

theorem isDefined_ofDocument? {text : Text} {document : Json} {plan : Plan}
    (read : Json.parse? text = some document) (found : ofDocument? document = some plan) :
    plan.IsDefined := by
  obtain ⟨json, entry, rfl⟩ := Option.map_eq_some_iff.mp found
  obtain ⟨first, head, field⟩ := Option.bind_eq_some_iff.mp entry
  exact isDefined_ofNode (((Json.isDefined_of_parse? read).first? head).field? field)

end Plan

namespace PlanNode

/-- The operation took some time. -/
def isTimed (operation : PlanNode) : Bool := operation.time.any (0 < ·)

open Float.Model in
/-- A number is positive if it is not at most zero. -/
theorem pos_iff {x : Float} (number : x.isNaN = false) : 0 < x ↔ ¬ x ≤ 0 := by
  rw [Json.Number.isNaN_eq_false_iff] at number
  have zero : (0 : Float).toModel.unpack = .zero .positive := by rfl
  have above : 0 < x ↔ UnpackedFloat.lt (.zero .positive) x.toModel.unpack = true := by
    rw [← zero]
    exact decide_eq_true_iff
  have below : x ≤ 0 ↔ UnpackedFloat.le x.toModel.unpack (.zero .positive) = true := by
    rw [← zero]
    exact decide_eq_true_iff
  rw [above, below]
  cases shape : x.toModel.unpack with
  | notANumber => contradiction
  | infinity sign => cases sign <;> decide
  | zero sign => cases sign <;> decide
  | finite sign mantissa exponent positive =>
    cases sign <;> simp [UnpackedFloat.lt, UnpackedFloat.le, UnpackedFloat.compare]

end PlanNode
end Runbook
