import Mathlib.Data.Finset.Card
import TableSchema.Proofs.Validation.Consistency

/-!
Repetitions. Going through a list, as many items repeat an earlier one as there are more items than
classes of the same. Texts, truth values and numbers other than `nan` fall into such classes, by
what they stand for.
-/

namespace TableSchema

section Repetition

variable {α β : Type} [DecidableEq β] {same : α → α → Bool} {key : α → β} {xs seen : List α}

/-- How many items are the same as one before them, where `seen` holds those before the list. -/
def repeats (same : α → α → Bool) (seen : List α) : List α → Nat
  | [] => 0
  | x :: xs => (if seen.any (same x) then 1 else 0) + repeats same (x :: seen) xs

theorem card_insert_sdiff (b : β) (new known : Finset β) :
    (insert b new \ known).card =
      (if b ∈ known then 0 else 1) + (new \ insert b known).card := by
  by_cases met : b ∈ known
  · rw [if_pos met, Finset.insert_sdiff_of_mem new met, Finset.insert_eq_of_mem met, Nat.zero_add]
  · have split : insert b new \ known = insert b (new \ insert b known) := by
      ext c
      simp only [Finset.mem_sdiff, Finset.mem_insert]
      by_cases same : c = b
      · subst same
        simp [met]
      · simp [same]
    rw [if_neg met, split, Finset.card_insert_of_notMem (by simp), Nat.add_comm]

theorem repeats_add_card (agree : ∀ x ∈ xs, ∀ y ∈ seen ++ xs, same x y = true ↔ key x = key y) :
    repeats same seen xs + ((xs.map key).toFinset \ (seen.map key).toFinset).card =
      xs.length := by
  induction xs generalizing seen with
  | nil => simp [repeats]
  | cons x xs ih =>
    have later : repeats same (x :: seen) xs +
        ((xs.map key).toFinset \ ((x :: seen).map key).toFinset).card = xs.length := by
      refine ih fun y hy z hz => agree y (List.mem_cons_of_mem x hy) z ?_
      exact (List.perm_middle.mem_iff).2 hz
    have met : seen.any (same x) = true ↔ key x ∈ (seen.map key).toFinset := by
      rw [List.any_eq_true, List.mem_toFinset, List.mem_map]
      refine exists_congr fun y => and_congr_right fun hy => ?_
      rw [agree x List.mem_cons_self y (List.mem_append_left _ hy)]
      exact eq_comm
    rw [List.map_cons, List.toFinset_cons] at later
    rw [repeats, List.map_cons, List.toFinset_cons, List.length_cons, card_insert_sdiff]
    by_cases known : key x ∈ (seen.map key).toFinset
    · rw [if_pos (met.2 known), if_pos known]
      omega
    · rw [if_neg (mt met.1 known), if_neg known]
      omega

theorem repeats_eq (agree : ∀ x ∈ xs, ∀ y ∈ xs, same x y = true ↔ key x = key y) :
    repeats same [] xs = xs.length - (xs.map key).dedup.length := by
  have total : repeats same [] xs + ((xs.map key).toFinset \ ([].map key).toFinset).card =
      xs.length := repeats_add_card agree
  rw [List.map_nil, List.toFinset_nil, Finset.sdiff_empty, List.card_toFinset] at total
  omega

end Repetition

theorem Binary64.unitsPerOne_pos : 0 < unitsPerOne := by
  unfold unitsPerOne
  generalize 1074 = n
  exact Nat.pow_pos (by decide)

namespace Value

/-- A text, a truth value or a number, but not `nan`. -/
def IsComparable : Value → Prop
  | text _ | bool _ | int _ => True
  | float x => x ≠ .nan
  | _ => False

/-- What comparable values stand for, numbers counted in least units of doubles. -/
inductive Meaning
  | words (s : String)
  | finite (units : Int)
  | infinite (negative : Bool)
  deriving DecidableEq

def meaning? : Value → Option Meaning
  | text s => some (.words s)
  | float (.infinite negative) => some (.infinite negative)
  | float x => x.units?.map .finite
  | value => value.integer?.map fun n => .finite (n * Binary64.unitsPerOne)

@[simp] theorem meaning?_text (s : String) : (text s).meaning? = some (.words s) := rfl

@[simp] theorem meaning?_infinite (negative : Bool) :
    (float (.infinite negative)).meaning? = some (.infinite negative) := rfl

@[simp] theorem meaning?_finite (negative : Bool) (units : Nat) :
    (float (.finite negative units)).meaning? =
      (Binary64.finite negative units).units?.map .finite := rfl

section Numbers

variable {a b : Value} {x y : Binary64} {m n : Int}

theorem meaning?_of_integer (ha : a.integer? = some m) :
    a.meaning? = some (.finite (m * Binary64.unitsPerOne)) := by
  cases a with
  | bool _ | int _ => simp only [meaning?, ha, Option.map_some]
  | _ => exact absurd ha (by simp [integer?])

theorem same_of_integers (ha : a.integer? = some m) (hb : b.integer? = some n) :
    a.same b = true ↔ m = n := by
  cases a with
  | bool _ | int _ =>
    cases b with
    | bool _ | int _ => simp [same, ha, hb]
    | _ => exact absurd hb (by simp [integer?])
  | _ => exact absurd ha (by simp [integer?])

theorem same_float_of_integer (x : Binary64) (hb : b.integer? = some n) :
    ((float x).same b = true ↔ x.sameInt n = true) ∧
      (b.same (float x) = true ↔ x.sameInt n = true) := by
  cases b with
  | bool _ | int _ => simp [same, hb]
  | _ => exact absurd hb (by simp [integer?])

theorem units?_eq_some_iff (hx : x ≠ .nan) (n : Int) :
    x.units? = some n ↔ (float x).meaning? = some (.finite n) := by
  cases x with
  | nan => exact absurd rfl hx
  | infinite negative => simp [Binary64.units?]
  | finite negative units =>
    rw [meaning?_finite, Option.map_eq_some_iff]
    constructor
    · exact fun equal => ⟨n, equal, rfl⟩
    · rintro ⟨m, equal, same⟩
      rwa [← Meaning.finite.inj same]

theorem sameInt_iff_meaning (hx : x ≠ .nan) (n : Int) :
    x.sameInt n = true ↔
      (float x).meaning? = some (.finite (n * Binary64.unitsPerOne)) := by
  rw [Binary64.sameInt, beq_iff_eq, units?_eq_some_iff hx]

theorem same_floats_iff_meaning (hx : x ≠ .nan) (hy : y ≠ .nan) :
    (float x).same (float y) = true ↔ (float x).meaning? = (float y).meaning? := by
  rw [same]
  cases x with
  | nan => exact absurd rfl hx
  | infinite negative =>
    cases y with
    | nan => exact absurd rfl hy
    | infinite negative' => simp [Binary64.same]
    | finite negative' units' => simp [Binary64.same, Binary64.units?]
  | finite negative units =>
    cases y with
    | nan => exact absurd rfl hy
    | infinite negative' => simp [Binary64.same, Binary64.units?]
    | finite negative' units' => simp [Binary64.same, Binary64.units?]

theorem unitsPerOne_mul_inj :
    m * (Binary64.unitsPerOne : Int) = n * Binary64.unitsPerOne ↔ m = n := by
  have positive := Binary64.unitsPerOne_pos
  exact Int.mul_eq_mul_right_iff (by omega)

end Numbers

theorem IsComparable.cases {a : Value} (h : a.IsComparable) :
    (∃ s, a = text s) ∨ (∃ x, a = float x ∧ x ≠ .nan) ∨ ∃ n, a.integer? = some n := by
  cases a with
  | text s => exact .inl ⟨s, rfl⟩
  | float x => exact .inr (.inl ⟨x, rfl, h⟩)
  | bool p => exact .inr (.inr ⟨_, rfl⟩)
  | int n => exact .inr (.inr ⟨n, rfl⟩)
  | _ => exact h.elim

theorem text_same_iff_meaning (s : String) {b : Value} (hb : b.IsComparable) :
    ((text s).same b = true ↔ (text s).meaning? = b.meaning?) ∧
      (b.same (text s) = true ↔ b.meaning? = (text s).meaning?) := by
  cases b with
  | text t => simp [same]
  | float y =>
    cases y with
    | nan => exact absurd rfl hb
    | _ => simp [same, integer?, Binary64.units?]
  | bool _ | int _ =>
    constructor <;> refine iff_of_false Bool.false_ne_true fun equal => ?_ <;>
      cases Option.some.inj equal
  | _ => exact hb.elim

/-- Comparable values are the same when they stand for the same. -/
theorem same_iff_meaning {a b : Value} (ha : a.IsComparable) (hb : b.IsComparable) :
    a.same b = true ↔ a.meaning? = b.meaning? := by
  rcases ha.cases with ⟨s, rfl⟩ | ⟨x, rfl, hx⟩ | ⟨m, hm⟩
  · exact (text_same_iff_meaning s hb).1
  · rcases hb.cases with ⟨t, rfl⟩ | ⟨y, rfl, hy⟩ | ⟨n, hn⟩
    · exact (text_same_iff_meaning t ha).2
    · exact same_floats_iff_meaning hx hy
    · rw [(same_float_of_integer x hn).1, sameInt_iff_meaning hx, meaning?_of_integer hn]
  · rcases hb.cases with ⟨t, rfl⟩ | ⟨y, rfl, hy⟩ | ⟨n, hn⟩
    · exact (text_same_iff_meaning t ha).2
    · rw [(same_float_of_integer y hm).2, sameInt_iff_meaning hy, meaning?_of_integer hm]
      exact eq_comm
    · rw [same_of_integers hm hn, meaning?_of_integer hm, meaning?_of_integer hn,
        Option.some_inj, Meaning.finite.injEq, unitsPerOne_mul_inj]

section Classes

variable {values values' : List Value}

/-- How many classes of the same values there are in a list. -/
def classes (values : List Value) : Nat :=
  (values.map fun value => values.filter value.same).dedup.length

variable (comparable : ∀ value ∈ values, value.IsComparable)
include comparable

theorem same_iff_class :
    ∀ a ∈ values, ∀ b ∈ values,
      a.same b = true ↔ values.filter a.same = values.filter b.same := by
  intro a ha b hb
  constructor
  · intro equal
    have meaning := (same_iff_meaning (comparable a ha) (comparable b hb)).1 equal
    refine List.filter_congr fun c hc => ?_
    rw [Bool.eq_iff_iff, same_iff_meaning (comparable a ha) (comparable c hc), meaning,
      same_iff_meaning (comparable b hb) (comparable c hc)]
  · intro equal
    have itself : b ∈ values.filter b.same :=
      List.mem_filter.2 ⟨hb, (same_iff_meaning (comparable b hb) (comparable b hb)).2 rfl⟩
    rw [← equal] at itself
    exact (List.mem_filter.1 itself).2

theorem repeats_same_eq : repeats same [] values = values.length - classes values :=
  repeats_eq (same_iff_class comparable)

theorem repeats_same_of_perm (perm : values.Perm values') :
    repeats same [] values = repeats same [] values' := by
  have agree : ∀ a ∈ values, ∀ b ∈ values, a.same b = true ↔ a.meaning? = b.meaning? :=
    fun a ha b hb => same_iff_meaning (comparable a ha) (comparable b hb)
  have agree' : ∀ a ∈ values', ∀ b ∈ values', a.same b = true ↔ a.meaning? = b.meaning? :=
    fun a ha b hb => agree a (perm.mem_iff.2 ha) b (perm.mem_iff.2 hb)
  rw [repeats_eq agree, repeats_eq agree', perm.length_eq, (perm.map meaning?).dedup.length_eq]

end Classes

end Value

end TableSchema
