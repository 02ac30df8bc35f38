import TableSchema.Value.Basic

/-!
Two equalities of values. `identical` decides equality itself. `same` compares what values stand
for: truth values count as 0 and 1, integers meet doubles exactly, and the order of a record's
entries does not matter.
-/

namespace TableSchema.Value

mutual

def identical : Value → Value → Bool
  | null, null => true
  | bool a, bool b => a == b
  | int m, int n => m == n
  | float x, float y => x == y
  | text s, text t => s == t
  | list xs, list ys => identicalItems xs ys
  | row xs, row ys => identicalItems xs ys
  | record es, record fs => identicalEntries es fs
  | part p es, part q fs => p == q && identicalEntries es fs
  | _, _ => false

def identicalItems : List Value → List Value → Bool
  | [], [] => true
  | x :: xs, y :: ys => x.identical y && identicalItems xs ys
  | _, _ => false

def identicalEntries : List (String × Value) → List (String × Value) → Bool
  | [], [] => true
  | (k, v) :: es, (l, w) :: fs => k == l && v.identical w && identicalEntries es fs
  | _, _ => false

end

mutual

theorem identical_iff : ∀ a b : Value, identical a b = true ↔ a = b
  | null, b => by cases b <;> simp [identical]
  | bool _, b => by cases b <;> simp [identical]
  | int _, b => by cases b <;> simp [identical]
  | float _, b => by cases b <;> simp [identical]
  | text _, b => by cases b <;> simp [identical]
  | list xs, b => by cases b <;> simp [identical, identicalItems_iff xs]
  | row xs, b => by cases b <;> simp [identical, identicalItems_iff xs]
  | record es, b => by cases b <;> simp [identical, identicalEntries_iff es]
  | part _ es, b => by cases b <;> simp [identical, identicalEntries_iff es]

theorem identicalItems_iff : ∀ as bs : List Value, identicalItems as bs = true ↔ as = bs
  | [], bs => by cases bs <;> simp [identicalItems]
  | a :: as, bs => by
    cases bs <;> simp [identicalItems, identical_iff a, identicalItems_iff as]

theorem identicalEntries_iff :
    ∀ as bs : List (String × Value), identicalEntries as bs = true ↔ as = bs
  | [], bs => by cases bs <;> simp [identicalEntries]
  | (k, a) :: as, bs => by
    cases bs <;>
      simp [identicalEntries, identical_iff a, identicalEntries_iff as, Prod.ext_iff]

end

instance : DecidableEq Value := fun a b => decidable_of_iff _ (identical_iff a b)

mutual

/-- Equality of what two values stand for: `1`, `1.0` and truth are the same. -/
def same : Value → Value → Bool
  | null, null => true
  | text s, text t => s == t
  | float x, float y => x.same y
  | float x, b => b.integer?.any x.sameInt
  | a, float y => a.integer?.any y.sameInt
  | list xs, list ys => sameItems xs ys
  | row xs, row ys => sameItems xs ys
  | record es, record fs => es.length == fs.length && sameEntries es fs
  | part p es, part q fs => p == q && es.length == fs.length && sameEntries es fs
  | a, b => match a.integer?, b.integer? with
    | some m, some n => m == n
    | _, _ => false

def sameItems : List Value → List Value → Bool
  | [], [] => true
  | x :: xs, y :: ys => x.same y && sameItems xs ys
  | _, _ => false

/-- Every entry of the first record has an equal one under its key in the second. -/
def sameEntries : List (String × Value) → List (String × Value) → Bool
  | [], _ => true
  | (key, v) :: es, fs => (fs.lookup key).any v.same && sameEntries es fs

end

example : same (int 1) (bool true) = true := by decide
example : same (text "1") (int 1) = false := by decide
example : same (list [int 1, null]) (list [bool true, null]) = true := by decide

end TableSchema.Value
