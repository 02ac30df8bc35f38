import TableSchema.Text.Word

/-!
Placeholders `$name` in a statement. A dollar sign opens one if an identifier follows and no other
dollar sign comes before it, so the marks `$$` of a quoted block open none. Parsers are shown
`:name` in its place.
-/

namespace TableSchema.Verification

open Text

/-- The character opens a placeholder with what follows it. -/
def opensPlaceholder (afterDollar : Bool) (c : Char) (cs : List Char) : Bool :=
  c = '$' && !afterDollar && cs.head?.any isIdentifierStart

def maskFrom (afterDollar : Bool) : List Char → List Char
  | [] => []
  | c :: cs =>
    (if opensPlaceholder afterDollar c cs then ':' else c) :: maskFrom (c = '$') cs

def placeholdersFrom (afterDollar : Bool) : List Char → List (List Char)
  | [] => []
  | c :: cs =>
    (if opensPlaceholder afterDollar c cs then [cs.takeWhile isIdentifierChar] else []) ++
      placeholdersFrom (c = '$') cs

/-- The statement with a colon in place of every dollar sign that opens a placeholder. -/
def mask (sql : String) : String :=
  String.ofList (maskFrom false sql.toList)

/-- The names of the placeholders, in order and with repetitions. -/
def placeholders (sql : String) : List String :=
  (placeholdersFrom false sql.toList).map String.ofList

@[simp] theorem length_maskFrom (afterDollar : Bool) (cs : List Char) :
    (maskFrom afterDollar cs).length = cs.length := by
  induction cs generalizing afterDollar with
  | nil => rfl
  | cons c cs ih => simp [maskFrom, ih]

example : placeholders "$a$b $$c $1 $d-e" = ["a", "b", "d"] := by decide
example : mask "$a$b $$c $1 $d-e" = ":a:b $$c $1 :d-e" := by decide

end TableSchema.Verification
