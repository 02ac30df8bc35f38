import TableSchema.Text.CaseTable
import TableSchema.Text.CasedTable

/-!
Full case mapping. An upper case may be several characters, and so may one lower case, that of a
dotted capital I. A capital sigma becomes the final small sigma at the end of a word: after a cased
letter and not before one, where the characters that casing ignores are looked through.
-/

namespace TableSchema.Text

def upperChar (c : Char) : List Char :=
  if c.toNat < 128 then [c.toUpper]
  else match upperExpansions.lookup c.toNat with
    | some image => image.map Char.ofNat
    | none => [Char.ofNat (caseImage upperRuns c.toNat)]

theorem upperChar_of_ascii {c : Char} (h : c.toNat < 128) : upperChar c = [c.toUpper] := by
  simp [upperChar, h]

def upperChars (cs : List Char) : List Char :=
  cs.flatMap upperChar

@[simp] theorem upperChars_cons (c : Char) (cs : List Char) :
    upperChars (c :: cs) = upperChar c ++ upperChars cs := by
  simp [upperChars]

@[simp] theorem upperChars_append (a b : List Char) :
    upperChars (a ++ b) = upperChars a ++ upperChars b := by
  simp [upperChars]

def upper (s : String) : String :=
  String.ofList (upperChars s.toList)

@[simp] theorem toList_upper (s : String) : (upper s).toList = upperChars s.toList :=
  String.toList_ofList

def isCased (c : Char) : Bool :=
  if c.toNat < 128 then c.isAlpha else inRanges casedRanges c.toNat

def isCaseIgnorable (c : Char) : Bool :=
  if c.toNat < 128 then c = '\'' || c = '.' || c = ':' || c = '^' || c = '\x60'
  else inRanges ignorableRanges c.toNat

/-- The first character that casing does not ignore is a cased letter. -/
def startsCased (cs : List Char) : Bool :=
  (cs.dropWhile isCaseIgnorable).head?.any isCased

/-- The lower case of any character but the capital sigma. -/
def lowerChar (c : Char) : List Char :=
  if c.toNat < 128 then [c.toLower]
  else if c.toNat = 0x130 then ['i', '\u0307']
  else [Char.ofNat (caseImage lowerRuns c.toNat)]

theorem lowerChar_of_ascii {c : Char} (h : c.toNat < 128) : lowerChar c = [c.toLower] := by
  simp [lowerChar, h]

/-- The lower case of the rest of a text; the flag says whether the last character before it that
casing does not ignore is a cased letter. -/
def lowerFrom : Bool → List Char → List Char
  | _, [] => []
  | inWord, c :: cs =>
    let image :=
      if c = 'Σ' then
        [if inWord && !startsCased cs then 'ς' else 'σ']
      else lowerChar c
    image ++ lowerFrom (if isCaseIgnorable c then inWord else isCased c) cs

def lowerChars (cs : List Char) : List Char :=
  lowerFrom false cs

def lower (s : String) : String :=
  String.ofList (lowerChars s.toList)

@[simp] theorem toList_lower (s : String) : (lower s).toList = lowerChars s.toList :=
  String.toList_ofList

end TableSchema.Text
