import TableSchema.Proofs.Sql.ReadBack
import TableSchema.Proofs.Verification.BlockShape

/-!
Labels of enum values that have none of their own. Only the double quotes of the value are escaped
in them and its backslashes are not, so a backslash of the value may stand next to an added one. An
added one is always the last before its double quote, which is enough to tell the value.
-/

namespace TableSchema

namespace Literal

section Escape

variable {cs ds : List Char}

/-- Takes the one backslash off before each double quote, and refuses a double quote that stands
without. Other backslashes stay. -/
def unescape? : List Char → Option (List Char)
  | [] => some []
  | '\\' :: '"' :: cs => (unescape? cs).map ('"' :: ·)
  | c :: cs => if c = '"' then none else (unescape? cs).map (c :: ·)

theorem unescape?_pair (cs : List Char) :
    unescape? ('\\' :: '"' :: cs) = (unescape? cs).map ('"' :: ·) := by
  rw [unescape?]

theorem unescape?_cons {c : Char} (plain : c ≠ '"') (next : cs.head? ≠ some '"') :
    unescape? (c :: cs) = (unescape? cs).map (c :: ·) := by
  rw [unescape?, if_neg plain]
  rintro rest - rfl
  exact next rfl

theorem head?_escapeDoubleQuotes_ne (cs : List Char) :
    (escapeDoubleQuotes cs).head? ≠ some '"' := by
  cases cs with
  | nil => simp [escapeDoubleQuotes]
  | cons c cs => by_cases quote : c = '"' <;> simp [escapeDoubleQuotes, quote]

theorem unescape?_escapeDoubleQuotes (cs : List Char) :
    unescape? (escapeDoubleQuotes cs) = some cs := by
  induction cs with
  | nil => rfl
  | cons c cs ih =>
    by_cases quote : c = '"'
    · rw [escapeDoubleQuotes, if_pos quote, unescape?_pair, ih, quote]
      rfl
    · rw [escapeDoubleQuotes, if_neg quote,
        unescape?_cons quote (head?_escapeDoubleQuotes_ne cs), ih]
      rfl

theorem eq_escapeDoubleQuotes_of_unescape? (h : unescape? cs = some ds) :
    cs = escapeDoubleQuotes ds := by
  fun_induction unescape? cs generalizing ds with
  | case1 =>
    obtain rfl := Option.some.inj h
    rfl
  | case2 cs ih =>
    obtain ⟨rest, found, rfl⟩ := Option.map_eq_some_iff.1 h
    rw [ih found, escapeDoubleQuotes, if_pos rfl]
  | case3 => exact absurd h (Option.some_ne_none ds).symm
  | case4 c cs _ plain ih =>
    obtain ⟨rest, found, rfl⟩ := Option.map_eq_some_iff.1 h
    rw [ih found, escapeDoubleQuotes, if_neg plain]

theorem unescape?_eq_some_iff : unescape? cs = some ds ↔ cs = escapeDoubleQuotes ds :=
  ⟨eq_escapeDoubleQuotes_of_unescape?, fun h => h ▸ unescape?_escapeDoubleQuotes ds⟩

example : unescape? ['\\', '\\', '"'] = some ['\\', '"'] := by decide
example : unescape? ['\\', '"', '"'] = none := by decide

theorem count_escapeDoubleQuotes (cs : List Char) :
    (escapeDoubleQuotes cs).count '\\' = cs.count '\\' + cs.count '"' := by
  induction cs with
  | nil => rfl
  | cons c cs ih =>
    by_cases quote : c = '"'
    · rw [quote, escapeDoubleQuotes, if_pos rfl, List.count_cons_self,
        List.count_cons_of_ne (by decide), List.count_cons_of_ne (by decide),
        List.count_cons_self, ih, Nat.add_assoc]
    · rw [escapeDoubleQuotes, if_neg quote, List.count_cons, List.count_cons,
        List.count_cons_of_ne quote, ih, Nat.add_right_comm]

end Escape

theorem count_doubleQuotes {c : Char} (h : '\'' ≠ c) (cs : List Char) :
    (doubleQuotes cs).count c = cs.count c := by
  induction cs with
  | nil => rfl
  | cons d cs ih =>
    by_cases quote : d = '\''
    · rw [quote, doubleQuotes, if_pos rfl, List.count_cons_of_ne h, List.count_cons_of_ne h,
        List.count_cons_of_ne h, ih]
    · rw [doubleQuotes, if_neg quote, List.count_cons, List.count_cons, ih]

theorem count_quotedChars {c : Char} (h : '\'' ≠ c) (cs : List Char) :
    (quotedChars cs).count c = cs.count c := by
  rw [quotedChars, List.count_append, List.count_cons_of_ne h, List.count_cons_of_ne h,
    count_doubleQuotes h]
  rfl

theorem ofLabel_eq_quote_fallbackLabel {label : Value} (h : label.isTrue = false)
    (value : Value) : ofLabel value label = quote (fallbackLabel value) := by
  rw [ofLabel, h, if_neg Bool.false_ne_true]

theorem toList_fallbackLabel (value : Value) :
    (fallbackLabel value).toList =
      "Value \"".toList ++ (escapeDoubleQuotes value.display.toList ++ ['"']) := by
  have escaped : (String.ofList (escapeDoubleQuotes value.display.toList)).toList =
      escapeDoubleQuotes value.display.toList := String.toList_ofList
  rw [fallbackLabel, String.toList_append, String.toList_append, escaped, List.append_assoc]
  rfl

end Literal

namespace Sql

section Labels

variable {literal s : String}

/-- The text of the value that a fallback label is for: what the literal holds, less the beginning
and the double quote at the end, and without the backslash before each double quote. -/
def fallbackText? (literal : String) : Option String := do
  let label ← (constant? literal).bind Value.text?
  let rest ← Text.dropChars? "Value \"".toList label.toList
  let escaped ← Text.dropEnd? ['"'] rest
  String.ofList <$> Literal.unescape? escaped

theorem fallbackText?_quote_fallbackLabel (value : Value) :
    fallbackText? (Literal.quote (Literal.fallbackLabel value)) = some value.display := by
  have held : (constant? (Literal.quote (Literal.fallbackLabel value))).bind Value.text? =
      some (Literal.fallbackLabel value) := by
    rw [constant?_quote]
    rfl
  rw [fallbackText?, held, Option.bind_eq_bind, Option.bind_some, Literal.toList_fallbackLabel,
    Verification.dropChars?_append, Option.bind_eq_bind, Option.bind_some,
    Verification.dropEnd?_append, Option.bind_some, Literal.unescape?_escapeDoubleQuotes,
    Option.map_eq_map, Option.map_some, String.ofList_toList]

theorem eq_quote_of_fallbackText? (h : fallbackText? literal = some s) :
    literal = Literal.quote (Literal.fallbackLabel (.text s)) := by
  obtain ⟨label, held, h⟩ := Option.bind_eq_some_iff.1 h
  obtain ⟨rest, opened, h⟩ := Option.bind_eq_some_iff.1 h
  obtain ⟨escaped, closed, h⟩ := Option.bind_eq_some_iff.1 h
  obtain ⟨text, unescaped, rfl⟩ := Option.map_eq_some_iff.1 h
  obtain ⟨value, constant, texts⟩ := Option.bind_eq_some_iff.1 held
  obtain rfl := (Value.text?_eq_some_iff value label).1 texts
  have characters : (Value.text (String.ofList text)).display.toList = text :=
    String.toList_ofList
  have same : label = Literal.fallbackLabel (.text (String.ofList text)) := by
    rw [← String.toList_inj, Literal.toList_fallbackLabel, characters,
      ← Literal.unescape?_eq_some_iff.1 unescaped, ← Verification.eq_append_of_dropEnd? closed]
    exact (List.isPrefixOf?_eq_some_iff_append_eq.1 opened).symm
  exact same ▸ constant?_eq_text_iff.1 constant

theorem fallbackText?_eq_some_iff :
    fallbackText? literal = some s ↔ literal = Literal.quote (Literal.fallbackLabel (.text s)) :=
  ⟨eq_quote_of_fallbackText?, fun h => h ▸ fallbackText?_quote_fallbackLabel (.text s)⟩

end Labels

end Sql

namespace Literal

open Sql

variable {label : Value}

theorem fallbackText?_ofLabel (h : label.isTrue = false) (value : Value) :
    fallbackText? (ofLabel value label) = some value.display := by
  rw [ofLabel_eq_quote_fallbackLabel h, fallbackText?_quote_fallbackLabel]

theorem ofLabel_eq_ofLabel_iff {l m v w : Value} (hl : l.isTrue = false) (hm : m.isTrue = false) :
    ofLabel v l = ofLabel w m ↔ v.display = w.display := by
  constructor
  · intro same
    have text := fallbackText?_ofLabel hl v
    rw [same, fallbackText?_ofLabel hm] at text
    exact (Option.some.inj text).symm
  · intro same
    rw [ofLabel_eq_quote_fallbackLabel hl, ofLabel_eq_quote_fallbackLabel hm, fallbackLabel, same]
    rfl

theorem count_ofLabel (h : label.isTrue = false) (value : Value) :
    (ofLabel value label).toList.count '\\' =
      value.display.toList.count '\\' + value.display.toList.count '"' := by
  rw [ofLabel_eq_quote_fallbackLabel h, toList_quote, count_quotedChars (by decide),
    toList_fallbackLabel, List.count_append, List.count_append, count_escapeDoubleQuotes]
  exact Nat.zero_add _

/-- Texts without a label of their own are shown under labels that tell them apart. A label is read
back to its text and no other literal is, although its backslashes are those of the text as they
are, with one more for each double quote. -/
theorem fallbackLabel_unambiguous (u v : String) {l m : Value} (hl : l.isTrue = false)
    (hm : m.isTrue = false) :
    (ofLabel (.text u) l = ofLabel (.text v) m ↔ u = v) ∧
      (∀ literal, fallbackText? literal = some u ↔ literal = ofLabel (.text u) l) ∧
      (ofLabel (.text u) l).toList.count '\\' = u.toList.count '\\' + u.toList.count '"' := by
  refine ⟨ofLabel_eq_ofLabel_iff hl hm, fun literal => ?_, count_ofLabel hl (.text u)⟩
  rw [ofLabel_eq_quote_fallbackLabel hl]
  exact fallbackText?_eq_some_iff

theorem fallbackLabel_unambiguous_of_backslash :
    ofLabel (.text "\\\"'") .null = "'Value \"\\\\\"''\"'" ∧
      fallbackText? "'Value \"\\\\\"''\"'" = some "\\\"'" ∧
      ofLabel (.text "\\\"'") .null ≠ ofLabel (.text "\"'") (.text "") := by
  have text : ofLabel (.text "\\\"'") .null = "'Value \"\\\\\"''\"'" := by decide
  have missing : Value.null.isTrue = false := rfl
  have empty : (Value.text "").isTrue = false := rfl
  obtain ⟨same, reads, -⟩ := fallbackLabel_unambiguous "\\\"'" "\"'" missing empty
  refine ⟨text, ?_, fun labels => ?_⟩
  · rw [reads, text]
  · exact absurd (same.1 labels) (by decide)

end Literal

end TableSchema
