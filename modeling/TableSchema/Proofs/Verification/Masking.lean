import TableSchema.Proofs.Text.Identifier
import TableSchema.Verification.Placeholder

/-!
Parameters of a statement. A text that is put together of plain pieces and of parameters, each named
by an identifier and kept off what follows, is masked by turning every dollar sign into a colon, and
exactly its parameters are found in it, in order.
-/

namespace TableSchema.Verification

open Text

/-- The character as a masked statement shows it, where every dollar sign opens a parameter. -/
def colon (c : Char) : Char :=
  if c = '$' then ':' else c

def colons (sql : String) : String :=
  String.ofList (sql.toList.map colon)

theorem map_colon_of_plain {p : List Char} (hp : '$' ∉ p) : p.map colon = p := by
  have same : ∀ c ∈ p, colon c = c := by
    intro c hc
    refine if_neg ?_
    rintro rfl
    exact hp hc
  exact (List.map_congr_left same).trans (List.map_id p)

theorem colons_append (a b : String) : colons (a ++ b) = colons a ++ colons b := by
  rw [← String.toList_inj]
  simp [colons]

theorem colons_of_plain {s : String} (hs : '$' ∉ s.toList) : colons s = s := by
  rw [colons, map_colon_of_plain hs, String.ofList_toList]

theorem colons_intercalate {sep : String} (hs : '$' ∉ sep.toList) (l : List String) :
    colons (sep.intercalate l) = sep.intercalate (l.map colons) := by
  induction l with
  | nil => rfl
  | cons s l ih =>
    cases l with
    | nil => rw [List.map_singleton, String.intercalate_singleton, String.intercalate_singleton]
    | cons t l =>
      rw [String.intercalate_cons_cons, colons_append, colons_append, colons_of_plain hs, ih]
      exact String.intercalate_cons_cons.symm

section Scan

variable {p name rest : List Char}

theorem scan_plain (hp : '$' ∉ p) (rest : List Char) :
    maskFrom false (p ++ rest) = p ++ maskFrom false rest ∧
      placeholdersFrom false (p ++ rest) = placeholdersFrom false rest := by
  induction p with
  | nil => exact ⟨rfl, rfl⟩
  | cons c p ih =>
    have plain : c ≠ '$' := fun dollar => hp (by simp [dollar])
    have others := ih fun mem => hp (List.mem_cons_of_mem c mem)
    simp only [List.cons_append, maskFrom, placeholdersFrom, opensPlaceholder, plain, decide_false,
      Bool.false_and, Bool.false_eq_true, if_false, others, List.nil_append, and_self]

theorem scan_identifier (h : isIdentifier name = true) (rest : List Char) :
    maskFrom true (name ++ rest) = name ++ maskFrom false rest ∧
      placeholdersFrom true (name ++ rest) = placeholdersFrom false rest := by
  have plain : '$' ∉ name := not_mem_of_isIdentifier h (show isIdentifierChar '$' = false by decide)
  obtain ⟨c, cs, rfl⟩ := List.exists_cons_of_ne_nil (ne_nil_of_isIdentifier h)
  have first : c ≠ '$' := fun dollar => plain (by simp [dollar])
  have others : '$' ∉ cs := fun mem => plain (List.mem_cons_of_mem c mem)
  simp only [List.cons_append, maskFrom, placeholdersFrom, opensPlaceholder, first, decide_false,
    Bool.false_and, Bool.false_eq_true, if_false, scan_plain others, List.nil_append, and_self]

theorem opensPlaceholder_identifier (h : isIdentifier name = true) (rest : List Char) :
    opensPlaceholder false '$' (name ++ rest) = true := by
  obtain ⟨c, cs, rfl⟩ := List.exists_cons_of_ne_nil (ne_nil_of_isIdentifier h)
  exact ((isIdentifier_cons_iff c cs).1 h).1

theorem takeWhile_identifier (h : isIdentifier name = true)
    (ended : rest.head?.any isIdentifierChar = false) :
    (name ++ rest).takeWhile isIdentifierChar = name := by
  have stop : rest.takeWhile isIdentifierChar = [] := by
    cases rest with
    | nil => rfl
    | cons c cs =>
      have other : isIdentifierChar c = false := by simpa using ended
      rw [List.takeWhile_cons, other]
      rfl
  rw [List.takeWhile_append_of_pos fun _ hc => identifierChar_of_mem h hc, stop, List.append_nil]

end Scan

/-- The text is masked throughout, whatever comes after it, and it shows the given parameters, as
long as what comes after does not go on with the name of the last one. -/
structure Shows (text : List Char) (names : List String) : Prop where
  masked : ∀ rest, maskFrom false (text ++ rest) = text.map colon ++ maskFrom false rest
  found : ∀ rest, rest.head?.any isIdentifierChar = false →
    placeholdersFrom false (text ++ rest) = names.map String.toList ++ placeholdersFrom false rest

namespace Shows

variable {a b p : List Char} {ns ms : List String}

theorem plain_append (hp : '$' ∉ p) (h : Shows a ns) : Shows (p ++ a) ns where
  masked rest := by
    rw [List.append_assoc, (scan_plain hp _).1, h.masked, List.map_append, map_colon_of_plain hp,
      List.append_assoc]
  found rest ended := by
    rw [List.append_assoc, (scan_plain hp _).2, h.found rest ended]

theorem nil : Shows [] [] :=
  ⟨fun _ => rfl, fun _ _ => rfl⟩

theorem plain (hp : '$' ∉ p) : Shows p [] := by
  simpa using nil.plain_append hp

theorem parameter {name : String} (h : IsIdentifier name) : Shows ('$' :: name.toList) [name] where
  masked rest := by
    have plain : '$' ∉ name.toList :=
      not_mem_of_isIdentifier h (show isIdentifierChar '$' = false by decide)
    rw [List.cons_append, maskFrom, opensPlaceholder_identifier h, if_pos rfl, List.map_cons,
      map_colon_of_plain plain]
    exact congrArg (':' :: ·) (scan_identifier h rest).1
  found rest ended := by
    rw [List.cons_append, placeholdersFrom, opensPlaceholder_identifier h, if_pos rfl,
      takeWhile_identifier h ended]
    exact congrArg ([name.toList] ++ ·) (scan_identifier h rest).2

theorem append (ha : Shows a ns) (hb : Shows b ms) (apart : b.head?.any isIdentifierChar = false) :
    Shows (a ++ b) (ns ++ ms) where
  masked rest := by
    rw [List.append_assoc, ha.masked, hb.masked, List.map_append, List.append_assoc]
  found rest ended := by
    -- what the first text must not be followed by begins with `b`, or with `rest` if that is empty
    have start : (b ++ rest).head?.any isIdentifierChar = false := by
      cases b with
      | nil => exact ended
      | cons c cs => exact apart
    rw [List.append_assoc, ha.found _ start, hb.found _ ended, List.map_append, List.append_assoc]

theorem intercalate {α : Type} {sep : String} (hs : '$' ∉ sep.toList)
    (apart : ∀ cs, (sep.toList ++ cs).head?.any isIdentifierChar = false) {text name : α → String}
    {xs : List α} (h : ∀ x ∈ xs, Shows (text x).toList [name x]) :
    Shows (sep.intercalate (xs.map text)).toList (xs.map name) := by
  induction xs with
  | nil => exact nil
  | cons x xs ih =>
    have first := h x List.mem_cons_self
    have others := ih fun y hy => h y (List.mem_cons_of_mem x hy)
    cases xs with
    | nil => exact first
    | cons y ys =>
      rw [List.map_cons, List.map_cons, String.intercalate_cons_cons, String.append_assoc,
        String.toList_append, String.toList_append]
      exact first.append (others.plain_append hs) (apart _)

variable {sql : String}

theorem mask_eq (h : Shows sql.toList ns) : mask sql = colons sql := by
  have whole := h.masked []
  rw [List.append_nil, maskFrom, List.append_nil] at whole
  rw [mask, whole, colons]

theorem placeholders_eq (h : Shows sql.toList ns) : placeholders sql = ns := by
  have whole := h.found [] rfl
  rw [List.append_nil, placeholdersFrom, List.append_nil] at whole
  rw [placeholders, whole, List.map_map]
  exact (List.map_congr_left fun n _ => String.ofList_toList).trans (List.map_id ns)

end Shows

end TableSchema.Verification
