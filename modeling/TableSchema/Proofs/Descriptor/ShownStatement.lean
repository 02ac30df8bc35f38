import TableSchema.Proofs.Descriptor.DistinctColumns
import TableSchema.Proofs.Descriptor.UpdateWords
import TableSchema.Proofs.Verification.InsertTarget
import TableSchema.Proofs.Verification.Masking
import TableSchema.Verification.Verdict

/-!
Generated inserts and updates as a parser is shown them. Their parameters are all of their dollar
signs, in the order of their columns, and the targets of an insert lose the alias.
-/

namespace TableSchema.Descriptor

open Text Verification

variable {d : Descriptor} {table name : String} {names : List String}

theorem not_mem_reference (ha : IsIdentifier d.aliasName) (hn : IsIdentifier name) {c : Char}
    (other : isIdentifierChar c = false) (point : c ∉ ".".toList) :
    c ∉ (d.reference name).toList := by
  simp only [reference, String.toList_append, List.mem_append, not_or]
  exact ⟨⟨not_mem_of_isIdentifier ha other, point⟩, not_mem_of_isIdentifier hn other⟩

theorem not_mem_references (ha : IsIdentifier d.aliasName) (hn : ∀ n ∈ names, IsIdentifier n)
    {c : Char} (other : isIdentifierChar c = false) (fixed : c ∉ "., ".toList) :
    c ∉ (", ".intercalate (names.map d.reference)).toList := by
  have point : c ∉ ".".toList := fun mem => fixed (List.mem_append_left ", ".toList mem)
  have comma : c ∉ ", ".toList := fun mem => fixed (List.mem_append_right ".".toList mem)
  refine not_mem_intercalate comma fun s hs => ?_
  obtain ⟨n, mem, rfl⟩ := List.mem_map.1 hs
  exact not_mem_reference ha (hn n mem) other point

theorem shows_placeholder (ha : IsIdentifier d.aliasName) (hn : IsIdentifier name) :
    Shows (d.placeholder name).toList [d.prefixed name] := by
  rw [placeholder, String.toList_append]
  exact .parameter (isIdentifier_prefixed ha hn)

section Insert

theorem dollar_not_mem_targets (ht : IsIdentifier table) (ha : IsIdentifier d.aliasName)
    (hn : ∀ n ∈ names, IsIdentifier n) :
    '$' ∉ (insertHead table d.aliasName ++ ", ".intercalate (names.map d.reference) ++
      ") VALUES (").toList := by
  have targets : '$' ∉ (", ".intercalate (names.map d.reference)).toList :=
    not_mem_references ha hn (by decide) (by decide)
  unfold insertHead
  simp only [String.toList_append, List.mem_append, not_or]
  exact ⟨⟨⟨⟨⟨⟨by decide, ht.dollar_not_mem⟩, by decide⟩, ha.dollar_not_mem⟩, by decide⟩, targets⟩,
    by decide⟩

theorem namedInsert_eq (d : Descriptor) (names : List String) (table : String) :
    d.namedInsert names table =
      (insertHead table d.aliasName ++ ", ".intercalate (names.map d.reference) ++ ") VALUES (") ++
        (", ".intercalate (names.map d.placeholder) ++ ")") := by
  unfold namedInsert insertHead
  simp only [String.append_assoc]

theorem shows_namedInsert (ht : IsIdentifier table) (ha : IsIdentifier d.aliasName)
    (hn : ∀ n ∈ names, IsIdentifier n) :
    Shows (d.namedInsert names table).toList (names.map d.prefixed) := by
  have values : Shows (", ".intercalate (names.map d.placeholder)).toList (names.map d.prefixed) :=
    .intercalate (by decide) (fun _ => rfl) fun n mem => shows_placeholder ha (hn n mem)
  have closed := values.append (Shows.plain (show '$' ∉ ")".toList by decide)) (by decide)
  rw [List.append_nil, ← String.toList_append] at closed
  rw [namedInsert_eq, String.toList_append]
  exact closed.plain_append (dollar_not_mem_targets ht ha hn)

def shownValues (d : Descriptor) (names : List String) : String :=
  ", ".intercalate (names.map fun n => ":" ++ d.prefixed n)

def shownInsert (d : Descriptor) (names : List String) (table : String) : String :=
  "INSERT INTO " ++ table ++ " AS " ++ d.aliasName ++ " (" ++ ", ".intercalate names ++
    ") VALUES (" ++ d.shownValues names ++ ")"

theorem colons_placeholders (ha : IsIdentifier d.aliasName) (hn : ∀ n ∈ names, IsIdentifier n) :
    colons (", ".intercalate (names.map d.placeholder)) = d.shownValues names := by
  have shown : (names.map d.placeholder).map colons = names.map fun n => ":" ++ d.prefixed n := by
    rw [List.map_map]
    refine List.map_congr_left fun n mem => ?_
    have plain := (isIdentifier_prefixed ha (hn n mem)).dollar_not_mem
    have mark : colons "$" = ":" := rfl
    calc colons ("$" ++ d.prefixed n)
      _ = colons "$" ++ colons (d.prefixed n) := colons_append ..
      _ = ":" ++ d.prefixed n := by rw [mark, colons_of_plain plain]
  rw [colons_intercalate (by decide), shown, shownValues]

theorem parserText_namedInsert (ht : IsIdentifier table) (ha : IsIdentifier d.aliasName)
    (hn : ∀ n ∈ names, IsIdentifier n) :
    parserText (d.namedInsert names table) = d.shownInsert names table := by
  have bracket : ") VALUES (" = ")" ++ " VALUES (" := rfl
  have closing : colons ")" = ")" := rfl
  have masked : mask (d.namedInsert names table) =
      insertHead table d.aliasName ++ (", ".intercalate (names.map d.reference) ++
        (")" ++ (" VALUES (" ++ d.shownValues names ++ ")"))) := by
    rw [(shows_namedInsert ht ha hn).mask_eq, namedInsert_eq, colons_append,
      colons_of_plain (dollar_not_mem_targets ht ha hn), colons_append, colons_placeholders ha hn,
      closing, bracket]
    simp only [String.append_assoc]
  have closed : ')' ∉ (", ".intercalate (names.map d.reference)).toList :=
    not_mem_references ha hn (by decide) (by decide)
  have unqualified : dropQualifiers (", ".intercalate (names.map d.reference)).toList =
      (", ".intercalate names).toList :=
    dropQualifiers_intercalate ha (fun n => by simp [reference]) hn
  rw [parserText, masked, unqualify_insert ht ha closed, unqualified, String.ofList_toList]
  unfold shownInsert insertHead
  rw [bracket]
  simp only [String.append_assoc]

end Insert

section Update

variable {key : String}

theorem shows_assignment (ha : IsIdentifier d.aliasName) (hn : IsIdentifier name) :
    Shows (d.reference name ++ " = $" ++ d.prefixed name).toList [d.prefixed name] := by
  have text : d.reference name ++ " = $" ++ d.prefixed name =
      (d.reference name ++ " = ") ++ d.placeholder name := by
    have equals : " = $" = " = " ++ "$" := rfl
    simp only [placeholder, equals, String.append_assoc]
  have field : '$' ∉ (d.reference name ++ " = ").toList := by
    rw [String.toList_append, List.mem_append, not_or]
    exact ⟨not_mem_reference ha hn (by decide) (by decide), by decide⟩
  rw [text, String.toList_append]
  exact (shows_placeholder ha hn).plain_append field

theorem shows_namedUpdate (ht : IsIdentifier table) (ha : IsIdentifier d.aliasName)
    (hn : ∀ n ∈ names, IsIdentifier n) (hk : IsIdentifier key) :
    Shows (d.namedUpdate names (some key) table).toList
      (names.map d.prefixed ++ [d.prefixed key]) := by
  have assigned : Shows
      (", ".intercalate (names.map fun n => d.reference n ++ " = $" ++ d.prefixed n)).toList
      (names.map d.prefixed) :=
    .intercalate (by decide) (fun _ => rfl) fun n mem => shows_assignment ha (hn n mem)
  have matched := (shows_assignment ha hk).plain_append (show '$' ∉ " WHERE ".toList by decide)
  have head : '$' ∉ ("UPDATE " ++ table ++ " AS " ++ d.aliasName ++ " SET ").toList := by
    simp only [String.toList_append, List.mem_append, not_or]
    exact ⟨⟨⟨⟨by decide, ht.dollar_not_mem⟩, by decide⟩, ha.dollar_not_mem⟩, by decide⟩
  have whole := (assigned.append matched rfl).plain_append head
  unfold namedUpdate
  simpa only [String.toList_append, List.append_assoc, Option.map_some, Option.getD_some]
    using whole

theorem parserText_namedUpdate (ht : IsIdentifier table) (ha : IsIdentifier d.aliasName)
    (hn : ∀ n ∈ names, IsIdentifier n) (hk : IsIdentifier key) :
    parserText (d.namedUpdate names (some key) table) =
      colons (d.namedUpdate names (some key) table) := by
  rw [parserText, (shows_namedUpdate ht ha hn hk).mask_eq]
  refine unqualify_eq_self ?_
  unfold namedUpdate
  simp only [colons_append, String.toList_append, List.append_assoc]
  rfl

end Update

end TableSchema.Descriptor
