import TableSchema.Proofs.Descriptor.Generation
import TableSchema.Proofs.Text.Identifier

/-!
Descriptions whose names are all identifiers, and what such a name cannot hold.
-/

namespace TableSchema

namespace Value

def IsIdentifier (value : Value) : Prop :=
  ∃ s, value = text s ∧ Text.IsIdentifier s

instance (value : Value) : Decidable value.IsIdentifier :=
  decidable_of_iff (∃ s ∈ value.text?, Text.IsIdentifier s) <| by
    simp only [IsIdentifier, Option.mem_def, text?_eq_some_iff]

theorem IsIdentifier.display {value : Value} (h : value.IsIdentifier) :
    Text.IsIdentifier value.display := by
  obtain ⟨s, rfl, identifier⟩ := h
  exact identifier

end Value

theorem Text.IsIdentifier.dollar_not_mem {s : String} (h : Text.IsIdentifier s) :
    '$' ∉ s.toList :=
  Text.not_mem_of_isIdentifier h (show Text.isIdentifierChar '$' = false by decide)

namespace ForeignKey

/-- Nothing, or an action that is known. -/
def IsAction (action : Value) : Prop :=
  action = .null ∨ ∃ s ∈ knownActions, action = .text s

structure HasPlainNames (fk : ForeignKey) : Prop where
  localColumn : fk.localColumn.IsIdentifier
  referencedTable : fk.referencedTable.IsIdentifier
  referencedColumn : fk.referencedColumn.IsIdentifier
  onDelete : IsAction fk.onDelete
  onUpdate : IsAction fk.onUpdate

instance (action : Value) : Decidable (IsAction action) :=
  inferInstanceAs (Decidable (_ ∨ _))

instance (fk : ForeignKey) : Decidable fk.HasPlainNames :=
  decidable_of_iff
    (fk.localColumn.IsIdentifier ∧ fk.referencedTable.IsIdentifier ∧
      fk.referencedColumn.IsIdentifier ∧ IsAction fk.onDelete ∧ IsAction fk.onUpdate)
    ⟨fun ⟨column, table, key, delete, update⟩ => ⟨column, table, key, delete, update⟩,
      fun ⟨column, table, key, delete, update⟩ => ⟨column, table, key, delete, update⟩⟩

end ForeignKey

namespace Descriptor

structure HasPlainNames (d : Descriptor) : Prop where
  tableName : d.tableName.IsIdentifier
  columns : ∀ c ∈ d.columns, c.name.IsIdentifier

instance (d : Descriptor) : Decidable d.HasPlainNames :=
  decidable_of_iff (d.tableName.IsIdentifier ∧ ∀ c ∈ d.columns, c.name.IsIdentifier)
    ⟨fun ⟨table, columns⟩ => ⟨table, columns⟩, fun ⟨table, columns⟩ => ⟨table, columns⟩⟩

theorem HasPlainNames.named {d : Descriptor} (hd : d.HasPlainNames) :
    ∀ c ∈ d.columns, ∃ s, c.name = .text s := by
  intro c hc
  obtain ⟨s, text, -⟩ := hd.columns c hc
  exact ⟨s, text⟩

theorem HasPlainNames.isIdentifier_display {d : Descriptor} (hd : d.HasPlainNames)
    (p : Column → Bool) :
    ∀ n ∈ (d.columns.filter p).map (fun c => c.name.display), Text.IsIdentifier n := by
  intro n mem
  obtain ⟨c, hc, rfl⟩ := List.mem_map.1 mem
  exact (hd.columns c (List.mem_filter.1 hc).1).display

theorem HasPlainNames.sqlName_eq_ok {d : Descriptor} (hd : d.HasPlainNames) :
    ∃ table, d.sqlName = .ok table ∧ Text.IsIdentifier table := by
  obtain ⟨name, text, identifier⟩ := hd.tableName
  exact ⟨Text.lower name, sqlName_eq text, identifier.lower⟩

theorem isIdentifier_enumConstraintName {table : String} (ht : Text.IsIdentifier table)
    {column : Value} (hn : column.IsIdentifier) :
    Text.IsIdentifier (enumConstraintName table column) :=
  ((ht.append (by decide)).append (Text.all_isIdentifierChar hn.display)).append (by decide)

theorem isIdentifier_foreignKeyConstraintName {table : String} (ht : Text.IsIdentifier table)
    {fk : ForeignKey} (hfk : fk.HasPlainNames) :
    Text.IsIdentifier (foreignKeyConstraintName table fk) :=
  ((ht.append (by decide)).append (Text.all_isIdentifierChar hfk.localColumn.display)).append
    (by decide)

end Descriptor

end TableSchema
