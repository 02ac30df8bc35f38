import TableSchema.Descriptor.Statement

/-!
Queries: everything that can be asked of a descriptor, as data. Answering one never changes the
descriptor.
-/

namespace TableSchema

inductive Query
  | summary
  | columns
  | constraints
  | aliasName
  | tableName (lowered : Bool)
  | columnAliases (withPrimary : Bool)
  | columnNames (withPrimary : Bool)
  | columnFields (withPrimary useLabels : Bool)
  | primaryKey (useAlias : Bool)
  | columnName (ofAlias : Value)
  | createTable
  | enumConstraints
  | tableConstraints
  | dropTable
  | select (useLabels : Bool) (filters : Value)
  | insert (data : Value)
  | update (data : Value)
  | delete (filters : Value)
  | whereClause (filters : Value)
  | validate

inductive Reply
  | done
  | text (s : String)
  | texts (ss : List String)
  | value (v : Value)
  | columns (cs : List Column)
  | constraints (fks : List ForeignKey)
  | issues (is : List Issue)
  | summary (s : Summary)
  | settings (s : Settings)
  | logSetup (s : LogSetup)

/-- The statements that a reply holds. -/
def Reply.statements : Reply → List String
  | text s => [s]
  | texts ss => ss
  | _ => []

namespace Descriptor

def answer (d : Descriptor) : Query → Observed Reply
  | .summary => return .summary d.summary
  | .columns => return .columns d.columns
  | .constraints => return .constraints d.constraints
  | .aliasName => return .text d.aliasName
  | .tableName lowered => .value <$> Observed.lift (d.tableText lowered)
  | .columnAliases withPrimary => return .texts (d.columnAliases withPrimary)
  | .columnNames withPrimary => return .texts (d.columnNames withPrimary)
  | .columnFields withPrimary useLabels => return .texts (d.columnFields withPrimary useLabels)
  | .primaryKey useAlias => return .value (.ofText? (d.primaryKey? useAlias))
  | .columnName ofAlias =>
    (fun s => .text (d.aliasToColumnName s)) <$> Observed.lift (ofAlias.requireText .beginning)
  | .createTable => .text <$> d.sqlCreateTable
  | .enumConstraints => .texts <$> d.sqlCreateEnumConstraints
  | .tableConstraints => .texts <$> d.sqlCreateTableConstraints
  | .dropTable => .text <$> d.sqlDropTable
  | .select useLabels filters => .text <$> d.sqlSelect useLabels filters
  | .insert data => .text <$> d.sqlInsert data
  | .update data => .text <$> d.sqlUpdate data
  | .delete filters => .text <$> d.sqlDelete filters
  | .whereClause filters => .text <$> Observed.lift (d.whereClause filters)
  | .validate => .issues <$> d.validate

end Descriptor

end TableSchema
