import Mathlib.Data.List.Forall2
import TableSchema.Descriptor.Statement

/-!
The texts that a description supplies for the literals of its statements, the descriptions whose
other texts hold no quote, and those that differ in nothing but the texts of their literals.
-/

namespace TableSchema

namespace Value

def isScalar : Value → Bool
  | bool _ | int _ | float _ | text _ => true
  | _ => false

def IsQuoteFree (value : Value) : Prop :=
  ∃ s, value = text s ∧ '\'' ∉ s.toList

/-- The text that a default or a filter value is rendered as a string literal of. -/
def literalTexts : Value → List String
  | text s => [s]
  | _ => []

/-- Two values of which each is a text, or which are equal. -/
def SameForm (v w : Value) : Prop :=
  v = w ∨ (∃ s, v = text s) ∧ ∃ t, w = text t

end Value

namespace EnumValue

def literalTexts (e : EnumValue) : List String :=
  match e.value with
  | .text s => [s]
  | .bool b => [if b then "True" else "False"]
  | _ => []

def labelText (e : EnumValue) : String :=
  match e.label with
  | .text s => if s = "" then Literal.fallbackLabel e.value else s
  | _ => Literal.fallbackLabel e.value

structure Quotable (e : EnumValue) : Prop where
  value : e.value.isScalar = true
  label : e.label = .null ∨ ∃ s, e.label = .text s

def SameForm (e f : EnumValue) : Prop :=
  e.value = f.value ∨ e.value.isNumber = false ∧ f.value.isNumber = false

theorem forall₂_sameForm (es : List EnumValue) : List.Forall₂ SameForm es es :=
  List.forall₂_same.2 fun _ _ => .inl rfl

end EnumValue

namespace Column

def defaultTexts (c : Column) : List String :=
  c.defaultValue.literalTexts

def caseTexts (c : Column) : List String :=
  match c.enumValues with
  | none => []
  | some es => es.flatMap (fun e => e.literalTexts ++ [e.labelText]) ++ ["Value \"", "\""]

structure IsQuoteFree (c : Column) : Prop where
  name : c.name.IsQuoteFree
  sqlType : c.sqlType = .null ∨ c.sqlType.IsQuoteFree
  default : c.defaultValue = .null ∨ c.defaultValue.isScalar = true
  values : ∀ es, c.enumValues = some es → ∀ e ∈ es, e.Quotable

def bare (c : Column) : Column :=
  { c with defaultValue := .null, enumValues := none }

structure SameForm (c c' : Column) : Prop where
  bare : c'.bare = c.bare
  default : c.defaultValue.SameForm c'.defaultValue
  values : Option.Rel (List.Forall₂ EnumValue.SameForm) c.enumValues c'.enumValues

theorem SameForm.refl (c : Column) : c.SameForm c where
  bare := rfl
  default := .inl rfl
  values := by
    cases c.enumValues with
    | none => exact .none
    | some es => exact .some (EnumValue.forall₂_sameForm es)

end Column

namespace Filter

def valueTexts (f : Filter) : List String :=
  f.value.literalTexts

structure IsQuoteFree (f : Filter) : Prop where
  column : f.column = .null ∨ f.column.IsQuoteFree
  aliasName : f.aliasName = .null ∨ f.aliasName.IsQuoteFree
  operator : f.operator = .null ∨ f.operator.IsQuoteFree
  value : f.value = .null ∨ f.value.isScalar = true

def bare (f : Filter) : Filter :=
  { f with value := .null }

structure SameForm (f f' : Filter) : Prop where
  bare : f'.bare = f.bare
  isNull : f'.value.isNull = f.value.isNull
  value : f.value.SameForm f'.value

theorem SameForm.refl (f : Filter) : f.SameForm f :=
  ⟨rfl, rfl, .inl rfl⟩

end Filter

namespace Descriptor

structure IsQuoteFree (d : Descriptor) : Prop where
  tableName : d.tableName.IsQuoteFree
  aliasName : '\'' ∉ d.aliasName.toList
  defaultSqlType : '\'' ∉ d.settings.defaultSqlType.toList
  columns : ∀ c ∈ d.columns, c.IsQuoteFree

structure SameForm (d d' : Descriptor) : Prop where
  tableName : d'.tableName = d.tableName
  aliasName : d'.aliasName = d.aliasName
  defaultSqlType : d'.settings.defaultSqlType = d.settings.defaultSqlType
  columns : List.Forall₂ Column.SameForm d.columns d'.columns

theorem SameForm.refl (d : Descriptor) : d.SameForm d where
  tableName := rfl
  aliasName := rfl
  defaultSqlType := rfl
  columns := List.forall₂_same.2 fun c _ => Column.SameForm.refl c

inductive PlainStatement
  | createTable
  | whereClause
  | delete
  | select (useLabels : Bool)

def plainStatement (d : Descriptor) (filters : Value) : PlainStatement → Except Fault String
  | .createTable => d.sqlCreateTable.outcome
  | .whereClause => d.whereClause filters
  | .delete => (d.sqlDelete filters).outcome
  | .select useLabels => (d.sqlSelect useLabels filters).outcome

/-- The texts supplied for the literals of a statement, in the order of the statement. -/
def suppliedTexts (d : Descriptor) (filters : List Filter) : PlainStatement → List String
  | .createTable => d.columns.flatMap Column.defaultTexts
  | .whereClause | .delete => filters.flatMap Filter.valueTexts
  | .select useLabels =>
    (if useLabels then d.columns.flatMap Column.caseTexts else []) ++
      filters.flatMap Filter.valueTexts

end Descriptor

end TableSchema
