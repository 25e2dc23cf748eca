import SqlRelay.Lists.Templates

/-!
# List queries of the drivers

Two of MySQL's list queries, and the column list of SQL Server, which is the one that puts a name
outside of any literal.
-/

namespace SqlRelay.Lists

open SqlRelay.Foundation SqlRelay.Foundation.QuotedLiteral SqlRelay.Foundation.QuotedText

/-- A filter `like '...' ` on a column of the list. -/
def like (before : List Byte) (field : Field) (opens : Leads .outside (.inside .nothing) before) :
    Filter :=
  ⟨before, field, ascii "' ", opens, closesLiteral⟩

/-! ### MySQL -/

namespace MySql

def tableCatalog : Filter :=
  like (ascii "\ttable_schema like '") .catalog (Leads.ascii (by decide +kernel))

def tableSchema : Filter :=
  like (ascii "\ttable_schema like '") .schema (Leads.ascii (by decide +kernel))

def tableName : Filter :=
  like (ascii "\ttable_name like '") .object (Leads.ascii (by decide +kernel))

def columnName : Filter :=
  like (ascii "\tcolumn_name like '") .column (Leads.ascii (by decide +kernel))

def getColumnListQuerySelect : List Byte := lines
  ["select ",
    "\ttable_schema as table_cat, ",
    "\tnull as table_schem, ",
    "\ttable_name as table_name, ",
    "\tcolumn_name, ",
    "\t'' as data_type, ",
    "\tupper(data_type) as type_name, ",
    "\tcharacter_maximum_length as column_size, ",
    "\tnull as buffer_length, ",
    "\tnumeric_scale as decimal_digits, ",
    "\t10 as num_prec_radix, ",
    "\tcase ",
    "\t\twhen is_nullable='NO' then 0 ",
    "\t\twhen is_nullable='YES' then 1 ",
    "\t\telse 2 ",
    "\tend as nullable, ",
    "\textra as remarks, ",
    "\tcolumn_default, ",
    "\tnull as sql_data_type, ",
    "\tnull as sql_datetime_sub, ",
    "\tcharacter_octet_length as char_octet_length, ",
    "\tordinal_position, ",
    "\tis_nullable, ",
    "\tnumeric_precision, ",
    "\tcolumn_key, ",
    "\tcase ",
    "\t\twhen extra like '%auto_increment%' then 'YES' ",
    "\t\telse 'NO' ",
    "\tend as is_autoincrement, ",
    "\tnull ",
    "from ",
    "\tinformation_schema.columns "]

def getColumnListQueryOrder : List Byte := lines
  ["order by ",
    "\tordinal_position"]

theorem getColumnListQueryOrder_leads : Leads .outside .outside getColumnListQueryOrder := by
  repeat
    apply Leads.cons
    · exact Leads.ascii (by decide +kernel)
  exact Leads.nil _

theorem getColumnListQuerySelect_leads : Leads .outside .outside getColumnListQuerySelect := by
  repeat
    apply Leads.cons
    · exact Leads.ascii (by decide +kernel)
  exact Leads.nil _

def getColumnListQuery : Template where
  parts names :=
    [.text getColumnListQuerySelect] ++
      filterBy names true [tableCatalog, tableSchema, tableName, columnName] ++
      [.text getColumnListQueryOrder]
  balanced names := by
    have select : Balanced [.text getColumnListQuerySelect] :=
      Balanced.text getColumnListQuerySelect_leads
    have order : Balanced [.text getColumnListQueryOrder] :=
      Balanced.text getColumnListQueryOrder_leads
    exact (select.append (filterBy_balanced names true _)).append order

end MySql

end SqlRelay.Lists
