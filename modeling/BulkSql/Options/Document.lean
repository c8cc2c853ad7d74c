import BulkSql.Options
import BulkSql.Toml

/-!
Options from a TOML document. A key that is not there leaves its option as it is by default.
-/
namespace BulkSql.Options

/-- Integers that an option can hold. -/
def word? (i : Int) : Option Nat :=
  if 0 ≤ i ∧ i.toNat < UInt64.size then some i.toNat else none

/-- Options with one more entry. Other keys and other types of values are refused. -/
def withEntry? (o : Options) : String × Toml.Scalar → Option Options
  | ("update_alias", .text s) => some { o with updateAlias := s }
  | ("join_alias", .text s) => some { o with joinAlias := s }
  | ("max_parameters", .integer i) => (word? i).map fun n => { o with maxParameters := n }
  | ("max_log_sql_length", .integer i) => (word? i).map fun n => { o with maxLogLength := n }
  | _ => none

/-- The options of a document, in which no key is repeated. -/
def ofEntries? (entries : List (String × Toml.Scalar)) : Option Options :=
  if (entries.map (·.1)).Nodup then entries.foldlM withEntry? {} else none

/-- The options of a document, where they are in order. -/
def ofDocument (document : String) : Except Error Options :=
  match Toml.document? document >>= ofEntries? with
  | none => .error (.validation .optionsDocument)
  | some o => do
    o.validate
    return o

end BulkSql.Options
