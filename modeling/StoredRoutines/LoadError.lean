import StoredRoutines.Database.Failure

/-!
# Errors of a load

Why a single routine cannot be loaded.

## Main definitions

- `LoadError` — the causes
- `LoadError.message` — their wording
-/

namespace StoredRoutines

/-- Why a routine cannot be loaded. -/
inductive LoadError where
  /-- The source file cannot be read. -/
  | sourceUnreadable (path : String)
  /-- The source uses placeholders without a value. -/
  | unknownPlaceholder (tokens : List String)
  /-- There is no `begin` line, or no type directive above it. -/
  | missingDesignationType
  /-- The arguments of a `bulk_insert` directive are not a table and its columns. -/
  | malformedBulkInsert (found : String)
  /-- A designation without arguments was given some. -/
  | unexpectedArguments (kind arguments : String)
  /-- The source creates no routine. -/
  | signatureNotFound
  /-- The routine is not named like its file. -/
  | nameMismatch (expected found : String)
  /-- Two parameter directives name one parameter. -/
  | duplicateListParameter (name : String)
  /-- A parameter directive does not have the form of one. -/
  | malformedListParameter (line : Nat) (text : String)
  /-- The database failed. -/
  | loadFailed (routine : String) (cause : DatabaseError)
  /-- A bulk insert directive lists more or fewer columns than its table has. -/
  | columnCountMismatch (table : String) (expected actual : Nat)
  /-- A parameter directive names no parameter of the routine. -/
  | unknownListParameter (name : String)
  /-- The declared return type is none of the allowed ones. -/
  | invalidReturnType (returnType : String)
  deriving DecidableEq, Repr

namespace LoadError

/-- The wording of a cause. -/
def message : LoadError → String
  | sourceUnreadable path => "Unable to read routine source: " ++ path
  | unknownPlaceholder tokens =>
    "Unknown placeholder(s) found: " ++ ", ".intercalate tokens
  | missingDesignationType => "Unable to find the designation type of the stored routine"
  | malformedBulkInsert found =>
    "Expected: -- type: bulk_insert <table_name> <columns>, found: '" ++ found ++ "'"
  | unexpectedArguments kind arguments =>
    "Designation type '" ++ kind ++ "' does not take arguments, found: '" ++ arguments ++ "'"
  | signatureNotFound => "Unable to find the stored routine name and type"
  | nameMismatch expected found =>
    "Stored routine name '" ++ found ++ "' does not correspond with filename '" ++ expected ++ "'"
  | duplicateListParameter name => "Duplicate parameter directive for '" ++ name ++ "'"
  | malformedListParameter line text =>
    "Line " ++ toString line ++
      ": expected: -- param: <name> <type_of_list> [delimiter enclosure escape], found: '" ++
      text ++ "'"
  | loadFailed routine cause =>
    "Failed to load stored routine '" ++ routine ++ "': " ++ cause.message
  | columnCountMismatch table expected actual =>
    "Number of fields " ++ toString expected ++ " and number of columns " ++ toString actual ++
      " of table '" ++ table ++ "' don't match"
  | unknownListParameter name =>
    "Parameter directive '" ++ name ++ "' does not match any parameter of the stored routine"
  | invalidReturnType returnType =>
    "Return type '" ++ returnType ++ "' must be 'mixed', 'bool', or a combination of int, " ++
      "double (or float), string, and null"

end LoadError

end StoredRoutines
