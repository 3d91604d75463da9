import Relmap.Criteria.Operator
import Relmap.Text.Quoted

/-!
# Faults

What can go wrong, sorted by where it goes wrong: in the description of a schema, in a look-up
against it, in the configuration, in a statement, or inside the library. Every fault has one text;
`stated` is a fault that a caller words.
-/

namespace Relmap

open Text (quotedNames)

/-- A text between double quotes. -/
def quote (s : String) : String := "\"" ++ s ++ "\""

/-- A description of a table that contradicts itself. -/
inductive MappingFault where
  | stated (text : String)
  | unknownType (name : String) (known : List String)
  | noIdentifier (table : String)
  | compositeIdentifier (table : String)
  | discriminatorTaken (discriminator : String)
  | propertyTaken (property : String)
  | foreignColumnTaken (column : String)
  | emptyTableName
  | strayIdentifier (column table : String)
  | strayTranslationColumn (column table : String)
  | fixedJoin (property : String)
  | needlessForeignKey (property : String)
  | missingForeignKey (property : String)
deriving DecidableEq, Repr

/-- A name that a schema does not have, found out while it is in use. -/
inductive LookupFault where
  | stated (text : String)
  | notTranslationTable (table : String)
  | unknownProperty (property owner : String) (available : List String)
  | unknownForeignColumn (column owner : String) (available : List String)
  | unknownColumn (column table : String) (available : List String)
  | unknownPathColumn (field owner : String) (columns relationships : List String)
  | noSubclasses (discriminator table : String)
  | unknownDiscriminator (discriminator table : String) (available : List String)
  | noTranslation (table : String)
  | queryNotStarted
deriving DecidableEq, Repr

/-- Tables that do not fit together, or a database that cannot be used. -/
inductive ConfigurationFault where
  | stated (text : String)
  | tableTaken (table : String)
  | entityTaken (translation : Bool) (entity : String)
  | missingSubclass (child table : String)
  | missingTranslation (translation table : String)
  | twoParents (child first second : String)
  | notTranslationTable (translation table : String)
  | inheritanceCycle (table : String)
  | unknownTable (table : String)
  | unknownEntity (entity : String)
  | unknownTranslationEntity (entity : String)
  | noSql (driver : String)
  | invalidUrl (holder url reason : String)
  | unsupportedScheme (scheme url : String)
  | otherScheme (url : String)
  | noGeneratedIds
deriving DecidableEq, Repr

/-- Criteria or a statement that cannot be rendered. -/
inductive StatementFault where
  | stated (text : String)
  | noOperands (kind : Composite)
  | operandCount (count : Nat)
  | textRequired (op : Operator) (field kind : String)
  | emptyOperands (keyword : String)
  | unboundPlaceholder (name : String)
  | notOrderable (column table : String) (available : List String)
  | invalidDirection (text : String)
deriving DecidableEq, Repr

/-- A mistake of a caller of the library, or an answer that a driver must not give. -/
inductive InternalFault where
  | stated (text : String)
  | unknownOperator (text : String)
  | unknownComposite (text : String)
  | undeclaredColumn (column : String)
  | positionInNamedText
  | countForRows
  | rowsForCount
  | noCount
  | noInsertedId
deriving DecidableEq, Repr

namespace MappingFault

def text : MappingFault → String
  | .stated text => text
  | .unknownType name known =>
    "unknown column type " ++ quote name ++ ". Known types: " ++ quotedNames known
  | .noIdentifier table => "No ID column defined for schema " ++ quote table
  | .compositeIdentifier table =>
    "Attempted to get single ID column on composite primary key schema " ++ quote table
  | .discriminatorTaken discriminator =>
    quote discriminator ++ " is already added as a discriminator for a subtype."
  | .propertyTaken property => quote property ++ " is already added as foreign property."
  | .foreignColumnTaken column => quote column ++ " is already added as foreign column."
  | .emptyTableName => "table name must not be empty"
  | .strayIdentifier column table =>
    "identifier column " ++ quote column ++ " is not a column of " ++ quote table
  | .strayTranslationColumn column table =>
    "translation column " ++ quote column ++ " is not a column of " ++ quote table
  | .fixedJoin property =>
    "join type of one-to-many relationship " ++ quote property ++ " cannot be changed"
  | .needlessForeignKey property =>
    "one-to-many relationship " ++ quote property ++ " cannot declare a foreign key"
  | .missingForeignKey property =>
    "relationship " ++ quote property ++ " requires a foreign key column"

end MappingFault

namespace LookupFault

def text : LookupFault → String
  | .stated text => text
  | .notTranslationTable table => quote table ++ " is not a translation table"
  | .unknownProperty property owner available =>
    quote property ++ " does not exist as a relationship for " ++ quote owner
      ++ " class metadata. Available relationship property: " ++ quotedNames available
  | .unknownForeignColumn column owner available =>
    quote column ++ " does not exist as a relationship for " ++ quote owner
      ++ " class metadata. Available relationship columns: " ++ quotedNames available
  | .unknownColumn column table available =>
    "Column " ++ quote column ++ " does not exist in " ++ quote table
      ++ " table. Available columns: " ++ quotedNames available
  | .unknownPathColumn field owner columns relationships =>
    quote field ++ " does not exist as available column on " ++ quote owner
      ++ " schema metadata. Available columns: " ++ quotedNames columns
      ++ ". Available relationships: " ++ quotedNames relationships
  | .noSubclasses discriminator table =>
    quote discriminator ++ " is not registered as a subclass for table " ++ quote table
      ++ ". There are no registered subclasses"
  | .unknownDiscriminator discriminator table available =>
    quote discriminator ++ " is not registered as a subclass for table " ++ quote table
      ++ ". Available discriminators: " ++ quotedNames available
  | .noTranslation table =>
    quote table ++ " does not contain translation metadata. "
      ++ "Ensure that a translation table has been configured."
  | .queryNotStarted => "Query is not initialized."

end LookupFault

namespace ConfigurationFault

def text : ConfigurationFault → String
  | .stated text => text
  | .tableTaken table =>
    "Unable to register table schema metadata for " ++ quote table
      ++ " table. Schema metadata is already registered."
  | .entityTaken translation entity =>
    "Unable to register "
      ++ (if translation then "translation schema metadata" else "schema metadata")
      ++ " for " ++ quote entity ++ " class. Schema metadata is already registered."
  | .missingSubclass child table =>
    "subclass table " ++ quote child ++ " of " ++ quote table ++ " is not registered"
  | .missingTranslation translation table =>
    "translation table " ++ quote translation ++ " of " ++ quote table ++ " is not registered"
  | .twoParents child first second =>
    quote child ++ " is registered as a subclass of both " ++ quote first ++ " and " ++ quote second
  | .notTranslationTable translation table =>
    quote translation ++ " is linked as translation of " ++ quote table
      ++ " but is not configured as a translation table"
  | .inheritanceCycle table => "inheritance cycle detected at " ++ quote table
  | .unknownTable table =>
    "Failed to find metadata for table " ++ quote table
      ++ ". Did you forget to register a schema provider for it?"
  | .unknownEntity entity =>
    "Failed to find metadata for " ++ quote entity
      ++ " class. Did you forget to register a schema provider for it?"
  | .unknownTranslationEntity entity =>
    "Failed to find translation metadata for " ++ quote entity
      ++ " class. Did you forget to register a translation schema provider for it?"
  | .noSql driver => "driver does not execute SQL; driver=" ++ driver
  | .invalidUrl holder url reason => "invalid " ++ holder ++ " url " ++ quote url ++ ": " ++ reason
  | .unsupportedScheme scheme url => "unsupported database; scheme=" ++ scheme ++ "; url=" ++ url
  | .otherScheme url => "connection URL does not have a `sqlite` scheme; url=" ++ url
  | .noGeneratedIds => "driver cannot report generated row ids"

end ConfigurationFault

namespace StatementFault

def text : StatementFault → String
  | .stated text => text
  | .noOperands kind => kind.name ++ " expression requires at least one operand"
  | .operandCount count =>
    "NOT expression requires exactly one operand, got " ++ toString count
  | .textRequired op field kind =>
    op.name ++ " requires a string value for " ++ quote field ++ ", got " ++ kind
  | .emptyOperands keyword => "cannot serialize an empty " ++ keyword ++ " expression"
  | .unboundPlaceholder name => "no value is bound to placeholder \":" ++ name ++ "\""
  | .notOrderable column table available =>
    quote column ++ " does not exist in " ++ quote table
      ++ ", or is not available for ordering. Available columns are: " ++ quotedNames available
  | .invalidDirection text =>
    quote text ++ " is not a valid ordering direction. Expected \"ASC\" or \"DESC\""

end StatementFault

namespace InternalFault

def text : InternalFault → String
  | .stated text => text
  | .unknownOperator text => "Unknown comparison operator: " ++ text
  | .unknownComposite text => "Unknown composite " ++ text
  | .undeclaredColumn column => "no subclass table declares " ++ quote column
  | .positionInNamedText => "positional placeholder in named serialization"
  | .countForRows => "expected rows, got an affected row count"
  | .rowsForCount => "expected an affected row count, got rows"
  | .noCount => "count query returned no count"
  | .noInsertedId => "driver did not report the inserted row id"

end InternalFault
end Relmap
