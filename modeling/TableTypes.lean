import TableTypes.Main
import TableTypes.Host.Machine
import TableTypes.Manifest
import TableTypes.Proofs.TypeScript.References
import TableTypes.Proofs.LineDiff.Patch
import TableTypes.Proofs.LineDiff.PatchText
import TableTypes.Proofs.LineDiff.HunkShape
import TableTypes.Proofs.LineDiff.TwoRows
import TableTypes.Proofs.Symbol.Names
import TableTypes.Proofs.Symbol.Reach
import TableTypes.Proofs.Symbol.GivenNames
import TableTypes.Proofs.Interfaces.Identifiers
import TableTypes.Proofs.Dictionary
import TableTypes.Proofs.Interfaces.Renaming
import TableTypes.Proofs.Interfaces.TextParts
import TableTypes.Proofs.Interfaces.Registrations
import TableTypes.Proofs.Interfaces.Declarations
import TableTypes.Proofs.Interfaces.BoundNames
import TableTypes.Proofs.Interfaces.Tables
import TableTypes.Proofs.Interfaces.Layout
import TableTypes.Proofs.Interfaces.SelfContained
import TableTypes.Proofs.Interfaces.EnumLabels
import TableTypes.Proofs.Interfaces.TableOrder
import TableTypes.Proofs.Unicode.CaseMap
import TableTypes.Proofs.Interfaces.Collected
import TableTypes.Proofs.Interfaces.ColumnNames
import TableTypes.Proofs.Interfaces.GlobalTypes
import TableTypes.Proofs.Interfaces.Places
import TableTypes.Proofs.Interfaces.TypeVariables
import TableTypes.Proofs.Database.TableNames
import TableTypes.Proofs.Database.StatementOrder
import TableTypes.Proofs.Host.FileSystem
import TableTypes.Proofs.Generation
import TableTypes.Proofs.Interfaces.HelperNames
import TableTypes.Proofs.Text.Cut
import TableTypes.Proofs.Interfaces.CustomImports
import TableTypes.Proofs.Unicode.Lowercase
import TableTypes.Proofs.Database.Spelling
import TableTypes.Proofs.Sql.EnumText
import TableTypes.Proofs.Database.Introspected
import TableTypes.Proofs.UnqualifiedNames
import TableTypes.Proofs.Text.Quoted
import TableTypes.Proofs.TypeScript.PrintedText
import TableTypes.Proofs.TypeScript.UniqueReading
import TableTypes.Proofs.TypeScript.Grouping
import TableTypes.Proofs.TypeScript.CommentBlocks
import TableTypes.Proofs.Database.Views
import TableTypes.Proofs.ViewTypes
import TableTypes.Proofs.TypedColumns
import TableTypes.Proofs.Validation
import TableTypes.Proofs.CommandLine.Maps
import TableTypes.Proofs.ImportSpecs
import TableTypes.Proofs.Interfaces.Agreement
import TableTypes.Proofs.Interfaces.TypeMappings
import TableTypes.Proofs.Symbol.DisplayText
import TableTypes.Proofs.Interfaces.TextLiterals
import TableTypes.Proofs.Sql.Grammar
import TableTypes.Proofs.Sql.CheckText
import TableTypes.Proofs.Sql.StringLists
import TableTypes.Proofs.Database.Checks
import TableTypes.Proofs.Database.CatalogNames
import TableTypes.Proofs.Database.ColumnTypes
import TableTypes.Proofs.Database.DomainChains
import TableTypes.Proofs.Sql.DomainText
import TableTypes.Proofs.Database.DomainNames
import TableTypes.Proofs.Database.TableIdentity
import TableTypes.Proofs.Database.DecoratedTypes
import TableTypes.Proofs.Database.TypeDecoration
import TableTypes.Proofs.Text.Mentions
import TableTypes.Proofs.Database.Partitions
import TableTypes.Proofs.Sql.CountingText
import TableTypes.Proofs.Database.AutoIncrement
import TableTypes.Proofs.Sql.ItemText
import TableTypes.Proofs.Sql.ViewText
import TableTypes.Proofs.Sql.ViewHeader
import TableTypes.Proofs.Sql.SelectionText
import TableTypes.Proofs.Database.ViewSources
import TableTypes.Proofs.Database.PrimaryKeys
import TableTypes.Proofs.Database.EnumTypes
import TableTypes.Proofs.Sql.CommentText
import TableTypes.Proofs.Database.Comments
import TableTypes.Proofs.Database.CommentedViews
import TableTypes.Proofs.TablePattern
import TableTypes.Proofs.Naming.Words
import TableTypes.Proofs.Naming.WholeWords
import TableTypes.Proofs.Naming.SingularForms
import TableTypes.Proofs.Choices
