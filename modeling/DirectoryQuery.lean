import DirectoryQuery.Main
import DirectoryQuery.Workspace
import DirectoryQuery.Proofs.SearchFilter.Item
import DirectoryQuery.Proofs.SearchFilter.Grammar
import DirectoryQuery.Proofs.Condition.Reading
import DirectoryQuery.Proofs.ConditionSet.Reading
import DirectoryQuery.Proofs.SearchFilter.Truth
import DirectoryQuery.Proofs.ConditionSet.Meaning
import DirectoryQuery.Proofs.ConditionSet.Levels
import DirectoryQuery.Proofs.Directory.SentFilters
import DirectoryQuery.Proofs.ConditionSet.Restriction
import DirectoryQuery.Proofs.Condition.Clause
import DirectoryQuery.Proofs.ConditionSet.Arrangement
import DirectoryQuery.Proofs.CommandLine.Directives
import DirectoryQuery.Proofs.Directory.Certificates
import DirectoryQuery.Proofs.Directory.Address
import DirectoryQuery.Proofs.Log
import DirectoryQuery.Proofs.ConditionSet.Skeleton
import DirectoryQuery.Proofs.ConditionSet.Additions
import DirectoryQuery.Proofs.ConditionSet.Stages
import DirectoryQuery.Proofs.Text.Words
import DirectoryQuery.Proofs.Settings
import DirectoryQuery.Proofs.CommandLine.Query
import DirectoryQuery.Proofs.CommandLine.Course
import DirectoryQuery.Proofs.CommandLine.Drafts
import DirectoryQuery.Proofs.CommandLine.Endings
import DirectoryQuery.Proofs.Directory.Results
import DirectoryQuery.Proofs.CommandLine.SearchedFilter
import DirectoryQuery.Proofs.CommandLine.Influence
import DirectoryQuery.Proofs.CommandLine.Quotation
import DirectoryQuery.Proofs.CommandLine.Groups
import DirectoryQuery.Proofs.Settings.Attributes
import DirectoryQuery.Proofs.CommandLine.ConfiguredFilter
