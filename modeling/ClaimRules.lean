import ClaimRules.Main
import ClaimRules.Proofs.Atomicity
import ClaimRules.Proofs.References
import ClaimRules.Proofs.Lockstep
import ClaimRules.Proofs.Noninterference
import ClaimRules.Proofs.Log
import ClaimRules.Proofs.Machine
import ClaimRules.Proofs.ControlFlow
import ClaimRules.Proofs.RuleLoop
import ClaimRules.Proofs.Formats
import ClaimRules.Proofs.Writes
import ClaimRules.Proofs.WriteFrame
import ClaimRules.Proofs.ReadFootprint
import ClaimRules.Proofs.SuccessFlag
import ClaimRules.Proofs.Operands
import ClaimRules.Proofs.Requirements
import ClaimRules.Proofs.Reached
import ClaimRules.Proofs.Reserved
import ClaimRules.Proofs.Causes
import ClaimRules.Proofs.Localisation
import ClaimRules.Proofs.Spelling
import ClaimRules.Proofs.Loading
import ClaimRules.Proofs.Extraction
import ClaimRules.Proofs.Addressing
import ClaimRules.Proofs.Commutation
import ClaimRules.Proofs.Parts
import ClaimRules.Proofs.Literals
import ClaimRules.Proofs.ReadBack
import ClaimRules.Proofs.Invariants
import ClaimRules.Proofs.Regularity
import ClaimRules.Proofs.WellFormed
import ClaimRules.Proofs.WellFormedRuns
import ClaimRules.Proofs.WrittenForms
import ClaimRules.Proofs.OperandSyntax
import ClaimRules.Proofs.Scanning
import ClaimRules.Proofs.Backtracking
import ClaimRules.Proofs.Unfolding
import ClaimRules.Proofs.PatternWays
import ClaimRules.Proofs.PatternCode
import ClaimRules.Proofs.PatternRuns
import ClaimRules.Proofs.ReferencePatterns
import ClaimRules.Proofs.ReferenceMatches
import ClaimRules.Proofs.LoneReferences
import ClaimRules.Proofs.Rendering
import ClaimRules.Proofs.ArrayIndexes
import ClaimRules.Proofs.Concatenation
import ClaimRules.Proofs.Equality
import ClaimRules.Proofs.Duplicates
import ClaimRules.Proofs.MatchPlaces
import ClaimRules.Proofs.Splitting
import ClaimRules.Proofs.ExhaustiveSearch
import ClaimRules.Proofs.PatternSpans
import ClaimRules.Proofs.LeftmostMatches
import ClaimRules.Proofs.PlainPatterns
import ClaimRules.Proofs.SplitJoin
import ClaimRules.Proofs.PatternVerbs
import ClaimRules.Proofs.PatternGroups
import ClaimRules.Proofs.GroupNumbers
import ClaimRules.Proofs.GroupNames
import ClaimRules.Proofs.Captures
import ClaimRules.Proofs.Replacements
import ClaimRules.Proofs.CaseFolding
import ClaimRules.Proofs.Appending
import ClaimRules.Proofs.Checking
import ClaimRules.Proofs.Comparison
import ClaimRules.Proofs.PartialEquivalence
import ClaimRules.Proofs.DocumentTrees
import ClaimRules.Proofs.Unambiguity
import ClaimRules.Proofs.Readings
import ClaimRules.Proofs.KeyOrder
import ClaimRules.Proofs.RuleGrammar
import ClaimRules.Proofs.Keywords
