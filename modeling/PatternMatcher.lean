import PatternMatcher.Main
import PatternMatcher.Pattern.Assignment
import PatternMatcher.Pattern.Grammar
import PatternMatcher.Search.Recursive
import PatternMatcher.Search.Descent
import PatternMatcher.Proofs.Answers
import PatternMatcher.Proofs.Coverage
import PatternMatcher.Proofs.Greediness
import PatternMatcher.Proofs.Leftmost
import PatternMatcher.Proofs.Anchoring
import PatternMatcher.Proofs.StepLimit
import PatternMatcher.Proofs.Descent
import PatternMatcher.Proofs.Membership
import PatternMatcher.Proofs.Derivations
import PatternMatcher.Proofs.Reading
import PatternMatcher.Proofs.Language
import PatternMatcher.Proofs.RoundTrip
import PatternMatcher.Proofs.Coherence
import PatternMatcher.Proofs.Blocks
import PatternMatcher.Proofs.VisitOrder
import PatternMatcher.Proofs.StepCount
import PatternMatcher.Proofs.StepBound
import PatternMatcher.Proofs.Stars
import PatternMatcher.Proofs.Suffixes
import PatternMatcher.Proofs.Concatenation
import PatternMatcher.Proofs.Diagnosis
import PatternMatcher.Proofs.Sequences
import PatternMatcher.Proofs.Words
import PatternMatcher.Proofs.Padding
import PatternMatcher.Proofs.Unrolling
import PatternMatcher.Proofs.Widening
import PatternMatcher.Proofs.Reversal
import PatternMatcher.Proofs.Renaming
import PatternMatcher.Proofs.Lengths
import PatternMatcher.Proofs.InputLines
import PatternMatcher.Proofs.Independence
import PatternMatcher.Proofs.Survivors
import PatternMatcher.Proofs.Respelling
