import ScoreSieve.Main
import ScoreSieve.Proofs.Meaning
import ScoreSieve.Proofs.Grammar
import ScoreSieve.Proofs.Reading
import ScoreSieve.Proofs.RoundTrip
import ScoreSieve.Proofs.Legacy
import ScoreSieve.Proofs.Synonym
import ScoreSieve.Proofs.Negation
import ScoreSieve.Proofs.Reread
import ScoreSieve.Proofs.Signs
import ScoreSieve.Proofs.Contradiction
import ScoreSieve.Proofs.PairOrder
import ScoreSieve.Proofs.Unrestricted
import ScoreSieve.Proofs.Unmentioned
import ScoreSieve.Proofs.WritingOrder
import ScoreSieve.Proofs.Fusing
import ScoreSieve.Proofs.Stages
import ScoreSieve.Proofs.Settling
import ScoreSieve.Proofs.Alternatives
import ScoreSieve.Proofs.Renormalizing
import ScoreSieve.Proofs.Unknown
import ScoreSieve.Proofs.Faults
import ScoreSieve.Proofs.Changes
import ScoreSieve.Proofs.Selecting
import ScoreSieve.Proofs.Labels
import ScoreSieve.Proofs.ScoreFile
